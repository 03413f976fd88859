import Yevow.Core.Effect.Asynchrony
import Yevow.Models.DotCast.Pool.Machine

/-!
# The pool object

The handlers of a pool's object over its storage and the services around it. Storage holds
other events back until it has answered; while a service is awaited other requests are handled.
-/

namespace Yevow.DotCast.DotCastPool

open JavaScript (Runtime)

/-- What is audited. -/
inductive DotCastAuditAction
  | create
  | entry
  | lock
  | settle
  | resolution
  | poll
  | void
  deriving DecidableEq

/-- The databases that are configured, and the settings of the router. -/
structure Env where
  tradingDb : Bool
  dotcastDb : Bool
  routerResolutionPollMs : Option String
  routerResolutionMaxGraceMs : Option String

/-- What the router answers. -/
inductive RouterResolutionFetchResult
  | notConfigured (error : String)
  | resolution (resolution : RouterResolution)
  | pending (resolution : RouterResolution)

/-- What a poll of the router came to. -/
inductive Poll
  | ignored
  | held
  | error (error : String)
  | notConfigured (error : String)
  | resolution (action : ResolutionIntakeAction) (reason : ResolutionIntakeReason)
  | pending (action : ResolutionIntakeAction) (reason : ResolutionIntakeReason)

/-- A response, without the odds and the previews that its snapshot is decorated with. -/
inductive Reply
  | alreadyInitialized
  | created (created : Bool) (snapshot : PoolSnapshot)
  | snapshot (snapshot : PoolSnapshot)
  | liveOdds (amount : Option ℤ) (snapshot : PoolSnapshot)
  | duplicate (entry : Entry) (balance : Option StakeBalance) (snapshot : PoolSnapshot)
  | placed (result : PlaceEntryResult) (funding : Option SettlementFunding)
      (snapshot : PoolSnapshot)
  | notReadyToLock (snapshot : PoolSnapshot)
  | resolution (action : ResolutionIntakeAction) (reason : ResolutionIntakeReason)
      (snapshot : PoolSnapshot)
  | poll (poll : Poll) (snapshot : PoolSnapshot)

/-- The calls of a pool object. -/
inductive Call
  | getSnapshot
  | putSnapshot (snapshot : PoolSnapshot)
  | setAlarm (time : Option ℤ)
  | deleteAlarm
  | alarmFired
  | applyUsdcPoolTerminalSettlement (snapshot : PoolSnapshot) (now : String)
  | applyCreatorRakeShareSettlement (snapshot : PoolSnapshot) (now : String)
  | fetchRouterResolution (marketId now : String)
  | writeAuditPlan (action : DotCastAuditAction) (body : Reply)

/-- What a call returns. -/
abbrev Call.Ret : Call → Type
  | .getSnapshot => Option PoolSnapshot
  | .fetchRouterResolution .. => RouterResolutionFetchResult
  | _ => Unit

/-- What a pool object stores. -/
structure Storage where
  snapshot : Option PoolSnapshot
  alarm : Option ℤ

/-- The calls to other services. -/
def Call.awaited : Call → Bool
  | .applyUsdcPoolTerminalSettlement .. | .applyCreatorRakeShareSettlement ..
  | .fetchRouterResolution .. | .writeAuditPlan .. => true
  | _ => false

/-- The storage; an alarm that has fired is no longer scheduled. -/
def serve : Handler Call Call.Ret String Storage
  | .getSnapshot, s => (.ok s.snapshot, s)
  | .putSnapshot snapshot, s => (.ok (), { s with snapshot := some snapshot })
  | .setAlarm (some time), s => (.ok (), { s with alarm := some time })
  | .setAlarm none, s => (.error "setAlarm() requires a valid time", s)
  | .deleteAlarm, s | .alarmFired, s => (.ok (), { s with alarm := none })
  | .fetchRouterResolution .., s => (.ok (.notConfigured ""), s)
  | .applyUsdcPoolTerminalSettlement .., s | .applyCreatorRakeShareSettlement .., s
  | .writeAuditPlan .., s => (.ok (), s)

/-- What serves the calls. -/
def host : Host Call Call.Ret String Storage Unit := ⟨Call.awaited, serve, fun _ _ _ => []⟩

/-- A function of a pool object. -/
abbrev PoolProgram (α : Type) : Type := Program Call Call.Ret String α

abbrev perform (call : Call) : PoolProgram call.Ret := Program.perform call

/-- What is asked of a pool object. -/
inductive Request
  | create (payload : CreatePoolPayload) (now : String)
  | read (now : String)
  | readOdds (amount : Option String) (now : String)
  | placeEntry (payload : PlaceEntryPayload) (now freshId : String)
  | lock (payload : LockPoolPayload) (now : String)
  | settle (payload : SettlePoolPayload) (now : String)
  | applyResolution (payload : RouterResolutionPayload) (now : String)
  | pollResolution (now : String)
  | void (payload : VoidPoolPayload) (now : String)
  | alarm (now : String)

/-! ## Storing a snapshot -/

/-- The stored pool. -/
def readSnapshot : PoolProgram (Option PoolSnapshot) := perform .getSnapshot

/-- The pool must be stored. -/
def requireStored : PoolProgram PoolSnapshot := do
  .done (requireSnapshot (← readSnapshot))

def defaultRouterResolutionPollMs : ℤ := 60000

variable (js : Runtime) (env : Env)

/-- How often the router is asked. -/
def resolvePollIntervalMs (value : Option String) : Except String ℤ := do
  let parsed ← parseEnvNonNegativeInteger js value "DOTCAST_ROUTER_RESOLUTION_POLL_MS"
  return parsed.getD defaultRouterResolutionPollMs

/-- The alarm that the pool needs. -/
def reconcileResolutionAlarm (snapshot : PoolSnapshot) (now : String) : PoolProgram Unit :=
  if snapshot.pool.status = .locked ∨ snapshot.pool.status = .resolving then do
    let interval ← .done (resolvePollIntervalMs js env.routerResolutionPollMs)
    perform (.setAlarm ((js.dateParse now).map fun ms => js.arithmetic.integer (ms + interval)))
  else perform .deleteAlarm

/-- The funds of a finished pool are settled. -/
def reconcileUsdcPoolFunding (snapshot : PoolSnapshot) (now : String) : PoolProgram Unit :=
  if snapshot.pool.unit ≠ .usdc ∨ ¬snapshot.pool.status.Terminal then pure ()
  else if env.tradingDb then perform (.applyUsdcPoolTerminalSettlement snapshot now)
  else .done (.error "E6 USDC pool funding database is not configured")

/-- The rake share of a settled pool. -/
def reconcileCreatorEconomy (snapshot : PoolSnapshot) (now : String) : PoolProgram Unit :=
  if snapshot.pool.status ≠ .settled ∨
      snapshot.pool.originatingCreatorId.filter (· ≠ "") = none then pure ()
  else if env.dotcastDb || env.tradingDb then
    (perform (.applyCreatorRakeShareSettlement snapshot now)).tryCatch fun _ => pure ()
  else .done (.error "E11 creator economy database is not configured")

/-- A pool is stored. -/
def persistSnapshot (snapshot : PoolSnapshot) (now : String) : PoolProgram Unit := do
  perform (.putSnapshot snapshot)
  reconcileResolutionAlarm js env snapshot now
  reconcileUsdcPoolFunding env snapshot now
  reconcileCreatorEconomy env snapshot now

/-- A failure to write the audit ledger is logged only. -/
def audit (action : DotCastAuditAction) (body : Reply) : PoolProgram Unit :=
  if env.tradingDb then
    (perform (.writeAuditPlan action body)).tryCatch fun _ => pure ()
  else pure ()

/-- A pool that locks is stored. -/
def lockIfNeeded (snapshot : PoolSnapshot) (now : String) : PoolProgram PoolSnapshot := do
  match ← .done (lockSnapshotIfNeeded js snapshot now) with
  | .same => return snapshot
  | .fresh next => do
    persistSnapshot js env next now
    audit env .lock (.snapshot next)
    return next

/-! ## Polling the router -/

/-- A poll that changes nothing: it schedules what its snapshot calls for, and is noted. -/
def pollHeld (snapshot : PoolSnapshot) (now : String) (poll : Poll) : PoolProgram Reply := do
  reconcileResolutionAlarm js env snapshot now
  audit env .poll (.poll poll snapshot)
  return .poll poll snapshot

/-- The poll with the router's resolution, on the snapshot from before the fetch. -/
def pollResolved (snapshot : PoolSnapshot) (now : String) (resolution : RouterResolution)
    (poll : ResolutionIntakeAction → ResolutionIntakeReason → Poll) : PoolProgram Reply := do
  let maxGraceMs ← .done (parseEnvNonNegativeInteger js env.routerResolutionMaxGraceMs
    "DOTCAST_ROUTER_RESOLUTION_MAX_GRACE_MS")
  let result ← .done (applyRouterResolution js ⟨snapshot, resolution, now, maxGraceMs⟩)
  persistSnapshot js env result.snapshot now
  audit env .poll (.poll (poll result.action result.reason) result.snapshot)
  return .poll (poll result.action result.reason) result.snapshot

/-- The poll from the router's answer on. -/
def pollFetched (snapshot : PoolSnapshot) (now : String) :
    Except String RouterResolutionFetchResult → PoolProgram Reply
  | .error error => pollHeld js env snapshot now (.error error)
  | .ok (.notConfigured error) => pollHeld js env snapshot now (.notConfigured error)
  | .ok (.resolution resolution) => pollResolved js env snapshot now resolution .resolution
  | .ok (.pending resolution) => pollResolved js env snapshot now resolution .pending

/-- The poll from the locked snapshot on. -/
def pollLocked (now : String) (snapshot : PoolSnapshot) : PoolProgram Reply :=
  if snapshot.pool.status.Terminal then pollHeld js env snapshot now .ignored
  else if snapshot.pool.status ≠ .locked ∧ snapshot.pool.status ≠ .resolving then
    pollHeld js env snapshot now .held
  else .call (.fetchRouterResolution snapshot.pool.marketId now) (pollFetched js env snapshot now)

/-- The router is asked and its answer applied. -/
def pollRouterResolution (now : String) : PoolProgram Reply := do
  let snapshot ← requireStored
  let lockedSnapshot ← lockIfNeeded js env snapshot now
  pollLocked js env now lockedSnapshot

/-! ## The routes -/

/-- A pool is created once. -/
def create (payload : CreatePoolPayload) (now : String) : PoolProgram Reply := do
  match ← readSnapshot with
  | some existing =>
    if existing.pool.marketId ≠ payload.market.id then return .alreadyInitialized
    else return .created false existing
  | none => do
    let snapshot ← .done (planCreation js payload now)
    persistSnapshot js env snapshot now
    audit env .create (.created true snapshot)
    return .created true snapshot

/-- The pool, locked if it is time. -/
def read (now : String) : PoolProgram Reply := do
  let snapshot ← requireStored
  let lockedSnapshot ← lockIfNeeded js env snapshot now
  return .snapshot lockedSnapshot

/-- The odds, and the pool locked if it is time. -/
def readOdds (amount : Option String) (now : String) : PoolProgram Reply := do
  let snapshot ← requireStored
  let lockedSnapshot ← lockIfNeeded js env snapshot now
  let amount ← .done (parseOptionalAmount js amount)
  return .liveOdds amount lockedSnapshot

/-- An entry is placed and stored. -/
def placeEntry (payload : PlaceEntryPayload) (now freshId : String) : PoolProgram Reply := do
  let snapshot ← requireStored
  match ← .done (planPlacement js payload now freshId snapshot) with
  | .duplicate entry balance => return .duplicate entry balance snapshot
  | .placed result funding next => do
    persistSnapshot js env next now
    audit env .entry (.placed result funding next)
    if next.pool.status ≠ result.pool.status then audit env .lock (.snapshot next)
    return .placed result funding next

/-- The pool is locked if it is time. -/
def lock (now : String) : PoolProgram Reply := do
  let snapshot ← requireStored
  let next ← lockIfNeeded js env snapshot now
  if next.pool.status ≠ .locked ∧ next.pool.status ≠ .voided then return .notReadyToLock next
  else return .snapshot next

/-- The handlers that store what they plan and answer with it. -/
def storePlanned (plan : PoolSnapshot → Except String PoolSnapshot) (now : String)
    (action : DotCastAuditAction) : PoolProgram Reply := do
  let snapshot ← requireStored
  let next ← .done (plan snapshot)
  persistSnapshot js env next now
  audit env action (.snapshot next)
  return .snapshot next

/-- The pool is settled. -/
def settle (payload : SettlePoolPayload) (now : String) : PoolProgram Reply :=
  storePlanned js env (planSettlement js payload now) now .settle

/-- The pool is voided. -/
def void (payload : VoidPoolPayload) (now : String) : PoolProgram Reply :=
  storePlanned js env (planVoid js payload now) now .void

/-- A resolution is applied. -/
def applyResolution (payload : RouterResolutionPayload) (now : String) : PoolProgram Reply := do
  let snapshot ← requireStored
  let result ← .done (planResolution js payload now snapshot)
  persistSnapshot js env result.snapshot now
  audit env .resolution (.resolution result.action result.reason result.snapshot)
  return .resolution result.action result.reason result.snapshot

/-- An alarm asks the router. -/
def alarm (now : String) : PoolProgram Reply := do
  perform .alarmFired
  pollRouterResolution js env now

/-- What the object does for a request, or when its alarm fires. -/
def fetch : Request → PoolProgram Reply
  | .create payload now => create js env payload now
  | .read now => read js env now
  | .readOdds amount now => readOdds js env amount now
  | .placeEntry payload now freshId => placeEntry js env payload now freshId
  | .lock _ now => lock js env now
  | .settle payload now => settle js env payload now
  | .applyResolution payload now => applyResolution js env payload now
  | .pollResolution now => pollRouterResolution js env now
  | .void payload now => void js env payload now
  | .alarm now => alarm js env now

/-- A pool object and its running functions. -/
abbrev Object : Type := Isolate Request Call Call.Ret String Reply Storage Unit

/-- What happens to a pool object. -/
abbrev Event : Type := Isolate.Event Request Call Call.Ret String Empty

/-- The object with its storage; nothing else touches it. -/
def setting : Isolate.Setting Request Call Call.Ret String Reply Storage Unit Empty :=
  ⟨fetch js env, host, fun a _ => a.elim⟩

end Yevow.DotCast.DotCastPool
