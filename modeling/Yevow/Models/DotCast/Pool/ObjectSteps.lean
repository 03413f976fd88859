import Yevow.Core.Effect.Settling
import Yevow.Core.Effect.Suspension
import Yevow.Models.DotCast.Pool.Object

/-!
# What a pool object does between two awaited calls

A request stores at most one snapshot before it first waits for a service, and that snapshot is
what one operation makes of the stored one. After that only a poll goes on to touch storage.
-/

namespace Yevow.DotCast

open JavaScript (Runtime Returned)

/-- The pool is closed to entries and not decided yet. -/
def PoolStatus.AwaitsResolution (status : PoolStatus) : Prop :=
  status = .locked ∨ status = .resolving

theorem PoolStatus.AwaitsResolution.not_terminal {status : PoolStatus}
    (h : status.AwaitsResolution) : ¬status.Terminal := by
  rcases h with rfl | rfl <;> simp [PoolStatus.Terminal]

namespace DotCastPool

open Program

/-- The snapshot a call carries that a poll makes before it looks at its locked snapshot. -/
def Call.subject : Call → Option PoolSnapshot
  | .applyUsdcPoolTerminalSettlement snapshot _ => some snapshot
  | .applyCreatorRakeShareSettlement snapshot _ => some snapshot
  | .writeAuditPlan .lock (.snapshot snapshot) => some snapshot
  | _ => none

variable {js : Runtime} {env : Env} {snapshot next : PoolSnapshot} {now : String} {s : Storage}

/-! ## Calls after a snapshot is stored -/

private theorem avoids_audit {bad : Call → Prop} {action : DotCastAuditAction} {body : Reply}
    (h : ¬bad (.writeAuditPlan action body)) : (audit env action body).Avoids bad := by
  unfold audit
  split_ifs
  · exact (avoids_perform h).tryCatch fun _ => trivial
  · trivial

/-- What a store goes on with once its alarm is set. -/
def reconcileServices (env : Env) (snapshot : PoolSnapshot) (now : String) : PoolProgram Unit := do
  reconcileUsdcPoolFunding env snapshot now
  reconcileCreatorEconomy env snapshot now

private theorem avoids_reconcileServices {bad : Call → Prop}
    (husdc : ¬bad (.applyUsdcPoolTerminalSettlement snapshot now))
    (hcreator : ¬bad (.applyCreatorRakeShareSettlement snapshot now)) :
    (reconcileServices env snapshot now).Avoids bad := by
  refine Avoids.bind ?_ fun _ => ?_
  · unfold reconcileUsdcPoolFunding
    split_ifs
    exacts [trivial, avoids_perform husdc, trivial]
  · unfold reconcileCreatorEconomy
    split_ifs
    exacts [trivial, (avoids_perform hcreator).tryCatch fun _ => trivial, trivial]

private theorem idle_reconcileServices : (reconcileServices env snapshot now).Idle host :=
  avoids_reconcileServices (by simp [host, Call.awaited]) (by simp [host, Call.awaited])

private theorem idle_audit {action : DotCastAuditAction} {body : Reply} :
    (audit env action body).Idle host := avoids_audit (by simp [host, Call.awaited])

/-- An alarm that a stored snapshot calls for, where the interval is configured. -/
def Scheduled (js : Runtime) (env : Env) (snapshot : PoolSnapshot) (alarm : Option ℤ) : Prop :=
  snapshot.pool.status.AwaitsResolution →
    (∃ ms, resolvePollIntervalMs js env.routerResolutionPollMs = .ok ms) → alarm.isSome

/-- Reconciling the alarm sets it, where the interval and the time can be read, or deletes it. -/
theorem rests_reconcileResolutionAlarm {α : Type} {f : Unit → PoolProgram α}
    {Q : Storage → PoolProgram α → Prop}
    (hset : ∀ time, snapshot.pool.status.AwaitsResolution →
      (f ()).Rests host Q ⟨s.snapshot, some time⟩)
    (hdelete : ¬snapshot.pool.status.AwaitsResolution → (f ()).Rests host Q ⟨s.snapshot, none⟩)
    (herror : ∀ e, snapshot.pool.status.AwaitsResolution →
      ((∃ ms, resolvePollIntervalMs js env.routerResolutionPollMs = .ok ms) →
        js.dateParse now = none) → Q s (done (.error e))) :
    (reconcileResolutionAlarm js env snapshot now >>= f).Rests host Q s := by
  unfold reconcileResolutionAlarm
  split_ifs with hawaits
  · cases hinterval : resolvePollIntervalMs js env.routerResolutionPollMs with
    | error e => exact herror e hawaits fun ⟨ms, hms⟩ => by simp [hinterval] at hms
    | ok interval =>
      refine (rests_served rfl).mpr ?_
      cases hnow : js.dateParse now with
      | none => exact herror _ hawaits fun _ => hnow
      | some ms => exact hset _ hawaits
  · exact (rests_served rfl).mpr (hdelete hawaits)

/-- A store puts the snapshot and its alarm before it waits for anything. -/
theorem rests_persistSnapshot {α : Type} {f : Unit → PoolProgram α}
    {Q : Storage → PoolProgram α → Prop}
    (hnow : snapshot.pool.status.AwaitsResolution → ∃ ms, js.dateParse now = some ms)
    (h : ∀ alarm, Scheduled js env snapshot alarm →
      (∀ e, Q ⟨some snapshot, alarm⟩ (done (.error e))) ∧
        (reconcileServices env snapshot now >>= f).Rests host Q ⟨some snapshot, alarm⟩) :
    (persistSnapshot js env snapshot now >>= f).Rests host Q s := by
  have hsplit : (persistSnapshot js env snapshot now >>= f) =
      (perform (.putSnapshot snapshot) >>= fun _ =>
        reconcileResolutionAlarm js env snapshot now >>= fun _ =>
          reconcileServices env snapshot now >>= f) := by
    simp only [persistSnapshot, reconcileServices, bind_assoc]
  rw [hsplit]
  refine (rests_served rfl).mpr ?_
  refine rests_reconcileResolutionAlarm (fun time _ => (h _ fun _ _ => rfl).2)
    (fun hawaits => (h _ fun h => absurd h hawaits).2) fun e hawaits hfails => (h _ ?_).1 e
  intro _ hinterval
  obtain ⟨ms, hms⟩ := hnow hawaits
  exact absurd ((hfails hinterval).symm.trans hms) (by simp)

/-- A store that nothing but calls to services follows. -/
theorem rests_persistSnapshot_idle {α : Type} {f : Unit → PoolProgram α}
    (hnow : snapshot.pool.status.AwaitsResolution → ∃ ms, js.dateParse now = some ms)
    (hf : ∀ u, (f u).Idle host) :
    (persistSnapshot js env snapshot now >>= f).Rests host (fun s' p =>
      (∃ alarm, Scheduled js env snapshot alarm ∧ s' = ⟨some snapshot, alarm⟩) ∧ p.Idle host)
      s := by
  refine rests_persistSnapshot hnow fun alarm halarm =>
    ⟨fun e => ⟨⟨alarm, halarm, rfl⟩, trivial⟩, ?_⟩
  have hidle : (reconcileServices env snapshot now >>= f).Idle host :=
    idle_reconcileServices.bind hf
  exact hidle.rests_iff.mpr ⟨⟨alarm, halarm, rfl⟩, hidle⟩

/-! ## When a snapshot that awaits its resolution is stored -/

private theorem lockSnapshotIfNeeded_eq_fresh {returned : Returned PoolSnapshot}
    (h : lockSnapshotIfNeeded js snapshot now = .ok returned) :
    (∃ next, returned = .fresh next) ∧ ∃ ms, js.dateParse now = some ms := by
  obtain ⟨lock, hlock, hrest⟩ := Except.bind_eq_ok.mp h
  obtain ⟨ms, hms, -⟩ := Except.bind_eq_ok.mp hlock
  refine ⟨?_, ms, assertIso_eq_ok.mp hms⟩
  cases lock with
  | same => exact ⟨_, (Except.ok.inj hrest).symm⟩
  | fresh pool =>
    simp only at hrest
    split at hrest
    · obtain ⟨voided, -, hout⟩ := Except.bind_eq_ok.mp hrest
      exact ⟨_, (Except.ok.inj hout).symm⟩
    · exact ⟨_, (Except.ok.inj hrest).symm⟩

private theorem applyRouterResolution_now {input : ResolutionIntakeInput}
    {result : ResolutionIntakeResult} (h : applyRouterResolution js input = .ok result) :
    ∃ ms, js.dateParse input.now = some ms := by
  obtain ⟨ms, hms, -⟩ := Except.bind_eq_ok.mp h
  exact ⟨ms, assertIso_eq_ok.mp hms⟩

private theorem voidPoolSnapshot_voided {reason : VoidReason} {outcome : Option PoolOutcome}
    (h : voidPoolSnapshot js snapshot reason now outcome = .ok next) :
    next.pool.status = .voided := by
  rcases voidPoolSnapshot_eq_ok h with ⟨hvoided, rfl⟩ | ⟨-, _, _, -, rfl⟩
  · exact hvoided
  · rfl

private theorem settlePoolSnapshot_terminal {outcome : PoolOutcome}
    (h : settlePoolSnapshot js snapshot outcome now = .ok next) : next.pool.status.Terminal := by
  rcases settlePoolSnapshot_eq_ok h with ⟨hterminal, rfl⟩ | ⟨-, -, hvoid⟩ |
    ⟨_, _, _, -, -, -, -, ⟨_, -, hvoid⟩ | ⟨_, -, hdivide⟩⟩
  · exact hterminal
  · exact Or.inr (voidPoolSnapshot_voided hvoid)
  · exact Or.inr (voidPoolSnapshot_voided hvoid)
  · obtain ⟨_, _, -, rfl⟩ := settledSnapshot_eq_ok hdivide
    exact Or.inl rfl

/-! ## A request up to its first awaited call -/

/-- The snapshot is what one operation makes of the stored one. -/
inductive Written (js : Runtime) : Option PoolSnapshot → PoolSnapshot → Prop
  | created {payload : CreatePoolPayload} {now : String} {next : PoolSnapshot}
      (hplan : planCreation js payload now = .ok next) : Written js none next
  | placed {stored next : PoolSnapshot} {payload : PlaceEntryPayload} {now freshId : String}
      {result : PlaceEntryResult} {funding : Option SettlementFunding}
      (hop : (PoolOperation.placeEntry payload now freshId).Admissible ⟨some stored, 0⟩)
      (hplan : planPlacement js payload now freshId stored = .ok (.placed result funding next)) :
      Written js (some stored) next
  | locked {stored next : PoolSnapshot} {now : String}
      (hplan : lockSnapshotIfNeeded js stored now = .ok (.fresh next)) :
      Written js (some stored) next
  | settled {stored next : PoolSnapshot} {payload : SettlePoolPayload} {now : String}
      (hplan : planSettlement js payload now stored = .ok next) : Written js (some stored) next
  | resolved {stored : PoolSnapshot} {payload : RouterResolutionPayload} {now : String}
      {result : ResolutionIntakeResult}
        (hplan : planResolution js payload now stored = .ok result) :
      Written js (some stored) result.snapshot
  | voided {stored next : PoolSnapshot} {payload : VoidPoolPayload} {now : String}
      (hplan : planVoid js payload now stored = .ok next) : Written js (some stored) next

/-- What is left of a poll on a locked snapshot: it waits for the services that hear of the
lock, or for the router. -/
inductive Polling (js : Runtime) (env : Env) (snapshot : PoolSnapshot) (now : String) :
    PoolProgram Reply → Prop
  | locking {call : Call} {rest : Except String call.Ret → PoolProgram PoolSnapshot}
      (hcalls : (Program.call call rest).Avoids fun call =>
        ¬(call.awaited = true ∧ call.subject = some snapshot))
      (hrest : (Program.call call rest).Ensures (· = snapshot)) :
      Polling js env snapshot now (Program.call call rest >>= pollLocked js env now)
  | fetching (hawaits : snapshot.pool.status.AwaitsResolution) :
      Polling js env snapshot now
        (.call (.fetchRouterResolution snapshot.pool.marketId now)
          (pollFetched js env snapshot now))

/-- A placement brings an entry id that is not in use. -/
def Request.Admissible (s : Storage) : Request → Prop
  | .placeEntry payload now freshId =>
    (PoolOperation.placeEntry payload now freshId).Admissible ⟨s.snapshot, 0⟩
  | _ => True

/-- The requests that ask the router. -/
def Request.Polls : Request → Prop
  | .pollResolution _ | .alarm _ => True
  | _ => False

/-- The alarm fires, and the pool cannot be locked. -/
def FiresInVain (js : Runtime) (request : Request) (s : Storage) : Prop :=
  ∃ now, request = .alarm now ∧ ∀ stored, s.snapshot = some stored →
    ∃ e, lockSnapshotIfNeeded js stored now = .error e

/-- What a request comes to before it waits: storage is as it was but for an alarm that has
fired in vain, or one operation's snapshot is stored. -/
inductive Outcome (js : Runtime) (env : Env) (request : Request) (s : Storage) :
    Storage → PoolProgram Reply → Prop
  | kept {alarm : Option ℤ} {p : PoolProgram Reply}
      (halarm : alarm = s.alarm ∨ FiresInVain js request s) (hp : p.Idle host) :
      Outcome js env request s ⟨s.snapshot, alarm⟩ p
  | wrote {next : PoolSnapshot} {alarm : Option ℤ} {p : PoolProgram Reply}
      (hwritten : Written js s.snapshot next) (halarm : Scheduled js env next alarm)
      (hp : p.Idle host ∨ request.Polls ∧ ∃ now, Polling js env next now p) :
      Outcome js env request s ⟨some next, alarm⟩ p

/-- A poll that changes nothing but the alarm, which it leaves scheduled where its snapshot
calls for one. -/
theorem rests_pollHeld {poll : Poll} :
    (pollHeld js env snapshot now poll).Rests host (fun s' p => ∃ alarm, s' = ⟨s.snapshot, alarm⟩ ∧
      (snapshot.pool.status.AwaitsResolution → s.alarm.isSome → alarm.isSome) ∧ p.Idle host) s := by
  have hidle : (audit env .poll (.poll poll snapshot) >>= fun _ =>
      pure (.poll poll snapshot) : PoolProgram Reply).Idle host :=
    idle_audit.bind fun _ => trivial
  exact rests_reconcileResolutionAlarm
    (fun time _ => hidle.rests_iff.mpr ⟨_, rfl, fun _ _ => rfl, hidle⟩)
    (fun hawaits => hidle.rests_iff.mpr ⟨_, rfl, fun h => absurd h hawaits, hidle⟩)
    fun e _ _ => ⟨_, rfl, fun _ => id, trivial⟩

/-- A poll whose lock is stored waits on, or it leaves an alarm that is not called for. -/
def Polled (js : Runtime) (env : Env) (snapshot : PoolSnapshot) (now : String) (s s' : Storage)
    (p : PoolProgram Reply) : Prop :=
  s' = s ∧ (p.Idle host ∨ Polling js env snapshot now p) ∨
    ¬snapshot.pool.status.AwaitsResolution ∧ (∃ alarm, s' = ⟨s.snapshot, alarm⟩) ∧ p.Idle host

/-- A poll goes on with the locked snapshot once nothing is left to wait for. -/
theorem rests_bind_pollLocked {p : PoolProgram PoolSnapshot}
    (hcalls : p.Avoids fun call => ¬(call.awaited = true ∧ call.subject = some snapshot))
    (hrest : p.Ensures (· = snapshot)) :
    (p >>= pollLocked js env now).Rests host (Polled js env snapshot now s) s := by
  rcases p with (e | locked) | ⟨call, rest⟩
  · exact Or.inl ⟨rfl, Or.inl trivial⟩
  · obtain rfl : locked = snapshot := hrest
    have hheld : ∀ poll, ¬locked.pool.status.AwaitsResolution →
        (pollHeld js env locked now poll).Rests host (Polled js env locked now s) s :=
      fun poll hawaits => rests_pollHeld.mono fun s' p ⟨alarm, hs', _, hp⟩ =>
        Or.inr ⟨hawaits, ⟨alarm, hs'⟩, hp⟩
    show (pollLocked js env now locked).Rests host _ s
    unfold pollLocked
    split_ifs with hterminal hopen
    · exact hheld _ fun h => h.not_terminal hterminal
    · exact hheld _ fun h => by rcases h with h | h <;> simp [h] at hopen
    · have hawaits : locked.pool.status.AwaitsResolution := by
        unfold PoolStatus.AwaitsResolution
        by_contra hno
        exact hopen (not_or.mp hno)
      exact (rests_awaited rfl).mpr (Or.inl ⟨rfl, Or.inr (.fetching hawaits)⟩)
  · have hawaited : host.awaited call = true := (not_not.mp hcalls.1).1
    exact (rests_awaited hawaited).mpr (Or.inl ⟨rfl, Or.inr (.locking hcalls hrest)⟩)

/-- What follows a lock that is stored. -/
def reportLocked (env : Env) (next : PoolSnapshot) (now : String) : PoolProgram PoolSnapshot := do
  reconcileServices env next now
  audit env .lock (.snapshot next)
  return next

private theorem reportLocked_avoids {bad : Call → Prop}
    (husdc : ¬bad (.applyUsdcPoolTerminalSettlement next now))
    (hcreator : ¬bad (.applyCreatorRakeShareSettlement next now))
    (haudit : ¬bad (.writeAuditPlan .lock (.snapshot next))) :
    (reportLocked env next now).Avoids bad :=
  (avoids_reconcileServices husdc hcreator).bind fun _ => (avoids_audit haudit).bind fun _ =>
    trivial

private theorem reportLocked_idle : (reportLocked env next now).Idle host :=
  reportLocked_avoids (by simp [host, Call.awaited]) (by simp [host, Call.awaited])
    (by simp [host, Call.awaited])

private theorem reportLocked_ensures : (reportLocked env next now).Ensures (· = next) :=
  ensures_bind fun _ => ensures_bind fun _ => rfl

/-- Locking stores a snapshot before it waits, or throws. -/
theorem rests_lockIfNeeded {α : Type} {f : PoolSnapshot → PoolProgram α}
    {Q : Storage → PoolProgram α → Prop}
    (herror : ∀ e, lockSnapshotIfNeeded js snapshot now = .error e → Q s (done (.error e)))
    (hlock : ∀ next, lockSnapshotIfNeeded js snapshot now = .ok (.fresh next) → ∀ alarm,
      Scheduled js env next alarm → (∀ e, Q ⟨some next, alarm⟩ (done (.error e))) ∧
        (reportLocked env next now >>= f).Rests host Q ⟨some next, alarm⟩) :
    (lockIfNeeded js env snapshot now >>= f).Rests host Q s := by
  unfold lockIfNeeded
  cases hplan : lockSnapshotIfNeeded js snapshot now with
  | error e => exact herror e hplan
  | ok returned =>
    obtain ⟨⟨next, rfl⟩, hnow⟩ := lockSnapshotIfNeeded_eq_fresh hplan
    simp only [ok_bind, bind_assoc]
    refine rests_persistSnapshot (fun _ => hnow) fun alarm halarm => ?_
    obtain ⟨hfail, hrest⟩ := hlock next hplan alarm halarm
    refine ⟨hfail, ?_⟩
    simpa only [reportLocked, bind_assoc] using hrest

private theorem rests_requireStored {α : Type} {f : PoolSnapshot → PoolProgram α}
    {Q : Storage → PoolProgram α → Prop}
    (hnone : s.snapshot = none → ∀ e, Q s (done (.error e)))
    (hsome : ∀ snapshot, s.snapshot = some snapshot → (f snapshot).Rests host Q s) :
    (requireStored >>= f).Rests host Q s := by
  refine (rests_served rfl).mpr ?_
  show ((done (requireSnapshot s.snapshot) : PoolProgram PoolSnapshot) >>= f).Rests host Q s
  cases hstored : s.snapshot with
  | none => exact hnone hstored _
  | some snapshot => exact hsome snapshot hstored

section Requests

variable {request : Request}

private theorem Outcome.error (e : String) : Outcome js env request s s (done (.error e)) :=
  .kept (Or.inl rfl) trivial

/-- The routes that lock a pool and answer with it. -/
theorem locked_outcome {f : PoolSnapshot → PoolProgram Reply} (hf : ∀ next, (f next).Idle host) :
    (requireStored >>= fun snapshot => lockIfNeeded js env snapshot now >>= f).Rests host
      (Outcome js env request s) s := by
  refine rests_requireStored (fun _ => .error) fun stored hstored => ?_
  refine rests_lockIfNeeded (fun e _ => .error e) fun next hlock alarm halarm => ?_
  have hwritten : Written js s.snapshot next := hstored ▸ .locked hlock
  have hidle : (reportLocked env next now >>= f).Idle host := reportLocked_idle.bind hf
  exact ⟨fun e => .wrote hwritten halarm (Or.inl trivial),
    hidle.rests_iff.mpr (.wrote hwritten halarm (Or.inl hidle))⟩

/-- A poll, where the alarm that it found may have fired. -/
theorem poll_outcome (hpolls : request.Polls) {alarm : Option ℤ}
    (halarm : alarm = s.alarm ∨ request = .alarm now) :
    (pollRouterResolution js env now).Rests host (Outcome js env request s)
      ⟨s.snapshot, alarm⟩ := by
  have hkept : ∀ e, (∀ stored, s.snapshot = some stored →
      ∃ e, lockSnapshotIfNeeded js stored now = .error e) →
      Outcome js env request s ⟨s.snapshot, alarm⟩ (done (.error e)) := fun e hfails =>
    .kept (halarm.imp_right fun h => ⟨now, h, hfails⟩) trivial
  refine rests_requireStored (fun hnone e => hkept e fun stored h => ?_) fun stored hstored => ?_
  · exact absurd (hnone.symm.trans h) (by simp)
  refine rests_lockIfNeeded (fun e herror => hkept e fun stored' h => ?_)
    fun next hlock alarm halarm => ?_
  · obtain rfl := Option.some.inj (hstored.symm.trans h)
    exact ⟨e, herror⟩
  have hwritten : Written js s.snapshot next :=
    (show s.snapshot = some stored from hstored) ▸ .locked hlock
  refine ⟨fun e => .wrote hwritten halarm (Or.inl trivial), ?_⟩
  refine (rests_bind_pollLocked ?_ reportLocked_ensures).mono ?_
  · exact reportLocked_avoids (by simp [Call.awaited, Call.subject])
      (by simp [Call.awaited, Call.subject]) (by simp [Call.awaited, Call.subject])
  · rintro s' p (⟨rfl, hp⟩ | ⟨hawaits, ⟨alarm, rfl⟩, hp⟩)
    · exact .wrote hwritten halarm (hp.imp_right fun h => ⟨hpolls, now, h⟩)
    · exact .wrote hwritten (fun h => absurd h hawaits) (Or.inl hp)

/-- The routes that store what they plan. -/
theorem stored_outcome {f : Unit → PoolProgram Reply} (hwritten : Written js s.snapshot next)
    (hnow : next.pool.status.AwaitsResolution → ∃ ms, js.dateParse now = some ms)
    (hf : ∀ u, (f u).Idle host) :
    (persistSnapshot js env next now >>= f).Rests host (Outcome js env request s) s := by
  refine (rests_persistSnapshot_idle hnow hf).mono ?_
  rintro s' p ⟨⟨alarm, halarm, rfl⟩, hp⟩
  exact .wrote hwritten halarm (Or.inl hp)

/-- The handlers that settle or void a pool. -/
theorem storePlanned_outcome {plan : PoolSnapshot → Except String PoolSnapshot}
    {action : DotCastAuditAction}
    (hplan : ∀ stored next, plan stored = .ok next →
      Written js (some stored) next ∧ next.pool.status.Terminal) :
    (storePlanned js env plan now action).Rests host (Outcome js env request s) s := by
  refine rests_requireStored (fun _ => .error) fun stored hstored => ?_
  cases hnext : plan stored with
  | error e => exact .error e
  | ok next =>
    obtain ⟨hwritten, hterminal⟩ := hplan stored next hnext
    exact stored_outcome (hstored ▸ hwritten) (fun h => absurd hterminal h.not_terminal)
      fun _ => idle_audit.bind fun _ => trivial

/-- Every request keeps what is stored or stores what one operation makes of it. -/
theorem fetch_outcome (hadmissible : request.Admissible s) :
    (fetch js env request).Rests host (Outcome js env request s) s := by
  cases request with
  | create payload now =>
    refine (rests_served rfl).mpr ?_
    show (Program.Rests host _ ((done (.ok s.snapshot) : PoolProgram _) >>= _) s)
    rw [ok_bind]
    cases hstored : s.snapshot with
    | some existing =>
      simp only
      split_ifs
      · exact .kept (Or.inl rfl) trivial
      · exact .kept (Or.inl rfl) trivial
    | none =>
      cases hplan : planCreation js payload now with
      | error e => exact .error e
      | ok next =>
        refine stored_outcome (hstored ▸ .created hplan) ?_ fun _ => idle_audit.bind fun _ =>
          trivial
        obtain ⟨pool, hpool, hout⟩ := Except.bind_eq_ok.mp hplan
        obtain rfl := Except.ok.inj hout
        have hopen := (createPoolFromMarket_eq_ok hpool).1
        rintro (h | h) <;> simp [createdSnapshot, hopen] at h
  | read now => exact locked_outcome fun _ => trivial
  | readOdds amount now =>
    refine locked_outcome fun next => ?_
    cases parseOptionalAmount js amount <;> trivial
  | placeEntry payload now freshId =>
    refine rests_requireStored (fun _ => .error) fun stored hstored => ?_
    cases hplan : planPlacement js payload now freshId stored with
    | error e => exact .error e
    | ok placement =>
      cases placement with
      | duplicate entry balance => exact .kept (Or.inl rfl) trivial
      | placed result funding next =>
        obtain ⟨-, returned, hlock, -⟩ := planPlacement_eq_placed hplan
        have hop : (PoolOperation.placeEntry payload now freshId).Admissible ⟨some stored, 0⟩ :=
          hstored ▸ hadmissible
        refine stored_outcome (hstored ▸ .placed hop hplan)
          (fun _ => (lockSnapshotIfNeeded_eq_fresh hlock).2) fun _ => idle_audit.bind fun _ => ?_
        split_ifs
        · exact idle_audit.bind fun _ => trivial
        · trivial
  | lock payload now =>
    refine locked_outcome fun next => ?_
    split_ifs <;> trivial
  | settle payload now =>
    refine storePlanned_outcome fun stored next hplan => ⟨.settled hplan, ?_⟩
    obtain ⟨outcome, -, hsettle⟩ := Except.bind_eq_ok.mp hplan
    exact settlePoolSnapshot_terminal hsettle
  | applyResolution payload now =>
    refine rests_requireStored (fun _ => .error) fun stored hstored => ?_
    cases hplan : planResolution js payload now stored with
    | error e => exact .error e
    | ok result =>
      refine stored_outcome (hstored ▸ .resolved hplan) ?_ fun _ => idle_audit.bind fun _ => trivial
      obtain ⟨resolution, -, hrest⟩ := Except.bind_eq_ok.mp hplan
      obtain ⟨maxGraceMs, -, happly⟩ := Except.bind_eq_ok.mp hrest
      exact fun _ => applyRouterResolution_now happly
  | pollResolution now => exact poll_outcome (by trivial) (Or.inl rfl)
  | void payload now =>
    refine storePlanned_outcome fun stored next hplan => ⟨.voided hplan, ?_⟩
    obtain ⟨reason, -, hvoid⟩ := Except.bind_eq_ok.mp hplan
    exact Or.inr (voidPoolSnapshot_voided hvoid)
  | alarm now => exact (rests_served rfl).mpr (poll_outcome (by trivial) (Or.inr rfl))

end Requests

/-! ## A poll that is answered -/

/-- What the answer to a waiting poll comes to: an alarm at most, that its snapshot calls for or
does not call for, or the router's resolution applied to the snapshot it has held. -/
inductive Resumed (js : Runtime) (env : Env) (snapshot : PoolSnapshot) (now : String)
    (call : Call) (s : Storage) : Storage → PoolProgram Reply → Prop
  | kept {p : PoolProgram Reply} {alarm : Option ℤ}
      (halarm : (s.alarm.isSome → alarm.isSome) ∨
        call.subject = some snapshot ∧ ¬snapshot.pool.status.AwaitsResolution)
      (hp : p.Idle host ∨ Polling js env snapshot now p) :
      Resumed js env snapshot now call s ⟨s.snapshot, alarm⟩ p
  | resolved {p : PoolProgram Reply} {alarm : Option ℤ} {resolution : RouterResolution}
      {maxGraceMs : Option ℤ} {result : ResolutionIntakeResult} (hp : p.Idle host)
      (hcall : call = .fetchRouterResolution snapshot.pool.marketId now)
      (hawaits : snapshot.pool.status.AwaitsResolution)
      (happly : applyRouterResolution js ⟨snapshot, resolution, now, maxGraceMs⟩ = .ok result)
      (halarm : Scheduled js env result.snapshot alarm) :
      Resumed js env snapshot now call s ⟨some result.snapshot, alarm⟩ p

private theorem Resumed.same {call : Call} {p : PoolProgram Reply}
    (hp : p.Idle host ∨ Polling js env snapshot now p) :
    Resumed js env snapshot now call s s p := .kept (Or.inl id) hp

private theorem rests_pollResolved (hawaits : snapshot.pool.status.AwaitsResolution)
    {resolution : RouterResolution}
    {poll : ResolutionIntakeAction → ResolutionIntakeReason → Poll} :
    (pollResolved js env snapshot now resolution poll).Rests host (Resumed js env snapshot now
      (.fetchRouterResolution snapshot.pool.marketId now) s) s := by
  unfold pollResolved
  cases parseEnvNonNegativeInteger js env.routerResolutionMaxGraceMs
      "DOTCAST_ROUTER_RESOLUTION_MAX_GRACE_MS" with
  | error e => exact .same (Or.inl trivial)
  | ok maxGraceMs =>
    cases happly : applyRouterResolution js ⟨snapshot, resolution, now, maxGraceMs⟩ with
    | error e =>
      simp only [ok_bind, happly]
      exact .same (Or.inl trivial)
    | ok result =>
      simp only [ok_bind, happly]
      refine Rests.mono (rests_persistSnapshot_idle (fun _ => applyRouterResolution_now happly) ?_)
        ?_
      · exact fun _ => idle_audit.bind fun _ => trivial
      · rintro s' p ⟨⟨alarm, halarm, rfl⟩, hp⟩
        exact .resolved hp rfl hawaits happly halarm

/-- Every answer that a waiting poll is given. -/
theorem polling_resumed {call : Call} {rest : Except String call.Ret → PoolProgram Reply}
    (hpolling : Polling js env snapshot now (.call call rest)) (answer : Except String call.Ret) :
    (rest answer).Rests host (Resumed js env snapshot now call s) s := by
  generalize hp : (Program.call call rest : PoolProgram Reply) = p at hpolling
  cases hpolling with
  | @locking call' rest' hcalls hrest =>
    obtain ⟨rfl, hrest'⟩ := Program.call.inj hp
    obtain rfl := eq_of_heq hrest'
    refine (rests_bind_pollLocked (hcalls.2 answer) (hrest answer)).mono ?_
    rintro s' p (⟨rfl, hp⟩ | ⟨hawaits, ⟨alarm, rfl⟩, hp⟩)
    · exact .same hp
    · exact .kept (Or.inr ⟨(not_not.mp hcalls.1).2, hawaits⟩) (Or.inl hp)
  | fetching hawaits =>
    obtain ⟨rfl, hrest⟩ := Program.call.inj hp
    obtain rfl := eq_of_heq hrest
    have hpollHeld : ∀ poll, (pollHeld js env snapshot now poll).Rests host (Resumed js env snapshot
        now (.fetchRouterResolution snapshot.pool.marketId now) s) s := fun poll => by
      refine rests_pollHeld.mono ?_
      rintro _ p ⟨alarm, rfl, halarm, hp⟩
      exact .kept (Or.inl (halarm hawaits)) (Or.inl hp)
    rcases answer with e | (_ | resolution | resolution)
    · exact hpollHeld _
    · exact hpollHeld _
    · exact rests_pollResolved hawaits
    · exact rests_pollResolved hawaits

end DotCastPool

end Yevow.DotCast
