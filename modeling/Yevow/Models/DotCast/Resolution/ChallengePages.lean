import Yevow.Core.JavaScript.Reference
import Yevow.Models.DotCast.Resolution.PanelSelection

/-!
# Challenges and the settlement of their route

Before an outcome goes to a pool, the gateway reads the route's challenges and asks the
settlement policy. The store answers with the newest hundred, and a challenge below that page
is not seen. A perception never gets that far with a bonded route: it is refused before its
outcome is known.
-/

namespace Yevow.DotCast

open Except (throwIf)
open JavaScript (Runtime)

/-! ## The policy -/

/-- Who settles a pool. -/
inductive SettlementSource
  | optimisticAuto
  | aiPerceptionAuto
  | resolverConsensus
  | manualReview
  deriving DecidableEq, Repr

/-- Whether a pool may be settled. -/
inductive SettlementAction
  | allow
  | hold
  | block
  deriving DecidableEq, Repr

/-- Whether it may, and why. -/
structure DotCastResolutionChallengeSettlementPolicy where
  action : SettlementAction
  reason : String
  routeId : String
  acceptedChallengeIds : List String
  rejectedChallengeIds : List String
  openChallengeIds : List String
  expiredChallengeIds : List String
  deriving DecidableEq

/-- The ids of the challenges with one of some statuses. -/
def challengeIds (statuses : List ChallengeStatus) (challenges : List DotCastResolutionChallenge) :
    List String :=
  (challenges.filter (·.status ∈ statuses)).map (·.challengeId)

/-- Challenges hold or block a settlement. -/
def evaluateDotCastResolutionChallengeSettlementPolicy (route : DotCastResolutionRoute)
    (challenges : List DotCastResolutionChallenge) (source : Option SettlementSource) :
    DotCastResolutionChallengeSettlementPolicy :=
  let routeChallenges := challenges.filter (·.routeId = route.routeId)
  let settlementSource := source.getD .optimisticAuto
  let acceptedChallengeIds := challengeIds [.accepted] routeChallenges
  let openChallengeIds := challengeIds [.open] routeChallenges
  let rejectedChallengeIds := challengeIds [.rejected] routeChallenges
  let expiredChallengeIds := challengeIds [.expired, .withdrawn] routeChallenges
  let answer (action : SettlementAction) (reason : String) :
      DotCastResolutionChallengeSettlementPolicy :=
    { action := action
      reason := reason
      routeId := route.routeId
      acceptedChallengeIds := acceptedChallengeIds
      rejectedChallengeIds := rejectedChallengeIds
      openChallengeIds := openChallengeIds
      expiredChallengeIds := expiredChallengeIds }
  if route.tier ≠ .optimisticBonded then answer .allow "not_optimistic_bonded"
  else if 0 < acceptedChallengeIds.length then
    if settlementSource = .resolverConsensus ∨ settlementSource = .manualReview then
      answer .allow "accepted_challenge_resolved_by_escalation"
    else answer .block "accepted_challenge_blocks_optimistic_settlement"
  else if 0 < openChallengeIds.length then
    answer .hold "open_challenge_holds_optimistic_settlement"
  else
    answer .allow (if 0 < rejectedChallengeIds.length ∨ 0 < expiredChallengeIds.length then
      "all_challenges_rejected_or_expired" else "no_challenges")

/-! ## The stored challenges -/

variable (js : Runtime)

/-- The challenges that are asked for. -/
structure DotCastResolutionChallengeFilters where
  routeId : Option String
  status : Option ChallengeStatus
  limit : Option ℤ

/-- The length of a page. -/
def ResolutionRouter.boundedLimit (value : Option ℤ) (fallback : ℤ) : ℤ :=
  match value with
  | none => fallback
  | some value =>
    if js.arithmetic.isSafeInteger value = false ∨ value < 1 then fallback else min 500 value

/-- The clauses of the query: an empty text asks for every route. -/
def DotCastResolutionChallengeFilters.Selects (filters : DotCastResolutionChallengeFilters)
    (c : DotCastResolutionChallenge) : Prop :=
  (∀ routeId, filters.routeId = some routeId → routeId = "" ∨ c.routeId = routeId) ∧
    ∀ status, filters.status = some status → c.status = status

instance (filters : DotCastResolutionChallengeFilters) (c : DotCastResolutionChallenge) :
    Decidable (filters.Selects c) :=
  inferInstanceAs (Decidable (_ ∧ _))

/-- `ORDER BY opened_at DESC, challenge_id DESC`. -/
def compareNewest (a b : DotCastResolutionChallenge) : ℤ :=
  compareTexts (b.openedAt, b.challengeId) (a.openedAt, a.challengeId)

/-- A page of challenges, latest first. -/
def listResolutionChallenges (rows : List DotCastResolutionChallenge)
    (filters : DotCastResolutionChallengeFilters) :
    Except Fault (List DotCastResolutionChallenge) :=
  ((Sorting.sortBy compareNewest (rows.filter fun c => filters.Selects c)).take
    (ResolutionRouter.boundedLimit js filters.limit 100).toNat).mapM (challengeFromRow js)

/-! ## The request -/

/-- What the gateway posts to a pool's `/resolution`. -/
structure PoolResolution where
  marketId : String
  outcome : PoolOutcome
  resolvedAt : String
  fetchedAt : String
  stale : Bool
  source : String
  now : String
  deriving DecidableEq

/-- What the pool answers. -/
structure PoolResponse where
  ok : Bool
  status : ℕ
  body : String
  deriving DecidableEq

/-- What became of an outcome. -/
inductive AiPerceptionAction
  | autoResolved
  | escalated
  deriving DecidableEq, Repr

/-- What is kept of a perception. -/
structure DotCastAiResolutionLog where
  logId : String
  routeId : String
  poolId : Option String
  modelConfidenceBps : ℤ
  predictedOutcome : ResolutionOutcome
  action : AiPerceptionAction
  thresholdBps : ℤ
  evidenceRefs : List String
  createdAt : String
  deriving DecidableEq

/-- The calls of a settlement. -/
inductive SettlingOp
  | listResolutionChallenges (filters : DotCastResolutionChallengeFilters)
  | postResolution (poolId : String) (body : PoolResolution)
  | applySettlementHooksIfSettled (response : PoolResponse) (now : String)
  | refreshLivestreamPoolIfRequested (streamId : Option String) (poolId now : String)
  | appendAiResolutionLog (log : DotCastAiResolutionLog)
  | insertRoute (route : DotCastResolutionRoute)

/-- What a call returns. -/
abbrev SettlingOp.Ret : SettlingOp → Type
  | listResolutionChallenges _ => List DotCastResolutionChallenge
  | postResolution _ _ => PoolResponse
  | applySettlementHooksIfSettled _ _ => PoolResponse
  | refreshLivestreamPoolIfRequested _ _ _ => Unit
  | appendAiResolutionLog _ => Unit
  | insertRoute _ => Unit

/-- A function that settles a pool. -/
abbrev Settling (α : Type) : Type := Program SettlingOp SettlingOp.Ret Fault α

/-- An outcome and its pool. -/
structure ApplyE13OutcomeToPoolInput where
  poolId : String
  route : DotCastResolutionRoute
  outcome : PoolOutcome
  now : String
  streamId : Option String
  sourceKind : SettlementSource

/-- The body of the request to the pool. -/
def ApplyE13OutcomeToPoolInput.resolution (input : ApplyE13OutcomeToPoolInput) :
    PoolResolution where
  marketId := input.route.marketId
  outcome := input.outcome
  resolvedAt := input.now
  fetchedAt := input.now
  stale := false
  source := "dotcast"
  now := input.now

/-- What became of an outcome. -/
structure AppliedOutcome where
  ok : Bool
  status : ℕ
  sourceKind : SettlementSource
  routeId : String
  challengePolicy : DotCastResolutionChallengeSettlementPolicy
  poolId : String
  outcome : PoolOutcome
  response : String
  deriving DecidableEq

/-- The policy from a page of challenges. -/
def readE13ChallengeSettlementPolicy (hasDatabase : Bool) (route : DotCastResolutionRoute)
    (settlementSource : SettlementSource) :
    Settling DotCastResolutionChallengeSettlementPolicy := do
  if route.tier ≠ .optimisticBonded ∨ hasDatabase = false then
    return evaluateDotCastResolutionChallengeSettlementPolicy route [] (some settlementSource)
  else
    let challenges ← Program.perform (SettlingOp.listResolutionChallenges
      { routeId := some route.routeId, status := none, limit := some 100 })
    return evaluateDotCastResolutionChallengeSettlementPolicy route challenges
      (some settlementSource)

/-- An outcome is sent to its pool, if the policy allows. -/
def applyE13OutcomeToPool (hasDatabase : Bool) (input : ApplyE13OutcomeToPoolInput) :
    Settling AppliedOutcome := do
  .done (throwIf (input.route.status ≠ .locked)
    (routerFault "RESOLUTION_ROUTE_NOT_LOCKED"
      "E13 route must be locked before it can settle a pool" 409))
  .done (throwIf (input.route.poolId.getD "" ≠ "" ∧ input.route.poolId ≠ some input.poolId)
    (routerFault "RESOLUTION_ROUTE_POOL_MISMATCH"
      "E13 route poolId does not match the target pool" 409))
  let challengePolicy ← readE13ChallengeSettlementPolicy hasDatabase input.route input.sourceKind
  .done (throwIf (challengePolicy.action ≠ .allow)
    (routerFault
      (if challengePolicy.action = .block then "RESOLUTION_CHALLENGE_ACCEPTED"
        else "RESOLUTION_CHALLENGE_OPEN")
      challengePolicy.reason 409))
  let response ← Program.perform (SettlingOp.postResolution input.poolId input.resolution)
  let settledResponse ←
    if response.ok then
      Program.perform (SettlingOp.applySettlementHooksIfSettled response input.now)
    else pure response
  if settledResponse.ok then
    Program.perform
      (SettlingOp.refreshLivestreamPoolIfRequested input.streamId input.poolId input.now)
  return {
    ok := settledResponse.ok
    status := settledResponse.status
    sourceKind := input.sourceKind
    routeId := input.route.routeId
    challengePolicy := challengePolicy
    poolId := input.poolId
    outcome := input.outcome
    response := settledResponse.body }

/-! ## Perceptions -/

/-- What the perception of a route depends on. -/
structure AiPerceptionEnv extends ResolutionRouterEnv where
  aiPerceptionAutoConfidenceBps : Option String

structure ResolveDotCastAiPerceptionInput where
  route : DotCastResolutionRoute
  poolId : Option String
  modelConfidenceBps : ℤ
  predictedOutcome : ResolutionOutcome
  evidenceRefs : List String
  now : Option String

structure DotCastAiPerceptionResolutionResult where
  status : AiPerceptionAction
  outcome : ResolutionOutcome
  route : DotCastResolutionRoute
  escalatedRoute : Option DotCastResolutionRoute
  log : DotCastAiResolutionLog
  deriving DecidableEq

def assertBps (value : ℤ) (label : String) : Except Fault Unit :=
  throwIf (js.arithmetic.isSafeInteger value = false ∨ value < 0 ∨ 10000 < value)
    (routerFault "INVALID_CONFIDENCE_BPS" (label ++ " must be an integer between 0 and 10000") 400)

def aiRouteRequired : Fault :=
  routerFault "AI_ROUTE_REQUIRED" "AI perception resolution requires an ai_perception route" 400

/-- Below the threshold of confidence the route is escalated to a bonded one. -/
def resolveDotCastAiPerception (env : AiPerceptionEnv) (clock : String)
    (input : ResolveDotCastAiPerceptionInput) :
    Except Fault DotCastAiPerceptionResolutionResult := do
  throwIf (input.route.tier ≠ .aiPerception) aiRouteRequired
  assertBps js input.modelConfidenceBps "modelConfidenceBps"
  let status := readDotCastResolutionRouterStatus js env.toResolutionRouterEnv
  let aiAutoConfidenceBps := readBps js env.aiPerceptionAutoConfidenceBps 9500
  let now := input.now.getD clock
  let autoResolve := decide (aiAutoConfidenceBps ≤ input.modelConfidenceBps)
  let action := if autoResolve then AiPerceptionAction.autoResolved else .escalated
  return {
    status := action
    outcome := if autoResolve then input.predictedOutcome else .pending
    route := input.route
    escalatedRoute :=
      if autoResolve then none
      else some
        { input.route with tier := .optimisticBonded, bondMinorUnits := bondForStake status 0 }
    log := {
      logId := "dotcast:e13:ai-log:" ++ input.route.routeId ++ ":" ++ dateText js now
      routeId := input.route.routeId
      poolId := input.poolId <|> input.route.poolId
      modelConfidenceBps := input.modelConfidenceBps
      predictedOutcome := input.predictedOutcome
      action := action
      thresholdBps := aiAutoConfidenceBps
      evidenceRefs := input.evidenceRefs
      createdAt := now } }

/-- A request's body as its parsers read it. The last two fields are read after the log is
kept. -/
structure DotCastAiPerceptionResolutionRequest where
  route : DotCastResolutionRoute
  poolId : Option String
  modelConfidenceBps : ℤ
  predictedOutcome : ResolutionOutcome
  evidenceRefs : List String
  now : Option String
  settlePool : Except Fault (Option Bool)
  streamId : Except Fault (Option String)

/-- The outcome a router's answer settles a pool with. -/
def ResolutionOutcome.settling? : ResolutionOutcome → Option PoolOutcome
  | .side s => some (.side s)
  | .invalid => some .invalid
  | .pending => none

def resolveDotCastAiPerceptionRoute (hasDatabase : Bool) (env : AiPerceptionEnv) (clock : String)
    (body : DotCastAiPerceptionResolutionRequest) :
    Settling (DotCastAiPerceptionResolutionResult × Option AppliedOutcome) := do
  let poolId := body.poolId <|> body.route.poolId
  let result ← .done (resolveDotCastAiPerception js env clock
    { route := body.route
      poolId := poolId
      modelConfidenceBps := body.modelConfidenceBps
      predictedOutcome := body.predictedOutcome
      evidenceRefs := body.evidenceRefs
      now := body.now })
  if hasDatabase then
    Program.perform (SettlingOp.appendAiResolutionLog result.log)
  match result.escalatedRoute with
  | some route => if hasDatabase then Program.perform (SettlingOp.insertRoute route)
  | none => pure ()
  let settlePool ← .done body.settlePool
  match settlePool, result.status, result.outcome.settling?, poolId.filter (· ≠ "") with
  | some true, .autoResolved, some outcome, some poolId =>
    let streamId ← .done body.streamId
    let poolResolution ← applyE13OutcomeToPool hasDatabase
      { poolId := poolId
        route := body.route
        outcome := outcome
        now := body.now.getD result.log.createdAt
        streamId := streamId
        sourceKind := .aiPerceptionAuto }
    return (result, some poolResolution)
  | _, _, _, _ => return (result, none)

/-! ## The host -/

/-- What the gateway is configured with, and what the other objects answer. The tables of logs
and of routes may refuse a row. -/
structure SettlingHost where
  hasDatabase : Bool
  pool : Option (String → PoolResolution → PoolResponse)
  hooks : PoolResponse → String → PoolResponse
  appendAiResolutionLog : DotCastAiResolutionLog → Except Fault Unit
  insertRoute : DotCastResolutionRoute → Except Fault Unit

/-- The stored challenges and the outcomes that have gone to pools. -/
structure SettlingState where
  challenges : Rows String DotCastResolutionChallenge
  sent : List (String × PoolResolution)
  challenges_ok : ∀ id c, challenges.get? id = some c → c.challengeId = id

/-- What serves the calls. -/
def settlingHandler (host : SettlingHost) : Handler SettlingOp SettlingOp.Ret Fault SettlingState
  | .listResolutionChallenges filters, s =>
    (listResolutionChallenges js s.challenges.rows filters, s)
  | .postResolution poolId body, s =>
    match host.pool with
    | none =>
      (.ok ⟨false, 503,
        "\x7b\"ok\":false,\"error\":\"dotCast pool storage is not configured\"\x7d"⟩, s)
    | some pool => (.ok (pool poolId body), { s with sent := s.sent ++ [(poolId, body)] })
  | .applySettlementHooksIfSettled response now, s => (.ok (host.hooks response now), s)
  | .refreshLivestreamPoolIfRequested _ _ _, s => (.ok (), s)
  | .appendAiResolutionLog log, s => (host.appendAiResolutionLog log, s)
  | .insertRoute route, s => (host.insertRoute route, s)

/-! ## What the policy sees -/

/-- An open challenge or an accepted one. -/
def DotCastResolutionChallenge.Standing (c : DotCastResolutionChallenge) : Prop :=
  c.status = .open ∨ c.status = .accepted

instance (c : DotCastResolutionChallenge) : Decidable c.Standing :=
  inferInstanceAs (Decidable (_ ∨ _))

private theorem length_challengeIds_pos {statuses : List ChallengeStatus}
    {challenges : List DotCastResolutionChallenge} :
    0 < (challengeIds statuses challenges).length ↔ ∃ c ∈ challenges, c.status ∈ statuses := by
  unfold challengeIds
  rw [List.length_map, List.length_pos_iff_exists_mem]
  simp only [List.mem_filter, decide_eq_true_eq]

/-- The policy lets a perception settle a bonded route unless it sees a standing challenge. -/
theorem policy_allows_iff {route : DotCastResolutionRoute}
    (hbonded : route.tier = .optimisticBonded) (challenges : List DotCastResolutionChallenge) :
    (evaluateDotCastResolutionChallengeSettlementPolicy route challenges
        (some .aiPerceptionAuto)).action = .allow ↔
      ∀ c ∈ challenges, c.routeId = route.routeId → ¬c.Standing := by
  have hsource : ¬(SettlementSource.aiPerceptionAuto = .resolverConsensus ∨
      SettlementSource.aiPerceptionAuto = .manualReview) := by decide
  unfold evaluateDotCastResolutionChallengeSettlementPolicy
  simp only [hbonded, hsource, ne_eq, not_true_eq_false, if_false, Option.getD_some]
  split_ifs with haccepted hopen
  · obtain ⟨c, hc, hstatus⟩ := length_challengeIds_pos.mp haccepted
    obtain ⟨hc, hroute⟩ := List.mem_filter.mp hc
    have hstanding : c.Standing := Or.inr (List.mem_singleton.mp hstatus)
    simp only [false_iff]
    exact fun h => h c hc (of_decide_eq_true hroute) hstanding
  · obtain ⟨c, hc, hstatus⟩ := length_challengeIds_pos.mp hopen
    obtain ⟨hc, hroute⟩ := List.mem_filter.mp hc
    have hstanding : c.Standing := Or.inl (List.mem_singleton.mp hstatus)
    simp only [false_iff]
    exact fun h => h c hc (of_decide_eq_true hroute) hstanding
  all_goals
    simp only [true_iff]
    rintro c hc hroute (hstatus | hstatus)
    · exact hopen (length_challengeIds_pos.mpr ⟨c, List.mem_filter.mpr
        ⟨hc, decide_eq_true hroute⟩, List.mem_singleton.mpr hstatus⟩)
    · exact haccepted (length_challengeIds_pos.mpr ⟨c, List.mem_filter.mpr
        ⟨hc, decide_eq_true hroute⟩, List.mem_singleton.mpr hstatus⟩)

/-! ## The page -/

/-- A challenge that is listed before another one. -/
def DotCastResolutionChallenge.Newer (c d : DotCastResolutionChallenge) : Prop :=
  d.openedAt < c.openedAt ∨ d.openedAt = c.openedAt ∧ d.challengeId < c.challengeId

instance (c d : DotCastResolutionChallenge) : Decidable (c.Newer d) :=
  inferInstanceAs (Decidable (_ ∨ _))

/-- The place of a challenge in the descending order. -/
private def newestKey (c : DotCastResolutionChallenge) : String ×ₗ String :=
  toLex (c.openedAt, c.challengeId)

private theorem newer_iff {c d : DotCastResolutionChallenge} :
    c.Newer d ↔ newestKey d < newestKey c := by
  rw [newestKey, newestKey, Prod.Lex.toLex_lt_toLex]
  rfl

private theorem compareNewest_nonpos (c d : DotCastResolutionChallenge) :
    compareNewest c d ≤ 0 ↔ newestKey d ≤ newestKey c := by
  have hsame : newestKey d = newestKey c ↔
      (d.openedAt, d.challengeId) = (c.openedAt, c.challengeId) := toLex_inj
  have hle : newestKey d ≤ newestKey c ↔ c.Newer d ∨ newestKey d = newestKey c := by
    rw [newer_iff]
    exact le_iff_lt_or_eq
  rw [hle, hsame]
  unfold compareNewest compareTexts
  split_ifs with heq hnewer
  · simp [heq]
  · have hnewer : c.Newer d := hnewer
    simp [hnewer]
  · have hnewer : ¬c.Newer d := hnewer
    simp only [hnewer, heq, or_self, iff_false]
    omega

/-- Challenges with their own ids are listed one after the other. -/
theorem pairwise_newer {rows : List DotCastResolutionChallenge}
    (hids : (rows.map (·.challengeId)).Nodup) :
    (Sorting.sortBy compareNewest rows).Pairwise fun c d => c.Newer d := by
  have hrespects : Sorting.Respects compareNewest fun c d => compareNewest c d ≤ 0 :=
    @Sorting.respects_of_key _ _ _ compareNewest (fun c => OrderDual.toDual (newestKey c))
      compareNewest_nonpos
  have hsorted := Sorting.pairwise_sortBy hrespects rows
  have hperm := (Sorting.perm_sortBy compareNewest rows).map (·.challengeId)
  have hdistinct := List.pairwise_map.mp (hperm.nodup_iff.mpr hids)
  refine (hsorted.and hdistinct).imp ?_
  rintro c d ⟨hle, hne⟩
  rw [newer_iff]
  refine lt_of_le_of_ne ((compareNewest_nonpos c d).mp hle) fun hkey => hne ?_
  exact (Prod.mk.inj (toLex_inj.mp hkey)).2.symm

/-- A challenge is on a page when fewer newer ones are listed than the page holds. -/
theorem mem_page_iff {rows : List DotCastResolutionChallenge}
    (hids : (rows.map (·.challengeId)).Nodup) (limit : ℕ) (c : DotCastResolutionChallenge) :
    c ∈ (Sorting.sortBy compareNewest rows).take limit ↔
      c ∈ rows ∧ (rows.filter (·.Newer c)).length < limit := by
  have hasymm : ∀ c d : DotCastResolutionChallenge, c.Newer d → ¬d.Newer c := by
    intro c d
    rw [newer_iff, newer_iff]
    exact fun h => h.asymm
  have hperm := Sorting.perm_sortBy compareNewest rows
  rw [Sorting.mem_take_iff hasymm (pairwise_newer hids), hperm.mem_iff,
    (hperm.filter _).length_eq]

/-! ## Reading the page -/

/-- A list is read when each of its rows is. -/
theorem mapM_eq_ok {β γ : Type} {f : β → Except Fault γ} {rows : List β} :
    (∃ read, rows.mapM f = .ok read) ↔ ∀ row ∈ rows, ∃ c, f row = .ok c := by
  induction rows with
  | nil => simp [pure, Except.pure]
  | cons row rows ih =>
    simp only [List.mapM_cons, Except.bind_eq_ok, List.forall_mem_cons, ← ih]
    constructor
    · rintro ⟨read, c, hc, rest, hrest, -⟩
      exact ⟨⟨c, hc⟩, rest, hrest⟩
    · rintro ⟨⟨c, hc⟩, rest, hrest⟩
      exact ⟨c :: rest, c, hc, rest, hrest, rfl⟩

private theorem mem_mapM {β γ : Type} {f : β → Except Fault γ} {rows : List β} {read : List γ}
    (h : rows.mapM f = .ok read) (c : γ) : c ∈ read ↔ ∃ row ∈ rows, f row = .ok c := by
  induction rows generalizing read with
  | nil =>
    obtain rfl := Except.ok.inj h
    simp
  | cons row rows ih =>
    rw [List.mapM_cons] at h
    obtain ⟨first, hfirst, h⟩ := Except.bind_eq_ok.mp h
    obtain ⟨rest, hrest, h⟩ := Except.bind_eq_ok.mp h
    obtain rfl := Except.ok.inj h
    rw [List.mem_cons, ih hrest, List.exists_mem_cons_iff, hfirst, Except.ok.injEq, eq_comm]

private theorem challengeFromRow_keeps {row c : DotCastResolutionChallenge}
    (h : challengeFromRow js row = .ok c) : c.routeId = row.routeId ∧ c.status = row.status := by
  unfold challengeFromRow at h
  simp only [Except.bind_eq_ok, rowText_eq_ok, rowInteger_eq_ok, Except.pure_eq_ok,
    Except.ok.injEq] at h
  obtain ⟨_, ⟨-, rfl⟩, _, ⟨-, rfl⟩, _, ⟨-, rfl⟩, _, ⟨-, rfl⟩, _, ⟨-, rfl⟩, _, ⟨-, rfl⟩,
    _, ⟨-, rfl⟩, _, ⟨-, rfl⟩, rfl⟩ := h
  exact ⟨rfl, rfl⟩

namespace SettlingState

/-- The stored challenges that the query for a route selects. -/
def listed (s : SettlingState) (route : DotCastResolutionRoute) :
    List DotCastResolutionChallenge :=
  s.challenges.rows.filter fun c => route.routeId = "" ∨ c.routeId = route.routeId

/-- The stored challenges of a route. -/
def challengesOf (s : SettlingState) (route : DotCastResolutionRoute) :
    List DotCastResolutionChallenge :=
  s.challenges.rows.filter (·.routeId = route.routeId)

variable {s : SettlingState} {route : DotCastResolutionRoute}

private theorem nodup_listed (s : SettlingState) (route : DotCastResolutionRoute) :
    ((s.listed route).map (·.challengeId)).Nodup := by
  have hrows : s.challenges.rows.map (·.challengeId) = s.challenges.entries.map Prod.fst := by
    rw [Rows.rows, List.map_map]
    apply List.map_congr_left
    rintro ⟨id, c⟩ hc
    exact s.challenges_ok id c (Rows.mem_entries_iff.mp hc)
  have hnodup := s.challenges.nodup
  rw [← hrows] at hnodup
  exact hnodup.sublist (List.filter_sublist.map _)

end SettlingState

/-- A challenge that keeps a perception from settling its route, if it is read. -/
def DotCastResolutionChallenge.Stops (c : DotCastResolutionChallenge)
    (route : DotCastResolutionRoute) : Prop :=
  (¬∃ read, challengeFromRow js c = .ok read) ∨ c.routeId = route.routeId ∧ c.Standing

section Settling

open Program (run)

variable {js} {host : SettlingHost} {s : SettlingState} {route : DotCastResolutionRoute}

/-- The challenges the gateway asks for. -/
def routeFilters (route : DotCastResolutionRoute) : DotCastResolutionChallengeFilters where
  routeId := some route.routeId
  status := none
  limit := some 100

private theorem listResolutionChallenges_route (s : SettlingState)
    (route : DotCastResolutionRoute) :
    listResolutionChallenges js s.challenges.rows (routeFilters route) =
      ((Sorting.sortBy compareNewest (s.listed route)).take 100).mapM (challengeFromRow js) := by
  have hlimit : (ResolutionRouter.boundedLimit js (some 100) 100).toNat = 100 := by
    unfold ResolutionRouter.boundedLimit
    simp
  have hselects : s.challenges.rows.filter (fun c => (routeFilters route).Selects c) =
      s.listed route := by
    apply List.filter_congr
    intro c _
    simp [routeFilters, DotCastResolutionChallengeFilters.Selects]
  unfold listResolutionChallenges
  rw [hselects]
  show (List.take (ResolutionRouter.boundedLimit js (some 100) 100).toNat _).mapM _ = _
  rw [hlimit]

/-- A perception may settle a bonded route. -/
def SettlingState.Allows (js : Runtime) (host : SettlingHost) (s : SettlingState)
    (route : DotCastResolutionRoute) : Prop :=
  ∃ policy, (run (settlingHandler js host)
    (readE13ChallengeSettlementPolicy host.hasDatabase route .aiPerceptionAuto) s).1 = .ok policy ∧
      policy.action = .allow

private theorem run_list_bind {α : Type} (filters : DotCastResolutionChallengeFilters)
    (f : List DotCastResolutionChallenge → Settling α) :
    run (settlingHandler js host)
        (Program.perform (SettlingOp.listResolutionChallenges filters) >>= f) s =
      match listResolutionChallenges js s.challenges.rows filters with
      | .ok challenges => run (settlingHandler js host) (f challenges) s
      | .error e => (.error e, s) := by
  show run _ (.done (listResolutionChallenges js s.challenges.rows filters) >>= f) s = _
  cases listResolutionChallenges js s.challenges.rows filters <;> rfl

private theorem run_policy (hbonded : route.tier = .optimisticBonded)
    (hdatabase : host.hasDatabase = true)
    (source : SettlementSource) :
    run (settlingHandler js host)
        (readE13ChallengeSettlementPolicy host.hasDatabase route source) s =
      ((listResolutionChallenges js s.challenges.rows (routeFilters route)).map fun challenges =>
        evaluateDotCastResolutionChallengeSettlementPolicy route challenges (some source), s) := by
  unfold readE13ChallengeSettlementPolicy
  rw [if_neg (by simp [hbonded, hdatabase]), run_list_bind]
  unfold routeFilters
  cases listResolutionChallenges js s.challenges.rows _ <;> rfl

/-- A perception may settle a bonded route exactly if nothing on the page stops it. -/
theorem allows_iff (hbonded : route.tier = .optimisticBonded)
    (hdatabase : host.hasDatabase = true) :
    s.Allows js host route ↔
      ∀ c ∈ (Sorting.sortBy compareNewest (s.listed route)).take 100, ¬c.Stops js route := by
  unfold SettlingState.Allows
  simp only [run_policy hbonded hdatabase, listResolutionChallenges_route, Except.map_eq_ok]
  constructor
  · rintro ⟨_, ⟨read, hread, rfl⟩, hallow⟩ c hc hstops
    have hall := (policy_allows_iff hbonded read).mp hallow
    obtain ⟨c', hc'⟩ := mapM_eq_ok.mp ⟨read, hread⟩ c hc
    obtain ⟨hroute, hstatus⟩ := challengeFromRow_keeps js hc'
    rcases hstops with hunread | ⟨hof, hstanding⟩
    · exact hunread ⟨c', hc'⟩
    · refine hall c' ((mem_mapM hread c').mpr ⟨c, hc, hc'⟩) (hroute.trans hof) ?_
      rwa [DotCastResolutionChallenge.Standing, hstatus]
  · intro hnone
    have hreadable : ∀ row ∈ (Sorting.sortBy compareNewest (s.listed route)).take 100,
        ∃ c, challengeFromRow js row = .ok c := by
      intro row hrow
      by_contra hunread
      exact hnone row hrow (Or.inl hunread)
    obtain ⟨read, hread⟩ := mapM_eq_ok.mpr hreadable
    refine ⟨_, ⟨read, hread, rfl⟩, (policy_allows_iff hbonded read).mpr ?_⟩
    intro c hc hof hstanding
    obtain ⟨row, hrow, hfrom⟩ := (mem_mapM hread c).mp hc
    obtain ⟨hroute, hstatus⟩ := challengeFromRow_keeps js hfrom
    refine hnone row hrow (Or.inr ⟨hroute.symm.trans hof, ?_⟩)
    rwa [DotCastResolutionChallenge.Standing, ← hstatus]

/-- Asking the policy changes nothing. -/
theorem policy_keeps (hasDatabase : Bool) (route : DotCastResolutionRoute)
    (source : SettlementSource) (s : SettlingState) :
    (run (settlingHandler js host) (readE13ChallengeSettlementPolicy hasDatabase route source)
      s).2 =
      s := by
  unfold readE13ChallengeSettlementPolicy
  split_ifs with hnone
  · rfl
  · rw [run_list_bind]
    cases listResolutionChallenges js s.challenges.rows _ <;> rfl

/-- Without the policy's consent no outcome goes to a pool. -/
theorem sent_of_not_allows {input : ApplyE13OutcomeToPoolInput} (hroute : input.route = route)
    (hsource : input.sourceKind = .aiPerceptionAuto) (hnot : ¬s.Allows js host route) :
    (run (settlingHandler js host) (applyE13OutcomeToPool host.hasDatabase input) s).2.sent =
      s.sent := by
  unfold applyE13OutcomeToPool
  rw [hsource, hroute]
  cases throwIf (route.status ≠ .locked) _ with
  | error e => rfl
  | ok _ =>
    rw [Program.ok_bind]
    cases throwIf (route.poolId.getD "" ≠ "" ∧ route.poolId ≠ some input.poolId) _ with
    | error e => rfl
    | ok _ =>
      rw [Program.ok_bind, Program.run_bind]
      have hkeeps : (run (settlingHandler js host) (readE13ChallengeSettlementPolicy
          host.hasDatabase route .aiPerceptionAuto) s).2 = s := policy_keeps _ _ _ _
      rcases hpolicy : run (settlingHandler js host) (readE13ChallengeSettlementPolicy
        host.hasDatabase route .aiPerceptionAuto) s with ⟨e | policy, s'⟩
      · rw [hpolicy] at hkeeps
        exact congrArg SettlingState.sent hkeeps
      · rw [hpolicy] at hkeeps
        have hdenied :
          policy.action ≠ .allow := fun hallow => hnot ⟨policy, by rw [hpolicy], hallow⟩
        simp only [throwIf, if_pos hdenied]
        exact congrArg SettlingState.sent hkeeps

/-- With the policy's consent the outcome of a locked route goes to its pool. -/
theorem sent_of_allows {input : ApplyE13OutcomeToPoolInput}
    {pool : String → PoolResolution → PoolResponse}
    (hsource : input.sourceKind = .aiPerceptionAuto) (hallow : s.Allows js host input.route)
    (hlocked : input.route.status = .locked) (hpoolId : input.route.poolId = some input.poolId)
    (hpool : host.pool = some pool) :
    (run (settlingHandler js host) (applyE13OutcomeToPool host.hasDatabase input) s).2.sent =
      s.sent ++ [(input.poolId, input.resolution)] := by
  obtain ⟨policy, hpolicy, haction⟩ := hallow
  have hkeeps : (run (settlingHandler js host) (readE13ChallengeSettlementPolicy
      host.hasDatabase input.route .aiPerceptionAuto) s).2 = s := policy_keeps _ _ _ _
  have hrun : run (settlingHandler js host) (readE13ChallengeSettlementPolicy
      host.hasDatabase input.route .aiPerceptionAuto) s = (.ok policy, s) := by
    rw [← hpolicy]
    exact Prod.ext rfl hkeeps
  unfold applyE13OutcomeToPool
  rw [hsource, Except.throwIf_of_not _ (not_not.mpr hlocked), Program.ok_bind,
    Except.throwIf_of_not _ (fun h => h.2 hpoolId), Program.ok_bind,
    Program.run_bind_of_ok hrun, Except.throwIf_of_not _ (not_not.mpr haction), Program.ok_bind,
    Program.run_perform_bind]
  have hpost : settlingHandler js host (.postResolution input.poolId input.resolution) s =
      (.ok (pool input.poolId input.resolution),
        { s with sent := s.sent ++ [(input.poolId, input.resolution)] }) := by
    rw [settlingHandler, hpool]
  rw [hpost]
  -- whatever the pool answered, what follows leaves the sent outcomes alone
  cases hok : (pool input.poolId input.resolution).ok with
  | true =>
    cases hhooks : (host.hooks (pool input.poolId input.resolution) input.now).ok <;>
      simp [hok, hhooks, settlingHandler, Program.run_perform_bind]
  | false => simp [hok]

/-! ## Standing challenges -/

/-- A bonded route with stored challenges: one is open and none accepted, or one is accepted. -/
structure SettlingState.Contested (host : SettlingHost) (s : SettlingState)
    (route : DotCastResolutionRoute) : Prop where
  bonded : route.tier = .optimisticBonded
  database : host.hasDatabase = true
  standing : ((∃ c ∈ s.challengesOf route, c.status = .open) ∧
      ∀ c ∈ s.challengesOf route, c.status ≠ .accepted) ∨
    ∃ c ∈ s.challengesOf route, c.status = .accepted

/-- No perception settles the route: the policy does not allow it, and the pool is sent no
outcome. -/
structure SettlingState.Withheld (js : Runtime) (host : SettlingHost) (s : SettlingState)
    (route : DotCastResolutionRoute) : Prop where
  policy : ¬s.Allows js host route
  pool : ∀ input : ApplyE13OutcomeToPoolInput, input.route = route →
    input.sourceKind = .aiPerceptionAuto →
      (run (settlingHandler js host) (applyE13OutcomeToPool host.hasDatabase input) s).2.sent =
        s.sent

/-- Fewer than a hundred challenges are listed before one that is open, accepted or cannot be
read. -/
def SettlingState.Noticed (js : Runtime) (s : SettlingState) (route : DotCastResolutionRoute) :
    Prop :=
  ∃ c ∈ s.listed route, c.Stops js route ∧ ((s.listed route).filter (·.Newer c)).length < 100

private theorem allows_iff_not_noticed (hbonded : route.tier = .optimisticBonded)
    (hdatabase : host.hasDatabase = true) : s.Allows js host route ↔ ¬s.Noticed js route := by
  rw [allows_iff hbonded hdatabase, SettlingState.Noticed]
  simp only [mem_page_iff (s.nodup_listed route)]
  push Not
  exact forall_congr' fun c => ⟨fun h hc hstops => not_lt.mp fun hlt => h ⟨hc, hlt⟩ hstops,
    fun h hc hstops => absurd hc.2 (not_lt.mpr (h hc.1 hstops))⟩

/-- A contested route is withheld from perceptions exactly if a challenge that stops them is
among the newest hundred. -/
theorem contested_is_withheld_iff (hcontested : s.Contested host route) :
    s.Withheld js host route ↔ s.Noticed js route := by
  have hallows := @allows_iff_not_noticed js host s route hcontested.bonded hcontested.database
  constructor
  · intro hwithheld
    by_contra hnot
    exact hwithheld.policy (hallows.mpr hnot)
  · intro hnoticed
    have hdenied : ¬s.Allows js host route := fun hallow => hallows.mp hallow hnoticed
    exact ⟨hdenied, fun input hroute hsource => sent_of_not_allows hroute hsource hdenied⟩

/-- Only a route for perceptions is resolved by one. -/
theorem resolveDotCastAiPerception_refuses {env : AiPerceptionEnv} {clock : String}
    {input : ResolveDotCastAiPerceptionInput} (htier : input.route.tier ≠ .aiPerception) :
    resolveDotCastAiPerception js env clock input = .error aiRouteRequired := by
  unfold resolveDotCastAiPerception throwIf
  rw [if_pos htier]
  rfl

end Settling

/-! ## A hundred late challenges -/

/-- A challenge of the route. -/
private def aChallenge (challengeId openedAt : String) (status : ChallengeStatus) :
    DotCastResolutionChallenge where
  challengeId := challengeId
  routeId := "route"
  poolId := some "pool"
  marketId := "market"
  challengerId := "challenger"
  status := status
  reason := "wrong outcome"
  bondMinorUnits := 0
  openedAt := openedAt
  challengeWindowClosesAt := "2026-01-03T00:00:00.000Z"
  decidedAt := none
  decisionBy := none

private def aBondedRoute : DotCastResolutionRoute where
  routeId := "route"
  marketId := "market"
  poolId := some "pool"
  status := .locked
  tier := .optimisticBonded
  bondMinorUnits := 0
  createdAt := "2026-01-01T00:00:00.000Z"

private def acceptedChallenge : DotCastResolutionChallenge :=
  aChallenge "first" "2026-01-01T00:00:01.000Z" .accepted

private def lateId (i : ℕ) : String := String.ofList ('l' :: List.replicate i '+')

private def lateChallenge (i : ℕ) : DotCastResolutionChallenge :=
  aChallenge (lateId i) "2026-01-01T00:00:02.000Z" .rejected

private theorem toList_lateId (i : ℕ) : (lateId i).toList = 'l' :: List.replicate i '+' :=
  String.toList_ofList

private theorem lateId_ne (i : ℕ) : lateId i ≠ "first" ∧ lateId i ≠ "" := by
  constructor <;> intro h <;> have hchars := congrArg String.toList h <;>
    rw [toList_lateId] at hchars <;> simp at hchars

private theorem lateId_injective {i j : ℕ} (h : lateId i = lateId j) : i = j := by
  have hlength := congrArg (List.length ∘ String.toList) h
  simpa [toList_lateId] using hlength

private def lateRows : List (String × DotCastResolutionChallenge) :=
  (List.range 100).map fun i => (lateId i, lateChallenge i)

/-- An accepted challenge and a hundred later ones that were rejected. -/
private def lateChallenges : SettlingState where
  challenges :=
    { entries := ("first", acceptedChallenge) :: lateRows
      nodup := by
        rw [lateRows, List.map_cons, List.nodup_cons, List.map_map]
        constructor
        · intro h
          obtain ⟨i, -, hi⟩ := List.mem_map.mp h
          exact (lateId_ne i).1 hi
        · apply List.nodup_range.map
          intro i j h
          exact lateId_injective h }
  sent := []
  challenges_ok := by
    intro id c hc
    rcases List.mem_cons.mp (Rows.mem_entries_iff.mpr hc) with h | h
    · obtain ⟨rfl, rfl⟩ := Prod.mk.inj h
      rfl
    · obtain ⟨i, -, hi⟩ := List.mem_map.mp h
      obtain ⟨rfl, rfl⟩ := Prod.mk.inj hi
      rfl

/-- A gateway whose pools take what they are sent. -/
private def openGateway : SettlingHost where
  hasDatabase := true
  pool := some fun _ _ => ⟨true, 200, ""⟩
  hooks := fun response _ => response
  appendAiResolutionLog := fun _ => .ok ()
  insertRoute := fun _ => .ok ()

private def perceivedOutcome : ApplyE13OutcomeToPoolInput where
  poolId := "pool"
  route := aBondedRoute
  outcome := .side .yes
  now := "2026-01-01T00:10:00.000Z"
  streamId := none
  sourceKind := .aiPerceptionAuto

private theorem mem_listed_lateChallenges {c : DotCastResolutionChallenge}
    (hc : c ∈ lateChallenges.listed aBondedRoute) :
    c = acceptedChallenge ∨ ∃ i, c = lateChallenge i := by
  obtain ⟨entry, hentry, rfl⟩ := List.mem_map.mp (List.mem_filter.mp hc).1
  rcases List.mem_cons.mp hentry with rfl | hlate
  · exact Or.inl rfl
  · obtain ⟨i, -, rfl⟩ := List.mem_map.mp hlate
    exact Or.inr ⟨i, rfl⟩

private theorem newer_than_accepted (i : ℕ) : (lateChallenge i).Newer acceptedChallenge := by
  have hlater : "2026-01-01T00:00:01.000Z" < "2026-01-01T00:00:02.000Z" := by decide
  exact Or.inl hlater

/-- The accepted challenge alone. -/
private def oneChallenge : SettlingState where
  challenges := { entries := [("first", acceptedChallenge)], nodup := List.nodup_singleton _ }
  sent := []
  challenges_ok := by
    intro id c hc
    obtain ⟨rfl, rfl⟩ := Prod.mk.inj (List.mem_singleton.mp (Rows.mem_entries_iff.mpr hc))
    rfl

private def plainEnv : AiPerceptionEnv where
  resolutionHighStakesThresholdMinorUnits := none
  resolverBasePanelSize := none
  resolverHighStakesPanelSize := none
  resolverMinBondMinorUnits := none
  resolverHighStakesMinBondMinorUnits := none
  resolverFeeBps := none
  aiPerceptionAutoConfidenceBps := none

private theorem mem_acceptedChallenge : acceptedChallenge ∈ oneChallenge.listed aBondedRoute :=
  List.mem_filter.mpr ⟨List.mem_cons_self, by decide⟩

private theorem oneChallenge_contested : oneChallenge.Contested openGateway aBondedRoute :=
  ⟨rfl, rfl, Or.inr ⟨acceptedChallenge,
    List.mem_filter.mpr ⟨List.mem_cons_self, by decide⟩, rfl⟩⟩

private theorem oneChallenge_noticed :
    oneChallenge.Noticed (JavaScript.reference .exact) aBondedRoute :=
  ⟨acceptedChallenge, mem_acceptedChallenge, Or.inr ⟨rfl, Or.inr rfl⟩, by decide⟩

/-- The late challenges fill the page. -/
private theorem hundred_newer :
    100 ≤ ((lateChallenges.listed aBondedRoute).filter (·.Newer acceptedChallenge)).length := by
  have hsub : (lateRows.map Prod.snd).Sublist
      ((lateChallenges.listed aBondedRoute).filter (·.Newer acceptedChallenge)) := by
    have hnewer : (lateRows.map Prod.snd).filter (fun c => (c.Newer acceptedChallenge : Bool) &&
        decide (aBondedRoute.routeId = "" ∨ c.routeId = aBondedRoute.routeId)) =
          lateRows.map Prod.snd := by
      rw [List.filter_eq_self]
      intro c hc
      obtain ⟨entry, hentry, rfl⟩ := List.mem_map.mp hc
      obtain ⟨i, -, rfl⟩ := List.mem_map.mp hentry
      rw [Bool.and_eq_true]
      exact ⟨decide_eq_true (newer_than_accepted i), decide_eq_true (Or.inr rfl)⟩
    rw [SettlingState.listed, List.filter_filter, ← hnewer]
    exact (List.sublist_cons_self acceptedChallenge (lateRows.map Prod.snd)).filter _
  have hlength := hsub.length_le
  rwa [List.length_map, lateRows, List.length_map, List.length_range] at hlength

private theorem lateChallenge_not_stops (i : ℕ) :
    ¬(lateChallenge i).Stops (JavaScript.reference .exact) aBondedRoute := by
  rintro (hunread | ⟨-, hstanding⟩)
  · apply hunread
    refine ⟨lateChallenge i, ?_⟩
    have hid : rowText (lateId i) "challenge_id" = .ok (lateId i) := if_neg (lateId_ne i).2
    show (do
      let challengeId ← rowText (lateId i) "challenge_id"
      _) = _
    rw [hid]
    rfl
  · rcases hstanding with hopen | haccepted
    · exact absurd (show ChallengeStatus.rejected = .open from hopen) (by decide)
    · exact absurd (show ChallengeStatus.rejected = .accepted from haccepted) (by decide)

end Yevow.DotCast
