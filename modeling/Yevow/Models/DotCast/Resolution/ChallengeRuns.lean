import Yevow.Core.JavaScript.Reference
import Yevow.Models.DotCast.Resolution.ChallengeSafety

/-!
# Runs of openings and decisions

The invariant holds at the start and after every sound event, so in a sound run a challenge
that no decision is working on has the bond that its status stands for. A retry with another
action, let through by a bond that is settled already, breaks it.
-/

namespace Yevow.DotCast

open JavaScript (Runtime)
open ChallengePhase

variable {js : Runtime} {pool : ChallengePool} {phase : ℕ → ChallengePhase} {i : ℕ}
  {request : ChallengeHost × ChallengeRequest} {op : ChallengeOp}
  {next : Except Fault op.Ret → Challenging Unit} {answer : Except Fault op.Ret}
  {s : ChallengeStore}

/-- A request starts in a phase that is its own, holds and decides nothing yet. -/
theorem phase_starts (js : Runtime) (host : ChallengeHost) (request : ChallengeRequest)
    (s : ChallengeStore) : (request.phase js host).Matches request ∧
      (request.phase js host).Holds s ∧
        ∀ id action, ¬(request.phase js host).Decides id action := by
  cases request with
  | «open» request =>
    have hphase : (ChallengeRequest.open request).phase js host = request.phase js host := rfl
    rw [hphase]
    unfold OpenChallengeRequest.phase
    rcases hc : request.challenge js host.toISOString host.clock with e | c
    · exact ⟨trivial, trivial, fun _ _ => not_decides_finished⟩
    · obtain ⟨-, hopen⟩ := challenge_eq_ok hc
      exact ⟨⟨request, rfl⟩, ⟨hopen, by simp⟩, fun _ _ => not_decides_opening⟩
  | decide request =>
    have hphase : (ChallengeRequest.decide request).phase js host = request.phase := rfl
    rw [hphase]
    unfold DecideChallengeRequest.phase
    rcases hid : Gateway.parseRequiredString request.challengeId "challengeId" with e | id
    · exact ⟨trivial, trivial, fun _ _ => not_decides_finished⟩
    · exact ⟨⟨request, rfl, hid, rfl⟩, trivial, fun _ _ => not_decides_reading⟩

/-- Without requests on their way, stored bonds are those of the statuses. -/
theorem challengeInv_start (hthreads : pool.threads = [])
    (hbonded : pool.state.Bonded fun _ _ => False) :
    ChallengeInv pool fun _ => .finished where
  tracks := ThreadPool.tracks_nil hthreads
  belongs i t hi := trivial
  idle i _ := rfl
  holds i := trivial
  agree i j id action action' hi := absurd hi not_decides_finished
  bonded := by
    refine ⟨hbonded.absent, fun id c hc hbond => ?_⟩
    obtain ⟨l, hl, hstate⟩ := hbonded.bonded id c hc hbond
    exact ⟨l, hl, hstate.imp_left fun h => ⟨h.1, h.2.imp_right False.elim⟩⟩

/-- A request that arrives keeps the invariant. -/
theorem ChallengeInv.start (h : ChallengeInv pool phase)
    (request : ChallengeHost × ChallengeRequest) :
    ChallengeInv
      { pool with threads := pool.threads ++ [(request, request.2.program js request.1)] }
      (Function.update phase pool.threads.length (request.2.phase js request.1)) := by
  obtain ⟨hmatches, hholds, hnone⟩ := phase_starts js request.1 request.2 pool.state
  have hold : ∀ j id action, (Function.update phase pool.threads.length
      (request.2.phase js request.1) j).Decides id action → (phase j).Decides id action := by
    intro j id action hj
    by_cases hlast : j = pool.threads.length
    · rw [hlast, Function.update_self] at hj
      exact absurd hj (hnone id action)
    · rwa [Function.update_of_ne hlast] at hj
  constructor
  · exact h.tracks.start (program_follows js request.1 request.2)
  · intro j t hj
    rcases ThreadPool.getElem?_append_thread hj with hj | ⟨rfl, rfl⟩
    · have hlt := (List.getElem?_eq_some_iff.mp hj).1
      rw [Function.update_of_ne (by omega)]
      exact h.belongs j t hj
    · rw [Function.update_self]
      exact hmatches
  · intro j hj
    rw [List.length_append, List.length_singleton] at hj
    rw [Function.update_of_ne (by omega)]
    exact h.idle j (by omega)
  · intro j
    by_cases hlast : j = pool.threads.length
    · rw [hlast, Function.update_self]
      exact hholds
    · rw [Function.update_of_ne hlast]
      exact h.holds j
  · exact fun i j id action action' hi hj =>
      h.agree i j id action action' (hold i id action hi) (hold j id action' hj)
  · refine ⟨h.bonded.absent, fun id c hc hbond => ?_⟩
    obtain ⟨l, hl, hstate⟩ := h.bonded.bonded id c hc hbond
    refine ⟨l, hl, hstate.imp_left fun hopen => ⟨hopen.1, hopen.2.imp_right ?_⟩⟩
    rintro ⟨j, action, hj, hpending⟩
    refine ⟨j, action, ?_, hpending⟩
    have hlt : j ≠ pool.threads.length := by
      rintro rfl
      rw [h.idle _ le_rfl] at hj
      exact not_decides_finished hj
    rwa [Function.update_of_ne hlt]

/-- A call of any request keeps the invariant. -/
theorem ChallengeInv.answered (h : ChallengeInv pool phase)
    (hi : pool.threads[i]? = some (request, .call op next))
    (hanswer : Answered js pool.state op answer s)
    (hagrees : ∀ a, answer = .ok a → pool.Agrees (request, next answer))
    (hmayFail : ∀ e, answer = .error e → pool.MayFail i (request, .call op next)) :
    ∃ k, ChallengeInv ⟨s, pool.threads.set i (request, next answer)⟩
      (Function.update phase i k) := by
  cases hk : phase i with
  | opening c reserved => exact opening_step h hi hk hanswer
  | reading id asked => exact reading_step h hi hk hanswer hagrees
  | deciding id action settled => exact deciding_step h hi hk hanswer hmayFail
  | unbonded id => exact unbonded_step h hi hk hanswer
  | finished =>
    have hfollows := h.tracks i _ _ hi
    rw [hk] at hfollows
    exact False.elim (by cases op <;> exact hfollows.1)

/-- Every sound event keeps the invariant. -/
theorem ChallengeInv.after (h : ChallengeInv pool phase)
    {event : ThreadPool.Event (ChallengeHost × ChallengeRequest) Fault}
    (hsound : pool.Sound js event) :
    ∃ phase', ChallengeInv
      (pool.after (fun request => request.2.program js request.1) (challengeHandler js) event)
      phase' := by
  rcases ThreadPool.after_cases (fun request => request.2.program js request.1)
    (challengeHandler js) pool event with heq | ⟨request, rfl, heq⟩ |
      ⟨i, request, op, next, answer, s, hi, hcase, heq⟩
  · rw [heq]
    exact ⟨phase, h⟩
  · rw [heq]
    exact ⟨_, h.start request⟩
  · rw [heq]
    rcases hcase with ⟨rfl, hserved⟩ | ⟨e, rfl, hfailed⟩
    · obtain ⟨hagrees, hmayFail⟩ := hsound request op next hi
      obtain ⟨rfl, rfl⟩ := Prod.mk.inj hserved
      obtain ⟨k, hk⟩ := h.answered hi (Or.inl rfl) (fun _ _ => hagrees) hmayFail
      exact ⟨_, hk⟩
    · obtain ⟨rfl, rfl⟩ := Prod.mk.inj hfailed
      have hanswer : Answered js pool.state op (.error e) pool.state := Or.inr ⟨e, rfl, rfl⟩
      obtain ⟨k, hk⟩ := h.answered hi hanswer (by simp) fun _ _ => hsound _ hi
      exact ⟨_, hk⟩

namespace ChallengePool

/-- The pools that openings and decisions under a condition lead to, from stores whose bonds
are those of their statuses. -/
def Reached (js : Runtime) (condition : ChallengePool →
    ThreadPool.Event (ChallengeHost × ChallengeRequest) Fault → Prop) : ChallengePool → Prop :=
  ThreadPool.Run (fun request => request.2.program js request.1) (challengeHandler js) condition
    fun pool => pool.threads = [] ∧ pool.state.Bonded fun _ _ => False

/-- The bond of a challenge that no decision is working on is the one its status stands for. -/
def BondsMatch (pool : ChallengePool) : Prop :=
  ∀ id c, pool.state.challenges.get? id = some c → 0 < c.bondMinorUnits →
    (∀ t ∈ pool.threads, ¬ChallengeThread.InProgress t id) →
      ∃ l, pool.state.lock id = some l ∧
        ∀ status, c.status.bondStatus = some status → l.status = status

end ChallengePool

private theorem ChallengeInv.bondsMatch (h : ChallengeInv pool phase) : pool.BondsMatch := by
  intro id c hc hbond hrest
  obtain ⟨l, hl, hstate⟩ := h.bonded.bonded id c hc hbond
  refine ⟨l, hl, fun status hstatus => ?_⟩
  rcases hstate with ⟨hopen, hlocked | ⟨j, action, hj, -⟩⟩ | ⟨-, hfinal⟩
  · rw [hopen] at hstatus
    rw [hlocked]
    exact Option.some.inj hstatus
  · obtain ⟨t, ht, hcommitted⟩ := h.committed hj
    exact absurd (inProgress_of_committed hcommitted) (hrest t (List.mem_of_getElem? ht))
  · exact hfinal status hstatus

/-- In every sound run the bonds match the statuses. -/
theorem sound_challenge_run_bondsMatch (h : pool.Reached js (ChallengePool.Sound js)) :
    pool.BondsMatch := by
  have hinv : ∃ phase, ChallengeInv pool phase := by
    refine ThreadPool.Run.invariant (I := fun pool => ∃ phase, ChallengeInv pool phase) ?_ ?_ h
    · rintro pool ⟨hthreads, hbonded⟩
      exact ⟨_, challengeInv_start hthreads hbonded⟩
    · rintro pool event ⟨phase, hphase⟩ hsound
      exact hphase.after hsound
  obtain ⟨phase, hphase⟩ := hinv
  exact hphase.bondsMatch

/-! ### A rejection, and a retry that accepts -/

private abbrev jsBond : Runtime := JavaScript.reference .double

private def bondHost : ChallengeHost where
  env := devnetEnv
  clock := "2026-07-01T12:05:00.000Z"
  toISOString _ := .ok "2026-07-01T12:15:00.000Z"

private def bondedRoute : DotCastResolutionRoute where
  routeId := "route-1"
  marketId := "market-1"
  poolId := none
  status := .locked
  tier := .optimisticBonded
  bondMinorUnits := 40
  createdAt := "2026-07-01T12:00:00.000Z"

private def openFifty : ChallengeRequest := .open
  { route := .ok bondedRoute
    challengerId := some "carol"
    reason := some "wrong feed"
    bondMinorUnits := some (.finite 50)
    challengeId := some "challenge-1"
    windowSeconds := .ok none
    now := none }

private def decideFifty (action : ChallengeDecisionAction) : ChallengeRequest := .decide
  { challengeId := some "challenge-1", action := .ok action, decisionBy := some "ops", now := none }

/-- A challenger with 500 available units, and no challenge. -/
private def funded : ChallengePool where
  state :=
    { challenges := .empty
      funding := FundingStore.empty.putBalance ⟨"carol", 500, 0, 0, 0, 0, "t"⟩ (by decide)
      challenges_ok := by simp }
  threads := []

private abbrev BondEvent : Type := ThreadPool.Event (ChallengeHost × ChallengeRequest) Fault

private abbrev afterBondEvents (events : List BondEvent) : ChallengePool :=
  events.foldl (ThreadPool.after (fun request => request.2.program jsBond request.1)
    (challengeHandler jsBond)) funded

/-- The challenge is opened and rejected. -/
private def openAndReject : List BondEvent :=
  .start (bondHost, openFifty) :: List.replicate 6 (.serve 0) ++
    .start (bondHost, decideFifty .reject) :: List.replicate 7 (.serve 1)

/-- The rejection fails when it is written, and a retry accepts. -/
private def rejectThenAccept : List BondEvent :=
  .start (bondHost, openFifty) :: List.replicate 6 (.serve 0) ++
    .start (bondHost, decideFifty .reject) :: List.replicate 6 (.serve 1) ++
      .fail 1 (.plain "D1_ERROR") ::
        .start (bondHost, decideFifty .accept) :: List.replicate 4 (.serve 2)

private theorem bonded_funded : funded.state.Bonded fun _ _ => False where
  absent id l _ hl := by
    rw [show funded.state.lock id = none from rfl] at hl
    contradiction
  bonded id c hc := by
    rw [show funded.state.challenges.get? id = none from Rows.get?_empty id] at hc
    contradiction

/-- A thread that has ended is not in progress. -/
theorem not_inProgress_of_isDone {t : ChallengeThread} (h : t.2.isDone = true) (id : String) :
    ¬t.InProgress id := by
  rintro ⟨request, op, next, -, hp, -⟩
  rw [hp] at h
  contradiction

/-- Only one thread is on its way, and its call is served. -/
def ChallengePool.alone (js : Runtime) (pool : ChallengePool) :
    ThreadPool.Event (ChallengeHost × ChallengeRequest) Fault → Bool
  | .start _ => true
  | .serve i =>
    (List.range pool.threads.length).all (fun j => j == i ||
      (pool.threads[j]?.map (·.2.isDone)).getD true) &&
    match pool.threads[i]? with
    | some (_, .call op _) => (challengeHandler js op pool.state).1.isOk
    | _ => true
  | .fail _ _ => false

/-- Requests that are served one after another never disagree. -/
theorem sound_of_alone {event : ThreadPool.Event (ChallengeHost × ChallengeRequest) Fault}
    (h : pool.alone js event = true) : pool.Sound js event := by
  cases event with
  | start request => exact trivial
  | fail i e => contradiction
  | serve i =>
    intro request op next hi
    unfold ChallengePool.alone at h
    simp only [hi, Bool.and_eq_true, List.all_eq_true, List.mem_range, Bool.or_eq_true,
      beq_iff_eq] at h
    obtain ⟨hothers, hok⟩ := h
    refine ⟨fun id action c hcommitted _ _ t ht action' hcommitted' => ?_, fun e he => ?_⟩
    · obtain ⟨j, hj⟩ := List.mem_iff_getElem?.mp ht
      have hlt := (List.getElem?_eq_some_iff.mp hj).1
      rcases hothers j hlt with rfl | hdone
      · have hsame := Option.some.inj (hj.symm.trans hi)
        obtain ⟨r, _, _, hr, -, -, -, haction⟩ := hcommitted
        obtain ⟨r', _, _, hr', -, -, -, haction'⟩ := hcommitted'
        rw [hsame] at hr'
        obtain rfl := ChallengeRequest.decide.inj (hr.symm.trans hr')
        exact Option.some.inj (haction.symm.trans haction')
      · rw [hj] at hdone
        exact absurd (inProgress_of_committed hcommitted') (not_inProgress_of_isDone hdone id)
    · rw [he] at hok
      contradiction

/-- A challenge that is opened and rejected, one call after the other, has its bond slashed. -/
theorem sound_challenge_run_bondsMatch_rejected :
    (afterBondEvents openAndReject).BondsMatch ∧
      ((afterBondEvents openAndReject).state.lock "challenge-1").map (·.status) =
        some .slashed := by
  have halone : ThreadPool.Along (fun request => request.2.program jsBond request.1)
      (challengeHandler jsBond) (fun pool event => ChallengePool.alone jsBond pool event = true)
      openAndReject funded := by decide +kernel
  have hrun : (afterBondEvents openAndReject).Reached jsBond (ChallengePool.Sound jsBond) :=
    (ThreadPool.Run.start funded ⟨rfl, bonded_funded⟩).along
      (halone.mono fun _ _ => sound_of_alone)
  exact ⟨sound_challenge_run_bondsMatch hrun, by decide +kernel⟩

/-- A rejection that fails after slashing the bond leaves the challenge open, and a retry may
accept it: the bond of an accepted challenge stays slashed. -/
theorem accepted_challenge_slashed :
    (afterBondEvents rejectThenAccept).Reached jsBond (fun _ _ => True) ∧
      ¬(afterBondEvents rejectThenAccept).BondsMatch := by
  refine ⟨(ThreadPool.Run.start funded ⟨rfl, bonded_funded⟩).along (by decide +kernel),
    fun hmatch => ?_⟩
  have hrow : ((afterBondEvents rejectThenAccept).state.challenges.get? "challenge-1").map
      (fun c => (c.status, c.bondMinorUnits)) = some (.accepted, 50) := by decide +kernel
  have hlock : ((afterBondEvents rejectThenAccept).state.lock "challenge-1").map (·.status) =
      some .slashed := by decide +kernel
  have hdone : (afterBondEvents rejectThenAccept).threads.all (·.2.isDone) = true := by
    decide +kernel
  obtain ⟨c, hc, hpair⟩ := Option.map_eq_some_iff.mp hrow
  obtain ⟨hstatus, hbond⟩ := Prod.mk.inj hpair
  obtain ⟨l, hl, hfinal⟩ := hmatch "challenge-1" c hc (by omega) fun t ht =>
    not_inProgress_of_isDone (List.all_eq_true.mp hdone t ht) _
  rw [hl] at hlock
  have hslashed : l.status = .slashed := Option.some.inj hlock
  have hreleased := hfinal .released (by rw [hstatus]; rfl)
  rw [hslashed] at hreleased
  contradiction

end Yevow.DotCast
