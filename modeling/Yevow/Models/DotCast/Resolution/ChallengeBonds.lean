import Yevow.Models.DotCast.Resolution.ChallengePhases

/-!
# The bond of a decided challenge

Openings and decisions run side by side, and any of their calls may fail. As long as no
decision goes on with an open challenge while another one with a different bond action is on
its way, and the last decision on its way does not fail with the bond settled, a challenge
at rest has the bond that its status stands for.
-/

namespace Yevow.DotCast

open JavaScript (Runtime EndsPlain)

/-- The bond a status stands for. -/
def ChallengeStatus.bondStatus : ChallengeStatus → Option BondLockStatus
  | .open => some .locked
  | .accepted => some .released
  | .rejected => some .slashed
  | .expired => some .released
  | .withdrawn => none

theorem bondStatus_of_bondAction {status : ChallengeStatus} {action : BondAction}
    (hopen : status ≠ .open) (hwithdrawn : status ≠ .withdrawn)
    (haction : status.bondAction = action) : status.bondStatus = some action.status := by
  subst haction
  cases status with
  | «open» => exact absurd rfl hopen
  | accepted => rfl
  | rejected => rfl
  | expired => rfl
  | withdrawn => exact absurd rfl hwithdrawn

namespace ChallengeStore

/-- The lock of a challenge's bond as it is stored. -/
def lock (s : ChallengeStore) (challengeId : String) : Option BondLock :=
  s.funding.bondLocks.lookup (challengeLockId challengeId)

/-- A lock without a challenge is locked. A challenge with a bond has a lock: one that its
status stands for once it is decided, a locked one while it is open, unless a pending
decision has settled it. -/
structure Bonded (s : ChallengeStore) (pending : String → BondLockStatus → Prop) : Prop where
  absent : ∀ id l, s.challenges.get? id = none → s.lock id = some l → l.status = .locked
  bonded : ∀ id c, s.challenges.get? id = some c → 0 < c.bondMinorUnits →
    ∃ l, s.lock id = some l ∧
      ((c.status = .open ∧ (l.status = .locked ∨ pending id l.status)) ∨
        c.status ≠ .open ∧ ∀ status, c.status.bondStatus = some status → l.status = status)

end ChallengeStore

namespace ChallengePhase

/-- What a phase knows of the stores. -/
def Holds (s : ChallengeStore) : ChallengePhase → Prop
  | opening c reserved => c.status = .open ∧ (reserved = true → (s.lock c.challengeId).isSome)
  | deciding id action settled => ∃ c l, s.challenges.get? id = some c ∧ 0 < c.bondMinorUnits ∧
      s.lock id = some l ∧ (l.status = .locked ∨ l.status = action.status) ∧
      (settled = true → l.status = action.status) ∧
      (c.status = .open ∨ c.status.bondStatus = some action.status)
  | unbonded id => ∃ c, s.challenges.get? id = some c ∧ ¬0 < c.bondMinorUnits
  | reading _ _ => True
  | finished => True

/-- A phase decides a challenge one way. -/
def Decides (id : String) (action : BondAction) (k : ChallengePhase) : Prop :=
  ∃ settled, k = deciding id action settled

/-- What a call of a phase may change: it keeps rows and locks, and it finalizes only the
challenge it decides and its lock, both its own way. -/
structure Evolves (k : ChallengePhase) (s s' : ChallengeStore) : Prop where
  rows : ∀ id c, s.challenges.get? id = some c → ∃ c', s'.challenges.get? id = some c' ∧
    c'.bondMinorUnits = c.bondMinorUnits ∧ (0 < c.bondMinorUnits → c'.status = c.status ∨
      ∃ action, k.Decides id action ∧ c'.status.bondStatus = some action.status ∧
        ∀ l, s.lock id = some l → l.status = action.status)
  locks : ∀ id l, s.lock id = some l → ∃ l', s'.lock id = some l' ∧ (l'.status = l.status ∨
    ∃ action, k.Decides id action ∧ l'.status = action.status)

private theorem evolves_of_eq {k : ChallengePhase} {s s' : ChallengeStore}
    (hrows : s'.challenges = s.challenges) (hlocks : s'.funding.bondLocks = s.funding.bondLocks) :
    k.Evolves s s' where
  rows id c hc := ⟨c, by rw [hrows, hc], rfl, fun _ => Or.inl rfl⟩
  locks id l hl := ⟨l, by rw [ChallengeStore.lock, hlocks]; exact hl, Or.inl rfl⟩

/-- What one phase knows survives the calls of another that decides no challenge otherwise. -/
theorem Holds.evolve {k k' : ChallengePhase} {s s' : ChallengeStore} (hk : k.Holds s)
    (hevolves : k'.Evolves s s')
    (hagree : ∀ id action action', k.Decides id action → k'.Decides id action' →
      action = action') : k.Holds s' := by
  cases k with
  | opening c reserved =>
    refine ⟨hk.1, fun hreserved => ?_⟩
    obtain ⟨l, hl⟩ := Option.isSome_iff_exists.mp (hk.2 hreserved)
    obtain ⟨l', hl', -⟩ := hevolves.locks _ l hl
    rw [hl']
    rfl
  | deciding id action settled =>
    obtain ⟨c, l, hc, hbond, hl, hlock, hsettled, hstatus⟩ := hk
    obtain ⟨c', hc', hbond', hkept⟩ := hevolves.rows id c hc
    obtain ⟨l', hl', hlocked⟩ := hevolves.locks id l hl
    have hsame : ∀ action', k'.Decides id action' → action' = action :=
      fun action' hdecides => (hagree id action action' ⟨settled, rfl⟩ hdecides).symm
    refine ⟨c', l', hc', hbond'.symm ▸ hbond, hl', ?_, ?_, ?_⟩
    · rcases hlocked with heq | ⟨action', hdecides, heq⟩
      · rw [heq]
        exact hlock
      · rw [hsame action' hdecides] at heq
        exact Or.inr heq
    · intro hset
      rcases hlocked with heq | ⟨action', hdecides, heq⟩
      · rw [heq]
        exact hsettled hset
      · rw [hsame action' hdecides] at heq
        exact heq
    · rcases hkept hbond with heq | ⟨action', hdecides, heq, -⟩
      · rw [heq]
        exact hstatus
      · rw [hsame action' hdecides] at heq
        exact Or.inr heq
  | unbonded id =>
    obtain ⟨c, hc, hbond⟩ := hk
    obtain ⟨c', hc', hbond', -⟩ := hevolves.rows id c hc
    exact ⟨c', hc', hbond'.symm ▸ hbond⟩
  | reading id action => exact trivial
  | finished => exact trivial

private theorem Decides.unique {k : ChallengePhase} {id : String} {action action' : BondAction}
    (h : k.Decides id action) (h' : k.Decides id action') : action = action' := by
  obtain ⟨settled, rfl⟩ := h
  obtain ⟨settled', heq⟩ := h'
  exact (ChallengePhase.deciding.inj heq).2.1

/-- A phase that decides a challenge knows its row and its lock. -/
theorem Holds.decides {k : ChallengePhase} {s : ChallengeStore} {id : String} {action : BondAction}
    (hk : k.Holds s) (hdecides : k.Decides id action) : ∃ c l, s.challenges.get? id = some c ∧
      s.lock id = some l ∧ (c.status = .open ∨ c.status.bondStatus = some action.status) := by
  obtain ⟨settled, rfl⟩ := hdecides
  obtain ⟨c, l, hc, -, hl, -, -, hstatus⟩ := hk
  exact ⟨c, l, hc, hl, hstatus⟩

end ChallengePhase

private theorem bondStatus_ne_locked (action : BondAction) : action.status ≠ .locked := by
  cases action <;> decide

namespace ChallengeStore

variable {s s' : ChallengeStore} {k : ChallengePhase}
    {pending pending' : String → BondLockStatus → Prop}

/-- A call that adds only open challenges with locks, and only open locks, keeps the bonds as
long as a settled bond of an open challenge is pending. -/
theorem Bonded.evolve (hs : s.Bonded pending) (hk : k.Holds s) (hevolves : k.Evolves s s')
    (hlock : ∀ id l', s'.lock id = some l' → (s.lock id).isSome ∨ l'.status = .locked)
    (hrow : ∀ id c', s'.challenges.get? id = some c' → (s.challenges.get? id).isSome ∨
      c'.status = .open ∧ (0 < c'.bondMinorUnits → (s'.lock id).isSome))
    (hopen : ∀ id c' l', s'.challenges.get? id = some c' → 0 < c'.bondMinorUnits →
      c'.status = .open → s'.lock id = some l' → l'.status = .locked ∨ pending' id l'.status) :
    s'.Bonded pending' where
  absent id l' hnone hl' := by
    have hnone' : s.challenges.get? id = none := by
      rw [Option.eq_none_iff_forall_ne_some]
      intro c hc
      obtain ⟨c', hc', -⟩ := hevolves.rows id c hc
      rw [hnone] at hc'
      contradiction
    rcases hlock id l' hl' with hold | hlocked
    · obtain ⟨l, hl⟩ := Option.isSome_iff_exists.mp hold
      obtain ⟨l'', hl'', hsame⟩ := hevolves.locks id l hl
      obtain rfl := Option.some.inj (hl''.symm.trans hl')
      rcases hsame with heq | ⟨action, hdecides, -⟩
      · rw [heq]
        exact hs.absent id l hnone' hl
      · obtain ⟨c, _, hc, -⟩ := hk.decides hdecides
        rw [hnone'] at hc
        contradiction
    · exact hlocked
  bonded id c' hc' hbond := by
    rcases hrow id c' hc' with hold | ⟨hstatus, hhas⟩
    · obtain ⟨c, hc⟩ := Option.isSome_iff_exists.mp hold
      obtain ⟨c'', hc'', hbond', hkept⟩ := hevolves.rows id c hc
      obtain rfl := Option.some.inj (hc''.symm.trans hc')
      rw [hbond'] at hbond
      obtain ⟨l, hl, hlocked⟩ := hs.bonded id c hc hbond
      obtain ⟨l', hl', hsame⟩ := hevolves.locks id l hl
      refine ⟨l', hl', ?_⟩
      by_cases hstatus : c''.status = .open
      · exact Or.inl ⟨hstatus, hopen id c'' l' hc' (hbond' ▸ hbond) hstatus hl'⟩
      refine Or.inr ⟨hstatus, fun status hfor => ?_⟩
      rcases hkept hbond with hunchanged | ⟨action, hdecides, hdecided, hsettled⟩
      · rw [hunchanged] at hstatus hfor
        rcases hlocked with ⟨h, -⟩ | ⟨-, hfinal⟩
        · exact absurd h hstatus
        rcases hsame with heq | ⟨action, hdecides, heq⟩
        · rw [heq]
          exact hfinal status hfor
        · obtain ⟨c₁, _, hc₁, -, hdecided⟩ := hk.decides hdecides
          obtain rfl := Option.some.inj (hc₁.symm.trans hc)
          rcases hdecided with h | h
          · exact absurd h hstatus
          · rw [heq]
            exact Option.some.inj (h.symm.trans hfor)
      · rw [← Option.some.inj (hdecided.symm.trans hfor)]
        rcases hsame with heq | ⟨action', hdecides', heq⟩
        · rw [heq]
          exact hsettled l hl
        · rw [heq, hdecides'.unique hdecides]
    · obtain ⟨l', hl'⟩ := Option.isSome_iff_exists.mp (hhas hbond)
      exact ⟨l', hl', Or.inl ⟨hstatus, hopen id c' l' hc' hbond hstatus hl'⟩⟩

end ChallengeStore

/-! ## Requests side by side -/

/-- Requests with the hosts that serve them. -/
abbrev ChallengePool : Type :=
  ThreadPool (ChallengeHost × ChallengeRequest) ChallengeOp ChallengeOp.Ret Fault Unit
    ChallengeStore

abbrev ChallengeThread : Type := (ChallengeHost × ChallengeRequest) × Challenging Unit

/-- The thread decides the challenge and has not ended. -/
def ChallengeThread.InProgress (t : ChallengeThread) (id : String) : Prop :=
  ∃ request op next, t.1.2 = .decide request ∧ t.2 = .call op next ∧
    Gateway.parseRequiredString request.challengeId "challengeId" = .ok id

/-- The thread decides the challenge one way, has read it and has not ended. -/
def ChallengeThread.Committed (t : ChallengeThread) (id : String) (action : BondAction) : Prop :=
  ∃ request op next, t.1.2 = .decide request ∧ t.2 = .call op next ∧
    (∀ id', op ≠ .getResolutionChallenge id') ∧
    Gateway.parseRequiredString request.challengeId "challengeId" = .ok id ∧
    request.bondAction = some action

namespace ChallengePool

/-- A thread that decides a challenge with a bond settles it as the others on their way do. -/
def Agrees (pool : ChallengePool) (t : ChallengeThread) : Prop :=
  ∀ id action c, t.Committed id action → pool.state.challenges.get? id = some c →
    0 < c.bondMinorUnits → ∀ t' ∈ pool.threads, ∀ action',
      ChallengeThread.Committed t' id action' → action = action'

/-- A thread does not leave an open challenge behind with its bond settled and no other
decision of it on its way. -/
def MayFail (pool : ChallengePool) (i : ℕ) (t : ChallengeThread) : Prop :=
  ∀ id action c l, t.Committed id action → pool.state.challenges.get? id = some c →
    0 < c.bondMinorUnits → c.status = .open → pool.state.lock id = some l →
      l.status = .locked ∨ ∃ j t' action', j ≠ i ∧ pool.threads[j]? = some t' ∧
        ChallengeThread.Committed t' id action'

/-- The condition on an event. -/
def Sound (js : Runtime) (pool : ChallengePool) :
    ThreadPool.Event (ChallengeHost × ChallengeRequest) Fault → Prop
  | .start _ => True
  | .serve i => ∀ request op next, pool.threads[i]? = some (request, .call op next) →
      pool.Agrees (request, next (challengeHandler js op pool.state).1) ∧
        ∀ e, (challengeHandler js op pool.state).1 = .error e →
          pool.MayFail i (request, .call op next)
  | .fail i _ => ∀ t, pool.threads[i]? = some t → pool.MayFail i t

end ChallengePool

/-- A request is in a phase that belongs to it. -/
def ChallengePhase.Matches (request : ChallengeRequest) : ChallengePhase → Prop
  | opening _ _ => ∃ r, request = .open r
  | reading id action => ∃ r, request = .decide r ∧
      Gateway.parseRequiredString r.challengeId "challengeId" = .ok id ∧ action = r.bondAction
  | deciding id action _ => ∃ r, request = .decide r ∧
      Gateway.parseRequiredString r.challengeId "challengeId" = .ok id ∧ r.bondAction = some action
  | unbonded id => ∃ r, request = .decide r ∧
      Gateway.parseRequiredString r.challengeId "challengeId" = .ok id
  | finished => True

section Threads

open ChallengePhase (MayEnd)

variable {t : ChallengeThread} {k : ChallengePhase} {id : String} {action : BondAction}

theorem committed_of_decides (hfollows : t.2.Follows challengeDiscipline MayEnd k)
    (hmatches : k.Matches t.1.2) (hk : k.Decides id action) : t.Committed id action := by
  obtain ⟨settled, rfl⟩ := hk
  obtain ⟨request, hrequest, hid, haction⟩ := hmatches
  obtain ⟨host, p⟩ := t
  cases p with
  | done result => exact False.elim hfollows
  | call op next =>
    refine ⟨request, op, next, hrequest, rfl, ?_, hid, haction⟩
    rintro id' rfl
    exact hfollows.1

theorem inProgress_of_committed (h : t.Committed id action) : t.InProgress id := by
  obtain ⟨request, op, next, hrequest, hp, -, hid, -⟩ := h
  exact ⟨request, op, next, hrequest, hp, hid⟩

theorem decides_of_committed {s : ChallengeStore} {c : DotCastResolutionChallenge}
    (hfollows : t.2.Follows challengeDiscipline MayEnd k) (hmatches : k.Matches t.1.2)
    (hholds : k.Holds s) (hc : s.challenges.get? id = some c) (hbond : 0 < c.bondMinorUnits)
    (h : t.Committed id action) : k.Decides id action := by
  obtain ⟨request, op, next, hrequest, hp, hop, hid, haction⟩ := h
  rw [hp] at hfollows
  rw [hrequest] at hmatches
  cases k with
  | opening c' reserved =>
    obtain ⟨r, hr⟩ := hmatches
    contradiction
  | reading id' action' =>
    cases op with
    | getResolutionChallenge id'' => exact absurd rfl (hop id'')
    | funding op => exact False.elim (by cases op <;> exact hfollows.1)
    | insertResolutionChallenge c' => exact False.elim hfollows.1
    | updateResolutionChallenge c' => exact False.elim hfollows.1
  | deciding id' action' settled =>
    obtain ⟨r, hr, hid', haction'⟩ := hmatches
    obtain rfl := ChallengeRequest.decide.inj hr
    obtain rfl := Except.ok.inj (hid'.symm.trans hid)
    obtain rfl := Option.some.inj (haction'.symm.trans haction)
    exact ⟨settled, rfl⟩
  | unbonded id' =>
    obtain ⟨r, hr, hid'⟩ := hmatches
    obtain rfl := ChallengeRequest.decide.inj hr
    obtain rfl := Except.ok.inj (hid'.symm.trans hid)
    obtain ⟨c', hc', hbond'⟩ := hholds
    obtain rfl := Option.some.inj (hc'.symm.trans hc)
    exact absurd hbond hbond'
  | finished => exact False.elim (by cases op <;> exact hfollows.1)

end Threads

/-! ## The invariant -/

/-- Every thread follows its phase, every phase holds, no two decide a challenge
differently, and a settled bond of an open challenge belongs to a decision on its way. -/
structure ChallengeInv (pool : ChallengePool) (phase : ℕ → ChallengePhase) : Prop where
  tracks : pool.Tracks challengeDiscipline ChallengePhase.MayEnd phase
  belongs : ∀ i t, pool.threads[i]? = some t → (phase i).Matches t.1.2
  idle : ∀ i, pool.threads.length ≤ i → phase i = .finished
  holds : ∀ i, (phase i).Holds pool.state
  agree : ∀ i j id action action', (phase i).Decides id action → (phase j).Decides id action' →
    action = action'
  bonded : pool.state.Bonded fun id status =>
    ∃ i action, (phase i).Decides id action ∧ status = action.status

namespace ChallengeInv

variable {pool : ChallengePool} {phase : ℕ → ChallengePhase} {i : ℕ}
  {request : ChallengeHost × ChallengeRequest} {op : ChallengeOp}
  {next : Except Fault op.Ret → Challenging Unit} {answer : Except Fault op.Ret}
  {s : ChallengeStore} {k' : ChallengePhase}

/-- The settled bond of an open challenge belongs to a decision that is on its way still. -/
private theorem pending_of_open (h : ChallengeInv pool phase)
    (hevolves : (phase i).Evolves pool.state s)
    (hlock : ∀ id l', s.lock id = some l' →
      (pool.state.lock id).isSome ∨ l'.status = .locked)
    (hkeep : ∀ id action, (phase i).Decides id action → k'.Decides id action ∨
      ∀ c l, s.challenges.get? id = some c → 0 < c.bondMinorUnits → c.status = .open →
        s.lock id = some l → l.status = .locked ∨
          ∃ j action', j ≠ i ∧ (phase j).Decides id action')
    {id : String} {c' : DotCastResolutionChallenge} {l' : BondLock}
    (hc' : s.challenges.get? id = some c') (hbond : 0 < c'.bondMinorUnits)
    (hstatus : c'.status = .open) (hl' : s.lock id = some l') :
    l'.status = .locked ∨ ∃ j action, (Function.update phase i k' j).Decides id action ∧
      l'.status = action.status := by
  by_cases hlocked : l'.status = .locked
  · exact Or.inl hlocked
  -- a decision of this thread is kept, or another one is on its way
  have hown : ∀ action, (phase i).Decides id action → l'.status = action.status →
      ∃ j action, (Function.update phase i k' j).Decides id action ∧
        l'.status = action.status := by
    intro action hdecides heq
    rcases hkeep id action hdecides with hk' | hothers
    · exact ⟨i, action, by rwa [Function.update_self], heq⟩
    · rcases hothers c' l' hc' hbond hstatus hl' with h' | ⟨j, action', hji, hj⟩
      · exact absurd h' hlocked
      · refine ⟨j, action, ?_, heq⟩
        rw [Function.update_of_ne hji, h.agree i j id action action' hdecides hj]
        exact hj
  have hold : (pool.state.lock id).isSome := (hlock id l' hl').resolve_right hlocked
  obtain ⟨l, hl⟩ := Option.isSome_iff_exists.mp hold
  obtain ⟨l'', hl'', hsame⟩ := hevolves.locks id l hl
  obtain rfl := Option.some.inj (hl''.symm.trans hl')
  rcases hsame with heq | ⟨action, hdecides, heq⟩
  · cases hc : pool.state.challenges.get? id with
    | none => exact absurd (heq.trans (h.bonded.absent id l hc hl)) hlocked
    | some c =>
      obtain ⟨c'', hc'', hbond', hkept⟩ := hevolves.rows id c hc
      obtain rfl := Option.some.inj (hc''.symm.trans hc')
      rw [hbond'] at hbond
      rcases hkept hbond with hunchanged | ⟨action, -, hdecided, -⟩
      · obtain ⟨l₁, hl₁, hstate⟩ := h.bonded.bonded id c hc hbond
        obtain rfl := Option.some.inj (hl₁.symm.trans hl)
        rcases hstate with ⟨-, hopen | ⟨j, action, hj, hpending⟩⟩ | ⟨hclosed, -⟩
        · exact absurd (heq.trans hopen) hlocked
        · rw [← heq] at hpending
          by_cases hji : j = i
          · exact Or.inr (hown action (hji ▸ hj) hpending)
          · exact Or.inr ⟨j, action, by rwa [Function.update_of_ne hji], hpending⟩
        · exact absurd (hunchanged ▸ hstatus) hclosed
      · rw [hstatus] at hdecided
        exact absurd (Option.some.inj hdecided).symm (bondStatus_ne_locked action)
  · exact Or.inr (hown action hdecides heq)

/-- A call keeps the invariant when its answer leads to a phase that holds, it changes only
what its phase may, and no settled bond is left behind. -/
theorem call (h : ChallengeInv pool phase)
    (hi : pool.threads[i]? = some (request, .call op next))
    (hfollows : (next answer).Follows challengeDiscipline ChallengePhase.MayEnd k')
    (hbelongs : k'.Matches request.2) (hevolves : (phase i).Evolves pool.state s)
    (hlock : ∀ id l', s.lock id = some l' →
      (pool.state.lock id).isSome ∨ l'.status = .locked)
    (hrow : ∀ id c', s.challenges.get? id = some c' → (pool.state.challenges.get? id).isSome ∨
      c'.status = .open ∧ (0 < c'.bondMinorUnits → (s.lock id).isSome))
    (hholds : k'.Holds s)
    (hagree : ∀ id action, k'.Decides id action → (phase i).Decides id action ∨
      ∀ j action', j ≠ i → (phase j).Decides id action' → action = action')
    (hkeep : ∀ id action, (phase i).Decides id action → k'.Decides id action ∨
      ∀ c l, s.challenges.get? id = some c → 0 < c.bondMinorUnits → c.status = .open →
        s.lock id = some l → l.status = .locked ∨
          ∃ j action', j ≠ i ∧ (phase j).Decides id action') :
    ChallengeInv ⟨s, pool.threads.set i (request, next answer)⟩ (Function.update phase i k') where
  tracks := h.tracks.answer hfollows
  belongs j t hj := by
    rcases ThreadPool.getElem?_set_thread hj with ⟨rfl, rfl⟩ | ⟨hne, hj⟩
    · rw [Function.update_self]
      exact hbelongs
    · rw [Function.update_of_ne hne]
      exact h.belongs j t hj
  idle j hj := by
    rw [List.length_set] at hj
    have hlt := (List.getElem?_eq_some_iff.mp hi).1
    rw [Function.update_of_ne (by omega)]
    exact h.idle j hj
  holds j := by
    by_cases hji : j = i
    · rw [hji, Function.update_self]
      exact hholds
    · rw [Function.update_of_ne hji]
      exact (h.holds j).evolve hevolves fun id action action' => h.agree j i id action action'
  agree j j' id action action' hj hj' := by
    have hnew : ∀ m action₁ action₂, m ≠ i → k'.Decides id action₁ →
        (phase m).Decides id action₂ → action₁ = action₂ := by
      intro m action₁ action₂ hm h₁ h₂
      rcases hagree id action₁ h₁ with hold | hothers
      · exact h.agree i m id action₁ action₂ hold h₂
      · exact hothers m action₂ hm h₂
    by_cases hji : j = i
    · rw [hji, Function.update_self] at hj
      by_cases hji' : j' = i
      · rw [hji', Function.update_self] at hj'
        exact hj.unique hj'
      · rw [Function.update_of_ne hji'] at hj'
        exact hnew j' action action' hji' hj hj'
    · rw [Function.update_of_ne hji] at hj
      by_cases hji' : j' = i
      · rw [hji', Function.update_self] at hj'
        exact (hnew j action' action hji hj' hj).symm
      · rw [Function.update_of_ne hji'] at hj'
        exact h.agree j j' id action action' hj hj'
  bonded := by
    apply h.bonded.evolve (h.holds i) hevolves hlock hrow
    intro id c' l' hc' hbond hstatus hl'
    exact pending_of_open h hevolves hlock hkeep hc' hbond hstatus hl'

/-- A call that touches neither rows nor locks. -/
theorem quiet (h : ChallengeInv pool phase)
    (hi : pool.threads[i]? = some (request, .call op next))
    (hfollows : (next answer).Follows challengeDiscipline ChallengePhase.MayEnd k')
    (hbelongs : k'.Matches request.2) (hrows : s.challenges = pool.state.challenges)
    (hlocks : s.funding.bondLocks = pool.state.funding.bondLocks) (hholds : k'.Holds s)
    (hagree : ∀ id action, k'.Decides id action → (phase i).Decides id action ∨
      ∀ j action', j ≠ i → (phase j).Decides id action' → action = action')
    (hkeep : ∀ id action, (phase i).Decides id action → k'.Decides id action ∨
      ∀ c l, pool.state.challenges.get? id = some c → 0 < c.bondMinorUnits → c.status = .open →
        pool.state.lock id = some l → l.status = .locked ∨
          ∃ j action', j ≠ i ∧ (phase j).Decides id action') :
    ChallengeInv ⟨s, pool.threads.set i (request, next answer)⟩ (Function.update phase i k') := by
  have hlock : ∀ id, s.lock id = pool.state.lock id := by
    intro id
    rw [ChallengeStore.lock, hlocks]
    rfl
  refine h.call hi hfollows hbelongs (ChallengePhase.evolves_of_eq hrows hlocks) ?_ ?_ hholds
    hagree ?_
  · intro id l' hl'
    rw [← hlock, hl']
    exact Or.inl rfl
  · intro id c' hc'
    rw [← hrows, hc']
    exact Or.inl rfl
  · intro id action hdecides
    rw [hrows]
    simp only [hlock]
    exact hkeep id action hdecides

end ChallengeInv

/-- An answer served from the stores, or a failure that leaves them alone. -/
def Answered (js : Runtime) (s : ChallengeStore) (op : ChallengeOp) (answer : Except Fault op.Ret)
    (s' : ChallengeStore) : Prop :=
  (answer, s') = challengeHandler js op s ∨ ∃ e, answer = .error e ∧ s' = s

namespace ChallengePhase

theorem not_decides_opening {c : DotCastResolutionChallenge} {reserved : Bool} {id : String}
    {action : BondAction} : ¬(opening c reserved).Decides id action := by
  rintro ⟨settled, h⟩
  contradiction

theorem not_decides_reading {id' : String} {asked : Option BondAction} {id : String}
    {action : BondAction} : ¬(reading id' asked).Decides id action := by
  rintro ⟨settled, h⟩
  contradiction

theorem not_decides_unbonded {id' id : String} {action : BondAction} :
    ¬(unbonded id').Decides id action := by
  rintro ⟨settled, h⟩
  contradiction

theorem not_decides_finished {id : String} {action : BondAction} :
    ¬finished.Decides id action := by
  rintro ⟨settled, h⟩
  contradiction

end ChallengePhase

/-! ### Writes of locks -/

theorem fundingHandler_insertBondLock (l : BondLock) (f : FundingStore) :
    (∃ e, fundingHandler (.insertBondLock l) f = (.error e, f)) ∨
      f.bondLocks.lookup l.lockId = none ∧ ∃ hl,
        fundingHandler (.insertBondLock l) f = (.ok (), f.putBondLock l hl) := by
  unfold fundingHandler FundingStore.writeBondLock
  simp only
  split_ifs with hstored hl
  · exact Or.inl ⟨_, rfl⟩
  · exact Or.inr ⟨by simpa using hstored, hl, rfl⟩
  · exact Or.inl ⟨_, rfl⟩

theorem fundingHandler_updateBondLock {l row : BondLock} {f : FundingStore}
    (hrow : f.bondLocks.lookup l.lockId = some row) :
    (∃ e, fundingHandler (.updateBondLock l) f = (.error e, f)) ∨
      ∃ hl, fundingHandler (.updateBondLock l) f =
        (.ok (), f.putBondLock (updatedBondLock row l) hl) := by
  unfold fundingHandler FundingStore.writeBondLock
  simp only [hrow]
  split_ifs with hl
  · exact Or.inr ⟨hl, rfl⟩
  · exact Or.inl ⟨_, rfl⟩

theorem fundingHandler_saveBalance_bondLocks (b : SettlementBalance) (f : FundingStore) :
    (fundingHandler (.saveBalance b) f).2.bondLocks = f.bondLocks := by
  unfold fundingHandler FundingStore.writeBalance
  simp only
  split_ifs <;> rfl

theorem lock_putBondLock (s : ChallengeStore) {l : BondLock} (hl : l.Valid) {id₀ : String}
    (hid : l.lockId = challengeLockId id₀) (id : String) :
    (s.withFunding (s.funding.putBondLock l hl)).lock id =
      if id = id₀ then some l else s.lock id := by
  show (s.funding.bondLocks.insert l.lockId l).lookup (challengeLockId id) = _
  rw [Table.lookup_insert, hid]
  by_cases h : id = id₀
  · rw [if_pos h, if_pos (congrArg _ h)]
  · rw [if_neg h, if_neg fun heq => h (challengeLockId_inj heq)]
    rfl

end Yevow.DotCast
