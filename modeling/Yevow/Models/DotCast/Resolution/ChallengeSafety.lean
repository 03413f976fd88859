import Yevow.Models.DotCast.Resolution.ChallengeBonds

/-!
# Every interleaving keeps the bonds

Each call of an opening or a decision keeps the invariant, so every sound run does: a
challenge with a bond that no decision is working on has the bond of its status.
-/

namespace Yevow.DotCast

open JavaScript (Runtime)
open ChallengePhase

variable {js : Runtime} {pool : ChallengePool} {phase : ℕ → ChallengePhase} {i : ℕ}
  {request : ChallengeHost × ChallengeRequest} {op : ChallengeOp}
  {next : Except Fault op.Ret → Challenging Unit} {answer : Except Fault op.Ret}
  {s : ChallengeStore} {k' : ChallengePhase}

/-! ## Calls of an opening -/

section Opening

variable {c : DotCastResolutionChallenge} {reserved : Bool}

/-- An opening goes on, or ends, after a call that touches neither rows nor locks. -/
theorem opening_quiet (h : ChallengeInv pool phase)
    (hi : pool.threads[i]? = some (request, .call op next)) (hk : phase i = opening c reserved)
    {reserved' : Bool}
    (hfollows : (next answer).Follows challengeDiscipline MayEnd (opening c reserved'))
    (hrows : s.challenges = pool.state.challenges)
    (hlocks : s.funding.bondLocks = pool.state.funding.bondLocks)
    (hreserved : reserved' = true → reserved = true ∨ (pool.state.lock c.challengeId).isSome) :
    ∃ k, ChallengeInv ⟨s, pool.threads.set i (request, next answer)⟩
      (Function.update phase i k) := by
  have hbelongs := h.belongs i _ hi
  have hholds := h.holds i
  rw [hk] at hbelongs hholds
  refine ⟨_, h.quiet hi hfollows hbelongs hrows hlocks ⟨hholds.1, fun hset => ?_⟩ ?_ ?_⟩
  · have hlock : s.lock c.challengeId = pool.state.lock c.challengeId := by
      rw [ChallengeStore.lock, hlocks]
      rfl
    rw [hlock]
    rcases hreserved hset with hold | hsome
    · exact hholds.2 hold
    · exact hsome
  · exact fun id action hdecides => absurd hdecides not_decides_opening
  · intro id action hdecides
    rw [hk] at hdecides
    exact absurd hdecides not_decides_opening

private theorem opening_insertBondLock {l : BondLock} {next : Except Fault Unit → Challenging Unit}
    {answer : Except Fault Unit} (h : ChallengeInv pool phase)
    (hi : pool.threads[i]? = some (request, .call (.funding (.insertBondLock l)) next))
    (hk : phase i = opening c reserved)
    (hanswer : Answered js pool.state (.funding (.insertBondLock l)) answer s) :
    ∃ k, ChallengeInv ⟨s, pool.threads.set i (request, next answer)⟩
      (Function.update phase i k) := by
  have hfollows := h.tracks i _ _ hi
  rw [hk] at hfollows
  obtain ⟨⟨hlid, hlocked⟩, hnext⟩ := hfollows
  obtain ⟨k', rfl, hfollows⟩ := hnext answer trivial
  have hbelongs := h.belongs i _ hi
  have hholds := h.holds i
  rw [hk] at hbelongs hholds
  have hfailed : ∀ e, answer = .error e → s = pool.state → ∃ k,
      ChallengeInv ⟨s, pool.threads.set i (request, next answer)⟩
        (Function.update phase i k) := by
    rintro e rfl rfl
    exact opening_quiet h hi hk hfollows rfl rfl Or.inl
  rcases hanswer with hserved | ⟨e, he, hs⟩
  swap
  · exact hfailed e he hs
  rcases fundingHandler_insertBondLock l pool.state.funding with ⟨e, hcall⟩ | ⟨hnone, hl, hcall⟩
  · obtain ⟨he, hs⟩ := Prod.mk.inj hserved
    refine hfailed e (he.trans (congrArg Prod.fst hcall)) (hs.trans ?_)
    rw [hcall]
    rfl
  · obtain ⟨hans, hs⟩ := Prod.mk.inj hserved
    replace hans : answer = .ok () := hans.trans (congrArg Prod.fst hcall)
    replace hs : s = pool.state.withFunding (pool.state.funding.putBondLock l hl) :=
      hs.trans (congrArg (fun r => pool.state.withFunding r.2) hcall)
    subst hans hs
    have hlock := lock_putBondLock pool.state hl hlid
    have hnone' : pool.state.lock c.challengeId = none := by
      rw [ChallengeStore.lock, ← hlid]
      exact hnone
    refine ⟨_, h.call hi hfollows hbelongs ⟨?_, ?_⟩ ?_ ?_ ⟨hholds.1, fun _ => ?_⟩ ?_ ?_⟩
    · exact fun id c₀ hc₀ => ⟨c₀, hc₀, rfl, fun _ => Or.inl rfl⟩
    · intro id l₀ hl₀
      have hne : id ≠ c.challengeId := by
        rintro rfl
        rw [hnone'] at hl₀
        contradiction
      exact ⟨l₀, by rw [hlock, if_neg hne, hl₀], Or.inl rfl⟩
    · intro id l' hl'
      rw [hlock] at hl'
      split_ifs at hl' with hid
      · obtain rfl := Option.some.inj hl'
        exact Or.inr hlocked
      · exact Or.inl (Option.isSome_iff_exists.mpr ⟨l', hl'⟩)
    · exact fun id c' hc' => Or.inl (Option.isSome_iff_exists.mpr ⟨c', hc'⟩)
    · rw [hlock, if_pos rfl]
      rfl
    · exact fun id action hdecides => absurd hdecides not_decides_opening
    · intro id action hdecides
      rw [hk] at hdecides
      exact absurd hdecides not_decides_opening

private theorem opening_insertChallenge {c' : DotCastResolutionChallenge}
    {next : Except Fault Unit → Challenging Unit} {answer : Except Fault Unit}
    (h : ChallengeInv pool phase)
    (hi : pool.threads[i]? = some (request, .call (.insertResolutionChallenge c') next))
    (hk : phase i = opening c reserved)
    (hanswer : Answered js pool.state (.insertResolutionChallenge c') answer s) :
    ∃ k, ChallengeInv ⟨s, pool.threads.set i (request, next answer)⟩
      (Function.update phase i k) := by
  have hfollows := h.tracks i _ _ hi
  have hholds := h.holds i
  rw [hk] at hfollows hholds
  obtain ⟨⟨rfl, hreserved⟩, hnext⟩ := hfollows
  obtain ⟨k', rfl, hfollows⟩ := hnext answer trivial
  have hnot : ∀ id action, finished.Decides id action → False :=
    fun id action hdecides => not_decides_finished hdecides
  have hkeep : ∀ id action, ¬(phase i).Decides id action := by
    intro id action hdecides
    rw [hk] at hdecides
    exact not_decides_opening hdecides
  have hsame : s = pool.state → ∃ k,
      ChallengeInv ⟨s, pool.threads.set i (request, next answer)⟩
        (Function.update phase i k) := by
    rintro rfl
    exact ⟨_, h.quiet hi hfollows trivial rfl rfl trivial
      (fun id action hdecides => (hnot id action hdecides).elim)
      fun id action hdecides => absurd hdecides (hkeep id action)⟩
  rcases hanswer with hserved | ⟨e, -, hs⟩
  swap
  · exact hsame hs
  obtain ⟨-, hs⟩ := Prod.mk.inj hserved
  by_cases hinsert : pool.state.challenges.get? c'.challengeId = none ∧ 0 ≤ c'.bondMinorUnits
  swap
  · refine hsame (hs.trans ?_)
    show pool.state.insertChallenge c' = _
    unfold ChallengeStore.insertChallenge
    rw [dif_neg hinsert]
  replace hs : s = pool.state.put c' hinsert.2 := by
    refine hs.trans ?_
    show pool.state.insertChallenge c' = _
    unfold ChallengeStore.insertChallenge
    rw [dif_pos hinsert]
  subst hs
  have hget : ∀ id, (pool.state.put c' hinsert.2).challenges.get? id =
      if id = c'.challengeId then some c' else pool.state.challenges.get? id :=
    fun id => Rows.get?_set _ _ _ _
  refine ⟨_, h.call hi hfollows trivial ⟨?_, ?_⟩ ?_ ?_ trivial
    (fun id action hdecides => (hnot id action hdecides).elim)
    fun id action hdecides => absurd hdecides (hkeep id action)⟩
  · intro id c₀ hc₀
    have hne : id ≠ c'.challengeId := by
      rintro rfl
      rw [hinsert.1] at hc₀
      contradiction
    exact ⟨c₀, by rw [hget, if_neg hne, hc₀], rfl, fun _ => Or.inl rfl⟩
  · exact fun id l hl => ⟨l, hl, Or.inl rfl⟩
  · exact fun id l' hl' => Or.inl (Option.isSome_iff_exists.mpr ⟨l', hl'⟩)
  · intro id c₀ hc₀
    rw [hget] at hc₀
    split_ifs at hc₀ with hid
    · obtain rfl := Option.some.inj hc₀
      exact Or.inr ⟨hholds.1, fun hbond => hid ▸ hholds.2 (hreserved hbond)⟩
    · exact Or.inl (Option.isSome_iff_exists.mpr ⟨c₀, hc₀⟩)

/-- What a call to the funding store leaves that writes no lock. -/
theorem answered_funding_quiet {fop : FundingOp} {answer : Except Fault fop.Ret}
    (hanswer : Answered js pool.state (.funding fop) answer s)
    (hlocks : (fundingHandler fop pool.state.funding).2.bondLocks = pool.state.funding.bondLocks) :
    s.challenges = pool.state.challenges ∧
      s.funding.bondLocks = pool.state.funding.bondLocks := by
  rcases hanswer with hserved | ⟨e, -, rfl⟩
  · obtain ⟨-, rfl⟩ := Prod.mk.inj hserved
    exact ⟨rfl, hlocks⟩
  · exact ⟨rfl, rfl⟩

/-- Every call of an opening keeps the invariant. -/
theorem opening_step (h : ChallengeInv pool phase)
    (hi : pool.threads[i]? = some (request, .call op next)) (hk : phase i = opening c reserved)
    (hanswer : Answered js pool.state op answer s) :
    ∃ k, ChallengeInv ⟨s, pool.threads.set i (request, next answer)⟩
      (Function.update phase i k) := by
  have hfollows := h.tracks i _ _ hi
  rw [hk] at hfollows
  obtain ⟨hmay, hnext⟩ := hfollows
  cases op with
  | funding fop =>
    obtain ⟨k', hleads, hfollows⟩ := hnext answer (by cases fop <;> exact trivial)
    cases fop with
    | getBalance userId =>
      obtain rfl := hleads
      obtain ⟨hrows, hlocks⟩ := answered_funding_quiet hanswer rfl
      exact opening_quiet h hi hk hfollows hrows hlocks Or.inl
    | saveBalance b =>
      obtain rfl := hleads
      obtain ⟨hrows, hlocks⟩ := answered_funding_quiet hanswer
        (fundingHandler_saveBalance_bondLocks b _)
      exact opening_quiet h hi hk hfollows hrows hlocks Or.inl
    | appendEvent e =>
      obtain rfl := hleads
      obtain ⟨hrows, hlocks⟩ := answered_funding_quiet hanswer rfl
      exact opening_quiet h hi hk hfollows hrows hlocks Or.inl
    | getBondLock lockId =>
      obtain rfl := hleads
      obtain ⟨hrows, hlocks⟩ := answered_funding_quiet hanswer rfl
      rcases answer with e | _ | l
      · exact opening_quiet h hi hk hfollows hrows hlocks Or.inl
      · exact opening_quiet h hi hk hfollows hrows hlocks Or.inl
      · refine opening_quiet h hi hk hfollows hrows hlocks fun _ => Or.inr ?_
        rcases hanswer with hserved | ⟨e, herror, -⟩
        · obtain ⟨hfound, -⟩ := Prod.mk.inj hserved
          obtain rfl : lockId = challengeLockId c.challengeId := hmay
          exact Option.isSome_iff_exists.mpr ⟨l, (Except.ok.inj hfound).symm⟩
        · contradiction
    | insertBondLock l => exact opening_insertBondLock h hi hk hanswer
    | getPoolFundingLock | insertPoolFundingLock | updatePoolFundingLock | updateBondLock
    | getTransfer | getTransferByTxRef | insertTransfer | updateTransfer =>
      exact False.elim hmay
  | insertResolutionChallenge c' => exact opening_insertChallenge h hi hk hanswer
  | getResolutionChallenge id => exact False.elim hmay
  | updateResolutionChallenge c' => exact False.elim hmay

end Opening

/-! ## Calls of a decision -/

theorem ChallengeInv.committed (h : ChallengeInv pool phase) {j : ℕ} {id : String}
    {action : BondAction} (hj : (phase j).Decides id action) :
    ∃ t, pool.threads[j]? = some t ∧ ChallengeThread.Committed t id action := by
  cases ht : pool.threads[j]? with
  | none =>
    rw [h.idle j (List.getElem?_eq_none_iff.mp ht)] at hj
    exact absurd hj not_decides_finished
  | some t =>
    exact ⟨t, rfl, committed_of_decides (h.tracks j t.1 t.2 ht) (h.belongs j t ht) hj⟩

private theorem challengeFromRow_eq_ok {row c : DotCastResolutionChallenge}
    (h : challengeFromRow js row = .ok c) : c.challengeId = row.challengeId ∧
      c.status = row.status ∧ c.bondMinorUnits = row.bondMinorUnits := by
  unfold challengeFromRow at h
  simp only [Except.bind_eq_ok, rowText_eq_ok, rowInteger_eq_ok, Except.pure_eq_ok,
    Except.ok.injEq] at h
  obtain ⟨_, ⟨-, rfl⟩, _, ⟨-, rfl⟩, _, ⟨-, rfl⟩, _, ⟨-, rfl⟩, _, ⟨-, rfl⟩, _, ⟨-, rfl⟩,
    _, ⟨-, rfl⟩, _, ⟨-, rfl⟩, rfl⟩ := h
  exact ⟨rfl, rfl, rfl⟩

section Deciding

variable {id : String} {asked : Option BondAction} {action : BondAction} {settled : Bool}

/-- A decision that goes on with an open challenge joins those that settle it the same way. -/
theorem reading_commits {next : Except Fault (Option DotCastResolutionChallenge) →
      Challenging Unit} {answer : Except Fault (Option DotCastResolutionChallenge)}
    {row : DotCastResolutionChallenge} (h : ChallengeInv pool phase)
    (hi : pool.threads[i]? = some (request, .call (.getResolutionChallenge id) next))
    (hk : phase i = reading id asked) (hasked : asked = some action)
    (hrow : pool.state.challenges.get? id = some row) (hopen : row.status = .open)
    (hbond : 0 < row.bondMinorUnits)
    (hfollows : (next answer).Follows challengeDiscipline MayEnd (deciding id action false))
    (hagrees : pool.Agrees (request, next answer)) :
    ChallengeInv ⟨pool.state, pool.threads.set i (request, next answer)⟩
      (Function.update phase i (deciding id action false)) := by
  have hbelongs := h.belongs i _ hi
  rw [hk] at hbelongs
  obtain ⟨r, hr, hid, rfl⟩ := hbelongs
  have hbelongs' : (deciding id action false).Matches request.2 := ⟨r, hr, hid, hasked⟩
  have hcommitted : ChallengeThread.Committed (request, next answer) id action :=
    committed_of_decides hfollows hbelongs' ⟨false, rfl⟩
  have hsame : ∀ j action', (phase j).Decides id action' → action = action' := by
    intro j action' hj
    obtain ⟨t, ht, ht'⟩ := h.committed hj
    exact hagrees id action row hcommitted hrow hbond t (List.mem_of_getElem? ht) action' ht'
  refine h.quiet hi hfollows hbelongs' rfl rfl ?_ ?_ ?_
  · obtain ⟨l, hl, hstate⟩ := h.bonded.bonded id row hrow hbond
    refine ⟨row, l, hrow, hbond, hl, ?_, by simp, Or.inl hopen⟩
    rcases hstate with ⟨-, hlocked | ⟨j, action', hj, hpending⟩⟩ | ⟨hclosed, -⟩
    · exact Or.inl hlocked
    · rw [← hsame j action' hj] at hpending
      exact Or.inr hpending
    · exact absurd hopen hclosed
  · rintro id' action' ⟨settled, heq⟩
    obtain ⟨rfl, rfl, -⟩ := ChallengePhase.deciding.inj heq
    exact Or.inr fun j action' _ => hsame j action'
  · intro id' action' hdecides
    rw [hk] at hdecides
    exact absurd hdecides not_decides_reading

theorem reading_step (h : ChallengeInv pool phase)
    (hi : pool.threads[i]? = some (request, .call op next)) (hk : phase i = reading id asked)
    (hanswer : Answered js pool.state op answer s)
    (hagrees : ∀ a, answer = .ok a → pool.Agrees (request, next answer)) :
    ∃ k, ChallengeInv ⟨s, pool.threads.set i (request, next answer)⟩
      (Function.update phase i k) := by
  have hfollows := h.tracks i _ _ hi
  have hbelongs := h.belongs i _ hi
  rw [hk] at hfollows hbelongs
  obtain ⟨hmay, hnext⟩ := hfollows
  have hnone : ∀ id' action', ¬(phase i).Decides id' action' := by
    intro id' action' hdecides
    rw [hk] at hdecides
    exact not_decides_reading hdecides
  cases op with
  | funding fop => exact False.elim (by cases fop <;> exact hmay)
  | insertResolutionChallenge c' => exact False.elim hmay
  | updateResolutionChallenge c' => exact False.elim hmay
  | getResolutionChallenge id' =>
    obtain rfl : id' = id := hmay
    have hstate : s = pool.state := by
      rcases hanswer with hserved | ⟨e, -, rfl⟩
      · exact (Prod.mk.inj hserved).2
      · rfl
    subst hstate
    have hended : ∀ k, (next answer).Follows challengeDiscipline MayEnd k → k = finished →
        ∃ k, ChallengeInv ⟨pool.state, pool.threads.set i (request, next answer)⟩
          (Function.update phase i k) := by
      rintro k hfollows rfl
      exact ⟨_, h.quiet hi hfollows trivial rfl rfl trivial
        (fun id action hdecides => absurd hdecides not_decides_finished)
        fun id action hdecides => absurd hdecides (hnone id action)⟩
    rcases answer with e | _ | c
    · obtain ⟨k, hleads, hfollows⟩ := hnext (.error e) trivial
      exact hended k hfollows hleads
    · obtain ⟨k, hleads, hfollows⟩ := hnext (.ok none) trivial
      exact hended k hfollows hleads
    · rcases hanswer with hserved | ⟨e, herror, -⟩
      swap
      · contradiction
      obtain ⟨hread, -⟩ := Prod.mk.inj hserved
      obtain ⟨row, hrow, hfrom⟩ := readRow_eq_ok_some.mp hread.symm
      obtain ⟨hid, hstatus, hbond⟩ := challengeFromRow_eq_ok hfrom
      have hkey : c.challengeId = id' := hid.trans (pool.state.challenges_ok _ _ hrow).1
      obtain ⟨k, hleads, hfollows⟩ := hnext (.ok (some c)) hkey
      rcases hleads with rfl | ⟨hopen, ⟨hpositive, action, hasked, rfl⟩ | ⟨hzero, rfl⟩⟩
      · exact hended _ hfollows rfl
      · exact ⟨_, reading_commits h hi hk hasked hrow (hstatus ▸ hopen) (hbond ▸ hpositive)
          hfollows (hagrees _ rfl)⟩
      · obtain ⟨r, hr, hid', -⟩ := hbelongs
        exact ⟨_, h.quiet hi hfollows ⟨r, hr, hid'⟩ rfl rfl ⟨row, hrow, hbond ▸ hzero⟩
          (fun id action hdecides => absurd hdecides not_decides_unbonded)
          fun id action hdecides => absurd hdecides (hnone id action)⟩

/-- A decision that fails leaves no settled bond behind. -/
theorem deciding_fails (h : ChallengeInv pool phase)
    (hi : pool.threads[i]? = some (request, .call op next))
    (hfollows : (next answer).Follows challengeDiscipline MayEnd finished)
    (hrows : s.challenges = pool.state.challenges)
    (hlocks : s.funding.bondLocks = pool.state.funding.bondLocks)
    (hmayFail : pool.MayFail i (request, .call op next)) :
    ∃ k, ChallengeInv ⟨s, pool.threads.set i (request, next answer)⟩
      (Function.update phase i k) := by
  refine ⟨_, h.quiet hi hfollows trivial hrows hlocks trivial
    (fun id action hdecides => absurd hdecides not_decides_finished) ?_⟩
  intro id' action' hdecides
  refine Or.inr fun c l hc hbond hopen hl => ?_
  have hcommitted : ChallengeThread.Committed (request, .call op next) id' action' :=
    committed_of_decides (h.tracks i _ _ hi) (h.belongs i _ hi) hdecides
  rcases hmayFail id' action' c l hcommitted hc hbond hopen hl with
    hlocked | ⟨j, t, action'', hji, ht, ht'⟩
  · exact Or.inl hlocked
  · exact Or.inr ⟨j, action'', hji, decides_of_committed (h.tracks j t.1 t.2 ht)
      (h.belongs j t ht) (h.holds j) hc hbond ht'⟩

/-- A decision goes on after a call that touches neither rows nor locks. -/
theorem deciding_quiet (h : ChallengeInv pool phase)
    (hi : pool.threads[i]? = some (request, .call op next))
    (hk : phase i = deciding id action settled) {settled' : Bool}
    (hfollows : (next answer).Follows challengeDiscipline MayEnd (deciding id action settled'))
    (hrows : s.challenges = pool.state.challenges)
    (hlocks : s.funding.bondLocks = pool.state.funding.bondLocks)
    (hsettled : settled' = true → settled = true ∨
      ∃ l, pool.state.lock id = some l ∧ l.status ≠ .locked) :
    ∃ k, ChallengeInv ⟨s, pool.threads.set i (request, next answer)⟩
      (Function.update phase i k) := by
  have hbelongs := h.belongs i _ hi
  have hholds := h.holds i
  rw [hk] at hbelongs hholds
  obtain ⟨c, l, hc, hbond, hl, hlock, hset, hstatus⟩ := hholds
  refine ⟨_, h.quiet hi hfollows hbelongs hrows hlocks ?_ ?_ ?_⟩
  · refine ⟨c, l, by rw [hrows, hc], hbond, ?_, hlock, fun hset' => ?_, hstatus⟩
    · rw [ChallengeStore.lock, hlocks]
      exact hl
    · rcases hsettled hset' with hold | ⟨l', hl', hfinal⟩
      · exact hset hold
      · obtain rfl := Option.some.inj (hl'.symm.trans hl)
        exact hlock.resolve_left hfinal
  · rintro id' action' ⟨settled'', heq⟩
    obtain ⟨rfl, rfl, -⟩ := ChallengePhase.deciding.inj heq
    exact Or.inl ⟨settled, hk⟩
  · intro id' action' hdecides
    rw [hk] at hdecides
    obtain ⟨settled'', heq⟩ := hdecides
    obtain ⟨rfl, rfl, -⟩ := ChallengePhase.deciding.inj heq
    exact Or.inl ⟨settled', rfl⟩

private theorem deciding_updateBondLock {l : BondLock} {next : Except Fault Unit → Challenging Unit}
    {answer : Except Fault Unit} (h : ChallengeInv pool phase)
    (hi : pool.threads[i]? = some (request, .call (.funding (.updateBondLock l)) next))
    (hk : phase i = deciding id action settled)
    (hanswer : Answered js pool.state (.funding (.updateBondLock l)) answer s)
    (hmayFail : ∀ e, answer = .error e →
      pool.MayFail i (request, .call (.funding (.updateBondLock l)) next)) :
    ∃ k, ChallengeInv ⟨s, pool.threads.set i (request, next answer)⟩
      (Function.update phase i k) := by
  have hfollows := h.tracks i _ _ hi
  have hbelongs := h.belongs i _ hi
  have hholds := h.holds i
  rw [hk] at hfollows hbelongs hholds
  obtain ⟨⟨hlid, hlstatus⟩, hnext⟩ := hfollows
  obtain ⟨c, row, hc, hbond, hrow, -, -, hstatus⟩ := hholds
  have hfailed : ∀ e, answer = .error e → s = pool.state → ∃ k,
      ChallengeInv ⟨s, pool.threads.set i (request, next answer)⟩
        (Function.update phase i k) := by
    rintro e rfl rfl
    obtain ⟨k, rfl, hfollows⟩ := hnext (.error e) trivial
    exact deciding_fails h hi hfollows rfl rfl (hmayFail e rfl)
  rcases hanswer with hserved | ⟨e, he, hs⟩
  swap
  · exact hfailed e he hs
  have hstored : pool.state.funding.bondLocks.lookup l.lockId = some row := by
    rw [hlid]
    exact hrow
  rcases fundingHandler_updateBondLock hstored with ⟨e, hcall⟩ | ⟨hl, hcall⟩
  · obtain ⟨he, hs⟩ := Prod.mk.inj hserved
    refine hfailed e (he.trans (congrArg Prod.fst hcall)) (hs.trans ?_)
    rw [hcall]
    rfl
  obtain ⟨hans, hs⟩ := Prod.mk.inj hserved
  replace hans : answer = .ok () := hans.trans (congrArg Prod.fst hcall)
  replace hs : s = pool.state.withFunding
      (pool.state.funding.putBondLock (updatedBondLock row l) hl) :=
    hs.trans (congrArg (fun r => pool.state.withFunding r.2) hcall)
  subst hans hs
  obtain ⟨k, rfl, hfollows⟩ := hnext (.ok ()) trivial
  have hrowId : (updatedBondLock row l).lockId = challengeLockId id :=
    (pool.state.funding.bondLocks_ok _ _ hrow).1
  have hlock := lock_putBondLock pool.state hl hrowId
  have hdecides : (phase i).Decides id action := ⟨settled, hk⟩
  refine ⟨_, h.call hi hfollows hbelongs ⟨?_, ?_⟩ ?_ ?_ ?_ ?_ ?_⟩
  · exact fun id c₀ hc₀ => ⟨c₀, hc₀, rfl, fun _ => Or.inl rfl⟩
  · intro id' l₀ hl₀
    by_cases hid : id' = id
    · exact ⟨updatedBondLock row l, by rw [hlock, if_pos hid],
        Or.inr ⟨action, hid ▸ hdecides, hlstatus⟩⟩
    · exact ⟨l₀, by rw [hlock, if_neg hid, hl₀], Or.inl rfl⟩
  · intro id' l' hl'
    rw [hlock] at hl'
    split_ifs at hl' with hid
    · rw [hid, hrow]
      exact Or.inl rfl
    · exact Or.inl (Option.isSome_iff_exists.mpr ⟨l', hl'⟩)
  · exact fun id' c' hc' => Or.inl (Option.isSome_iff_exists.mpr ⟨c', hc'⟩)
  · exact ⟨c, updatedBondLock row l, hc, hbond, by rw [hlock, if_pos rfl], Or.inr hlstatus,
      fun _ => hlstatus, hstatus⟩
  · rintro id' action' ⟨settled', heq⟩
    obtain ⟨rfl, rfl, -⟩ := ChallengePhase.deciding.inj heq
    exact Or.inl hdecides
  · intro id' action' hdecides'
    rw [hk] at hdecides'
    obtain ⟨settled', heq⟩ := hdecides'
    obtain ⟨rfl, rfl, -⟩ := ChallengePhase.deciding.inj heq
    exact Or.inl ⟨true, rfl⟩

private theorem get?_updateChallenge {s : ChallengeStore} {c c₀ : DotCastResolutionChallenge}
    (hc : s.challenges.get? c.challengeId = some c₀) (id : String) :
    (s.updateChallenge c).challenges.get? id =
      if id = c.challengeId then some (ChallengeStore.decided c₀ c) else s.challenges.get? id := by
  unfold ChallengeStore.updateChallenge
  split
  · rename_i hnone
    rw [hnone] at hc
    contradiction
  · rename_i row hrow
    obtain rfl := Option.some.inj (hrow.symm.trans hc)
    have hkey : (ChallengeStore.decided row c).challengeId = c.challengeId :=
      (s.challenges_ok _ _ hrow).1
    show (s.challenges.set (ChallengeStore.decided row c).challengeId _).get? id = _
    rw [Rows.get?_set, hkey]

private theorem lock_updateChallenge (s : ChallengeStore) (c : DotCastResolutionChallenge)
    (id : String) :
    (s.updateChallenge c).lock id = s.lock id := by
  unfold ChallengeStore.updateChallenge
  split <;> rfl

/-- Writing a decision of a challenge without a bond, or with one that is settled its way. -/
theorem update_step {c c₀ : DotCastResolutionChallenge}
    {next : Except Fault Unit → Challenging Unit} {answer : Except Fault Unit}
    (h : ChallengeInv pool phase)
    (hi : pool.threads[i]? = some (request, .call (.updateResolutionChallenge c) next))
    (hfollows : (next answer).Follows challengeDiscipline MayEnd finished)
    (hc : pool.state.challenges.get? c.challengeId = some c₀)
    (hsettled : 0 < c₀.bondMinorUnits → ∃ action, (phase i).Decides c.challengeId action ∧
      c.status.bondStatus = some action.status ∧
        ∀ l, pool.state.lock c.challengeId = some l → l.status = action.status)
    (hdecided : ∀ id action, (phase i).Decides id action → id = c.challengeId ∧ c.status ≠ .open) :
    ∃ k, ChallengeInv ⟨pool.state.updateChallenge c, pool.threads.set i (request, next answer)⟩
      (Function.update phase i k) := by
  have hget := get?_updateChallenge hc
  have hlock := lock_updateChallenge pool.state c
  refine ⟨_, h.call hi hfollows trivial ⟨?_, ?_⟩ ?_ ?_ trivial
    (fun id action hdecides => absurd hdecides not_decides_finished) ?_⟩
  · intro id c₁ hc₁
    by_cases hid : id = c.challengeId
    · rw [hid] at hc₁ ⊢
      obtain rfl := Option.some.inj (hc₁.symm.trans hc)
      exact ⟨ChallengeStore.decided c₁ c, by rw [hget, if_pos rfl], rfl,
        fun hbond => Or.inr (hsettled hbond)⟩
    · exact ⟨c₁, by rw [hget, if_neg hid, hc₁], rfl, fun _ => Or.inl rfl⟩
  · exact fun id l hl => ⟨l, by rw [hlock, hl], Or.inl rfl⟩
  · intro id l' hl'
    rw [hlock] at hl'
    exact Or.inl (Option.isSome_iff_exists.mpr ⟨l', hl'⟩)
  · intro id c' hc'
    rw [hget] at hc'
    split_ifs at hc' with hid
    · rw [hid, hc]
      exact Or.inl rfl
    · exact Or.inl (Option.isSome_iff_exists.mpr ⟨c', hc'⟩)
  · intro id action hdecides
    obtain ⟨rfl, hstatus⟩ := hdecided id action hdecides
    refine Or.inr fun c' l hc' _ hopen _ => ?_
    rw [hget, if_pos rfl] at hc'
    obtain rfl := Option.some.inj hc'
    exact absurd hopen hstatus

/-- A call of a decision that writes no lock either fails or tells at most that the bond is
settled. -/
theorem deciding_funding_quiet {fop : FundingOp} {next : Except Fault fop.Ret → Challenging Unit}
    {answer : Except Fault fop.Ret} (h : ChallengeInv pool phase)
    (hi : pool.threads[i]? = some (request, .call (.funding fop) next))
    (hk : phase i = deciding id action settled)
    (hanswer : Answered js pool.state (.funding fop) answer s)
    (hlocks : (fundingHandler fop pool.state.funding).2.bondLocks = pool.state.funding.bondLocks)
    (hmayFail : ∀ e, answer = .error e → pool.MayFail i (request, .call (.funding fop) next))
    (herror : ∀ e, answer = .error e →
      (next answer).Follows challengeDiscipline MayEnd finished)
    (hok : ∀ a, answer = .ok a → ∃ settled', (settled' = true → settled = true ∨
        ∃ l, pool.state.lock id = some l ∧ l.status ≠ .locked) ∧
      (next answer).Follows challengeDiscipline MayEnd (deciding id action settled')) :
    ∃ k, ChallengeInv ⟨s, pool.threads.set i (request, next answer)⟩
      (Function.update phase i k) := by
  obtain ⟨hrows, hlocks⟩ := answered_funding_quiet hanswer hlocks
  rcases hresult : answer with e | a
  · rw [hresult] at herror hmayFail
    exact deciding_fails h hi (herror e rfl) hrows hlocks (hmayFail e rfl)
  · rw [hresult] at hok
    obtain ⟨settled', hsettled, hfollows⟩ := hok a rfl
    exact deciding_quiet h hi hk hfollows hrows hlocks hsettled

/-- Writing a decision, or failing to. -/
theorem answered_update {c : DotCastResolutionChallenge} {answer : Except Fault Unit}
    (hanswer : Answered js pool.state (.updateResolutionChallenge c) answer s) :
    s = pool.state.updateChallenge c ∨ ∃ e, answer = .error e ∧ s = pool.state := by
  rcases hanswer with hserved | hfailed
  · exact Or.inl (Prod.mk.inj hserved).2
  · exact Or.inr hfailed

/-- Every call of a decision that goes on keeps the invariant. -/
theorem deciding_step (h : ChallengeInv pool phase)
    (hi : pool.threads[i]? = some (request, .call op next))
    (hk : phase i = deciding id action settled) (hanswer : Answered js pool.state op answer s)
    (hmayFail : ∀ e, answer = .error e → pool.MayFail i (request, .call op next)) :
    ∃ k, ChallengeInv ⟨s, pool.threads.set i (request, next answer)⟩
      (Function.update phase i k) := by
  have hfollows := h.tracks i _ _ hi
  have hholds := h.holds i
  rw [hk] at hfollows hholds
  obtain ⟨hmay, hnext⟩ := hfollows
  obtain ⟨c₀, row, hc₀, hbond, hrow, hlock, hsettled, hstatus⟩ := hholds
  cases op with
  | funding fop =>
    cases fop with
    | getBalance userId =>
      apply deciding_funding_quiet h hi hk hanswer rfl hmayFail
      · rintro e rfl
        obtain ⟨k, rfl, hfollows⟩ := hnext (.error e) trivial
        exact hfollows
      · rintro a rfl
        obtain ⟨k, rfl, hfollows⟩ := hnext (.ok a) trivial
        exact ⟨settled, Or.inl, hfollows⟩
    | saveBalance b =>
      apply deciding_funding_quiet h hi hk hanswer (fundingHandler_saveBalance_bondLocks b _)
        hmayFail
      · rintro e rfl
        obtain ⟨k, rfl, hfollows⟩ := hnext (.error e) trivial
        exact hfollows
      · rintro a rfl
        obtain ⟨k, rfl, hfollows⟩ := hnext (.ok a) trivial
        exact ⟨settled, Or.inl, hfollows⟩
    | appendEvent e =>
      apply deciding_funding_quiet h hi hk hanswer rfl hmayFail
      · rintro e rfl
        obtain ⟨k, rfl, hfollows⟩ := hnext (.error e) trivial
        exact hfollows
      · rintro a rfl
        obtain ⟨k, rfl, hfollows⟩ := hnext (.ok a) trivial
        exact ⟨settled, Or.inl, hfollows⟩
    | getBondLock lockId =>
      obtain rfl : lockId = challengeLockId id := hmay
      apply deciding_funding_quiet h hi hk hanswer rfl hmayFail
      · rintro e rfl
        obtain ⟨k, rfl, hfollows⟩ := hnext (.error e) trivial
        exact hfollows
      · rintro found rfl
        rcases hanswer with hserved | ⟨e, herror, -⟩
        swap
        · contradiction
        obtain rfl : found = some row := (Except.ok.inj (Prod.mk.inj hserved).1).trans hrow
        have hkey : row.lockId = challengeLockId id :=
          (pool.state.funding.bondLocks_ok _ _ hrow).1
        obtain ⟨k, rfl, hfollows⟩ := hnext (.ok (some row)) hkey
        refine ⟨_, fun hset => ?_, hfollows⟩
        rcases Bool.or_eq_true_iff.mp hset with hold | hfinal
        · exact Or.inl hold
        · exact Or.inr ⟨row, hrow, bne_iff_ne.mp hfinal⟩
    | updateBondLock l => exact deciding_updateBondLock h hi hk hanswer hmayFail
    | getPoolFundingLock | insertPoolFundingLock | updatePoolFundingLock | insertBondLock
    | getTransfer | getTransferByTxRef | insertTransfer | updateTransfer =>
      exact False.elim hmay
  | insertResolutionChallenge c' => exact False.elim hmay
  | getResolutionChallenge id' => exact False.elim hmay
  | updateResolutionChallenge c =>
    obtain ⟨rfl, hset, hopen, hwithdrawn, haction⟩ := hmay
    obtain ⟨k, rfl, hfollows⟩ := hnext answer trivial
    rcases answered_update hanswer with rfl | ⟨e, he, rfl⟩
    swap
    · exact deciding_fails h hi hfollows rfl rfl (hmayFail e he)
    apply update_step h hi hfollows hc₀
    · intro _
      refine ⟨action, ⟨settled, hk⟩, bondStatus_of_bondAction hopen hwithdrawn haction, ?_⟩
      intro l hl
      obtain rfl := Option.some.inj (hl.symm.trans hrow)
      exact hsettled hset
    · rintro id' action' ⟨settled', heq⟩
      rw [hk] at heq
      obtain ⟨rfl, -, -⟩ := ChallengePhase.deciding.inj heq
      exact ⟨rfl, hopen⟩

/-- Every call of a decision without a bond keeps the invariant. -/
theorem unbonded_step (h : ChallengeInv pool phase)
    (hi : pool.threads[i]? = some (request, .call op next)) (hk : phase i = unbonded id)
    (hanswer : Answered js pool.state op answer s) :
    ∃ k, ChallengeInv ⟨s, pool.threads.set i (request, next answer)⟩
      (Function.update phase i k) := by
  have hfollows := h.tracks i _ _ hi
  have hholds := h.holds i
  rw [hk] at hfollows hholds
  obtain ⟨hmay, hnext⟩ := hfollows
  obtain ⟨c₀, hc₀, hbond⟩ := hholds
  have hnone : ∀ id' action', ¬(phase i).Decides id' action' := by
    intro id' action' hdecides
    rw [hk] at hdecides
    exact not_decides_unbonded hdecides
  cases op with
  | funding fop => exact False.elim (by cases fop <;> exact hmay)
  | insertResolutionChallenge c' => exact False.elim hmay
  | getResolutionChallenge id' => exact False.elim hmay
  | updateResolutionChallenge c =>
    obtain rfl : c.challengeId = id := hmay
    obtain ⟨k, rfl, hfollows⟩ := hnext answer trivial
    rcases answered_update hanswer with rfl | ⟨e, he, rfl⟩
    · exact update_step h hi hfollows hc₀ (fun hpositive => absurd hpositive hbond)
        fun id' action' hdecides => absurd hdecides (hnone id' action')
    · exact ⟨_, h.quiet hi hfollows trivial rfl rfl trivial
        (fun id' action' hdecides => absurd hdecides not_decides_finished)
        fun id' action' hdecides => absurd hdecides (hnone id' action')⟩

end Deciding

end Yevow.DotCast
