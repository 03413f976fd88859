import Yevow.Models.DotCast.Resolution.PanelProgress

/-!
# What a settled panel pays

In exact arithmetic the weight of an outcome is a sum over the assignments that revealed it.
The consensus is a heaviest outcome, so at least one assignment is correct; every bond is
returned or slashed, and the fee pool is split evenly with a remainder below the number of
correct assignments. Nothing depends on the order in which assignments and reveals are read.
-/

namespace Yevow.DotCast

open JavaScript (Runtime)

variable (js : Runtime)

/-! ## Reveals -/

/-- Of reveals for different assignments each one counts. -/
theorem revealOf_eq_some_iff {reveals : List ResolverReveal}
    (hreveals : (reveals.map (·.assignmentId)).Nodup) {assignmentId : String} {r : ResolverReveal} :
    revealOf reveals assignmentId = some r ↔ r ∈ reveals ∧ r.assignmentId = assignmentId := by
  constructor
  · exact revealOf_eq_some
  · rintro ⟨hmem, rfl⟩
    have hsome : (revealOf reveals r.assignmentId).isSome := by
      rw [revealOf, List.find?_isSome]
      exact ⟨r, List.mem_reverse.mpr hmem, decide_eq_true rfl⟩
    obtain ⟨r', hr'⟩ := Option.isSome_iff_exists.mp hsome
    obtain ⟨hmem', hid⟩ := revealOf_eq_some hr'
    rw [hr', List.inj_on_of_nodup_map hreveals hmem' hmem hid]

private theorem revealOf_perm {reveals reveals' : List ResolverReveal}
    (hreveals : (reveals.map (·.assignmentId)).Nodup) (hperm : reveals'.Perm reveals) :
    revealOf reveals' = revealOf reveals := by
  have hreveals' : (reveals'.map (·.assignmentId)).Nodup :=
    (hperm.map _).nodup_iff.mpr hreveals
  ext assignmentId r
  rw [revealOf_eq_some_iff hreveals', revealOf_eq_some_iff hreveals, hperm.mem_iff]

/-! ## Weights -/

/-- The reputation behind an outcome, at least one for each of its reveals. -/
def outcomeWeight (reveals : List ResolverReveal) (assignments : List ResolverAssignment)
    (outcome : PoolOutcome) : ℤ :=
  ((correctAssignments reveals outcome assignments).map fun a => max 1 a.reputationBps).sum

private theorem outcomeWeight_nonneg (reveals : List ResolverReveal)
    (assignments : List ResolverAssignment)
    (outcome : PoolOutcome) : 0 ≤ outcomeWeight reveals assignments outcome := by
  apply List.sum_nonneg
  intro weight hweight
  obtain ⟨a, -, rfl⟩ := List.mem_map.mp hweight
  omega

/-- A correct assignment carries weight. -/
theorem outcomeWeight_pos {reveals : List ResolverReveal} {assignments : List ResolverAssignment}
    {outcome : PoolOutcome} :
    0 < outcomeWeight reveals assignments outcome ↔
      correctAssignments reveals outcome assignments ≠ [] := by
  unfold outcomeWeight
  cases correctAssignments reveals outcome assignments with
  | nil => simp
  | cons a rest =>
    have hrest : 0 ≤ (rest.map fun a => max 1 a.reputationBps).sum := by
      apply List.sum_nonneg
      intro weight hweight
      obtain ⟨b, -, rfl⟩ := List.mem_map.mp hweight
      omega
    simp only [List.map_cons, List.sum_cons, ne_eq, reduceCtorEq, not_false_eq_true, iff_true]
    omega

private theorem outcomeWeight_perm {reveals reveals' : List ResolverReveal}
    {assignments assignments' : List ResolverAssignment}
    (hreveals : revealOf reveals' = revealOf reveals) (hperm : assignments'.Perm assignments)
    (outcome : PoolOutcome) :
    outcomeWeight reveals' assignments' outcome = outcomeWeight reveals assignments outcome := by
  unfold outcomeWeight correctAssignments
  rw [hreveals]
  exact ((hperm.filter _).map _).sum_eq

private theorem OutcomeWeights.get_add (w : OutcomeWeights) (revealed outcome : PoolOutcome)
    (weight : ℤ) :
    (w.add (js.withArithmetic .exact) revealed weight).get outcome =
      w.get outcome + if revealed = outcome then weight else 0 := by
  rcases revealed with ⟨_ | _⟩ | _ <;> rcases outcome with ⟨_ | _⟩ | _ <;>
    simp [add, get, Runtime.withArithmetic, Arithmetic.exact]

/-- Each assignment adds the reputation behind its reveal to the weight of the outcome. -/
private theorem get_foldl_reveals (reveals : List ResolverReveal)
    (assignments : List ResolverAssignment) (outcome : PoolOutcome) (w : OutcomeWeights) :
    (assignments.foldl (fun weights assignment =>
      match revealOf reveals assignment.assignmentId with
      | some reveal => weights.add (js.withArithmetic .exact) reveal.outcome
          (max 1 assignment.reputationBps)
      | none => weights) w).get outcome =
      w.get outcome + outcomeWeight reveals assignments outcome := by
  induction assignments generalizing w with
  | nil => simp [outcomeWeight, correctAssignments]
  | cons a rest ih =>
    rw [List.foldl_cons, ih]
    unfold outcomeWeight correctAssignments
    cases hreveal : revealOf reveals a.assignmentId with
    | none => rw [List.filter_cons_of_neg (by simp [hreveal])]
    | some reveal =>
      simp only [OutcomeWeights.get_add]
      by_cases houtcome : reveal.outcome = outcome
      · rw [if_pos houtcome, List.filter_cons_of_pos (by simp [hreveal, houtcome]), List.map_cons,
          List.sum_cons, Int.add_assoc]
      · rw [if_neg houtcome, List.filter_cons_of_neg (by simp [hreveal, houtcome]), Int.add_zero]

/-- The weights of a settlement are the reputations behind the outcomes. -/
theorem get_revealWeights (reveals : List ResolverReveal) (assignments : List ResolverAssignment)
    (outcome : PoolOutcome) :
    (revealWeights (js.withArithmetic .exact) reveals assignments).get outcome =
      outcomeWeight reveals assignments outcome := by
  have hzero : (⟨0, 0, 0⟩ : OutcomeWeights).get outcome = 0 := by
    rcases outcome with ⟨_ | _⟩ | _ <;> rfl
  have hweights := @get_foldl_reveals js reveals assignments outcome ⟨0, 0, 0⟩
  rw [hzero, Int.zero_add] at hweights
  exact hweights

private theorem OutcomeWeights.ext_get {w w' : OutcomeWeights}
    (h : ∀ outcome, w.get outcome = w'.get outcome) : w = w' := by
  obtain ⟨yes, no, invalid⟩ := w
  obtain ⟨yes', no', invalid'⟩ := w'
  obtain rfl : yes = yes' := h (.side .yes)
  obtain rfl : no = no' := h (.side .no)
  obtain rfl : invalid = invalid' := h .invalid
  rfl

/-! ## The consensus -/

private theorem respects_compareWeights :
    Sorting.Respects (compareWeights (js.withArithmetic .exact)) fun a b => b.2 ≤ a.2 where
  of_le a b hab := by
    simp only [compareWeights, Runtime.withArithmetic, Arithmetic.exact] at hab
    split_ifs at hab <;> omega
  of_pos a b hab := by
    simp only [compareWeights, Runtime.withArithmetic, Arithmetic.exact] at hab
    split_ifs at hab <;> omega
  trans a b c hab hbc := hbc.trans hab

/-- No outcome is heavier than the consensus. -/
theorem get_le_get_consensusOutcome (weights : OutcomeWeights) (outcome : PoolOutcome) :
    weights.get outcome ≤ weights.get (consensusOutcome (js.withArithmetic .exact) weights) := by
  have hsorted := Sorting.pairwise_sortBy (respects_compareWeights js) weights.entries
  have hperm := Sorting.perm_sortBy (compareWeights (js.withArithmetic .exact)) weights.entries
  have hentry : ∀ entry ∈ weights.entries, entry.2 = weights.get entry.1 := by
    simp [OutcomeWeights.entries, OutcomeWeights.get]
  have hmem : (outcome, weights.get outcome) ∈ weights.entries := by
    rcases outcome with ⟨_ | _⟩ | _ <;> simp [OutcomeWeights.entries, OutcomeWeights.get]
  unfold consensusOutcome
  cases hlist : Sorting.sortBy (compareWeights (js.withArithmetic .exact)) weights.entries with
  | nil =>
    rw [hlist] at hperm
    exact absurd (hperm.mem_iff.mpr hmem) List.not_mem_nil
  | cons first rest =>
    rw [hlist] at hsorted hperm
    rw [List.head?_cons, Option.map_some, Option.getD_some,
      ← hentry first (hperm.mem_iff.mp List.mem_cons_self)]
    rcases List.mem_cons.mp (hperm.mem_iff.mpr hmem) with hfirst | hrest
    · rw [← hfirst]
    · exact (List.pairwise_cons.mp hsorted).1 _ hrest

/-! ## Fees -/

private theorem floorQuotient_exact (n : ℤ) (d : ℕ) :
    floorQuotient (js.withArithmetic .exact) n d = n / d := by
  have hdiv := Rat.floor_intCast_div_natCast n d
  simpa [floorQuotient, Runtime.withArithmetic, Arithmetic.exact] using hdiv

/-- Equal shares of a pool leave less than one unit for each of them. -/
theorem sum_shares {shares : ℕ} (hshares : 0 < shares) (pool : ℤ) :
    shares * (pool / shares) ≤ pool ∧ pool - shares * (pool / shares) < shares := by
  have hpos : (0 : ℤ) < shares := by omega
  have hdiv := Int.mul_ediv_add_emod pool shares
  have hrest := Int.emod_nonneg pool hpos.ne'
  have hlt := Int.emod_lt_of_pos pool hpos
  constructor <;> omega

/-- The part of the stake that goes to the resolvers. -/
def ResolverPanelRow.feePool (panel : ResolverPanelRow) : ℤ :=
  panel.estimatedStakeMinorUnits * panel.resolverFeeBps / 10000

/-- The fee of one of the assignments that matched the consensus. -/
def ResolverPanelRow.feePerCorrect (panel : ResolverPanelRow) (correct : ℕ) : ℤ :=
  if panel.resolverFeeBps > 0 ∧ 0 < correct then panel.feePool / correct else 0

/-- A payout returns a bond or slashes it. -/
theorem settledPayout_bonds (a : ResolverAssignment) (matched : Bool) (fee : ℤ) (now : String) :
    (settledPayout a matched fee now).bondReturnedMinorUnits +
        (settledPayout a matched fee now).slashedBondMinorUnits = a.bondMinorUnits ∧
      (0 < a.bondMinorUnits →
        Xor ((settledPayout a matched fee now).bondReturnedMinorUnits ≠ 0)
          ((settledPayout a matched fee now).slashedBondMinorUnits ≠ 0)) := by
  cases matched with
  | true => exact ⟨add_zero _, fun hbond => Or.inl ⟨hbond.ne', fun hslashed => hslashed rfl⟩⟩
  | false => exact ⟨zero_add _, fun hbond => Or.inr ⟨hbond.ne', fun hreturned => hreturned rfl⟩⟩

private theorem correctAssignments_eq (reveals : List ResolverReveal) (outcome : PoolOutcome)
    (assignments : List ResolverAssignment) :
    correctAssignments reveals outcome assignments = assignments.filter fun a =>
      (revealOf reveals a.assignmentId).map (·.outcome) == some outcome := by
  unfold correctAssignments
  simp only [beq_eq_decide]

private theorem sum_feePaid (p : ResolverAssignment → Bool) (fee : ℤ) (now : String)
    (assignments : List ResolverAssignment) :
    ((assignments.map fun a => settledPayout a (p a) fee now).map (·.feePaidMinorUnits)).sum =
      (assignments.filter p).length * fee := by
  induction assignments with
  | nil => simp
  | cons a rest ih =>
    rw [List.map_cons, List.map_cons, List.sum_cons, ih]
    cases hp : p a with
    | true =>
      rw [List.filter_cons_of_pos hp, List.length_cons]
      push_cast
      simp only [settledPayout, if_true]
      ring
    | false =>
      rw [List.filter_cons_of_neg (by simp [hp])]
      simp [settledPayout]

/-! ## Settlement -/

/-- What a settlement owes a panel. -/
structure PanelSettlement.Lawful (settlement : PanelSettlement) (panel : ResolverPanel)
    (reveals : List ResolverReveal) : Prop where
  /-- No outcome is heavier than the consensus. -/
  heaviest : ∀ outcome, outcomeWeight reveals panel.assignments outcome ≤
    outcomeWeight reveals panel.assignments settlement.consensusOutcome
  weighed : settlement.consensusWeight =
    outcomeWeight reveals panel.assignments settlement.consensusOutcome
  /-- Every assignment has one payout, and there is no other one. -/
  paidOnce : ∀ a ∈ panel.assignments,
    ∃! payout, payout ∈ settlement.payouts ∧ payout.assignmentId = a.assignmentId
  paidOnly : settlement.payouts.map (·.assignmentId) = panel.assignments.map (·.assignmentId)
  /-- A bond is returned or slashed as a whole. -/
  bonds : ∀ payout ∈ settlement.payouts, ∀ a ∈ panel.assignments,
    payout.assignmentId = a.assignmentId →
      payout.bondReturnedMinorUnits + payout.slashedBondMinorUnits = a.bondMinorUnits ∧
        (0 < a.bondMinorUnits →
          Xor (payout.bondReturnedMinorUnits ≠ 0) (payout.slashedBondMinorUnits ≠ 0))
  fees_le : (settlement.payouts.map (·.feePaidMinorUnits)).sum ≤ panel.feePool
  fees_short : 0 < panel.resolverFeeBps →
    panel.feePool - (settlement.payouts.map (·.feePaidMinorUnits)).sum <
      (correctAssignments reveals settlement.consensusOutcome panel.assignments).length

/-- The settlement of a panel, written with the reputations behind the outcomes. -/
def exactSettlement (panel : ResolverPanel) (reveals : List ResolverReveal) (now : String) :
    PanelSettlement :=
  let consensus := consensusOutcome (js.withArithmetic .exact)
    (revealWeights (js.withArithmetic .exact) reveals panel.assignments)
  { consensusOutcome := consensus
    totalWeight := outcomeWeight reveals panel.assignments (.side .yes) +
      outcomeWeight reveals panel.assignments (.side .no) +
      outcomeWeight reveals panel.assignments .invalid
    consensusWeight := outcomeWeight reveals panel.assignments consensus
    payouts := panel.assignments.map fun a => settledPayout a
      ((revealOf reveals a.assignmentId).map (·.outcome) == some consensus)
      (panel.feePerCorrect (correctAssignments reveals consensus panel.assignments).length) now }

/-- Someone on the panel has revealed. -/
def ResolverPanel.Revealed (panel : ResolverPanel) (reveals : List ResolverReveal) : Prop :=
  ∃ r ∈ reveals, ∃ a ∈ panel.assignments, r.assignmentId = a.assignmentId

instance (panel : ResolverPanel) (reveals : List ResolverReveal) :
    Decidable (panel.Revealed reveals) :=
  inferInstanceAs (Decidable (∃ r ∈ reveals, ∃ a ∈ panel.assignments, _))

variable {panel : ResolverPanel} {reveals : List ResolverReveal}

/-- Some assignment of a panel with reveals matches the consensus. -/
theorem consensus_pos (hsome : panel.Revealed reveals) :
    0 < outcomeWeight reveals panel.assignments (consensusOutcome (js.withArithmetic .exact)
      (revealWeights (js.withArithmetic .exact) reveals panel.assignments)) := by
  obtain ⟨r, hr, a, ha, hid⟩ := hsome
  have hrevealed : (revealOf reveals a.assignmentId).isSome := by
    rw [revealOf, List.find?_isSome]
    exact ⟨r, List.mem_reverse.mpr hr, decide_eq_true hid⟩
  obtain ⟨reveal, hreveal⟩ := Option.isSome_iff_exists.mp hrevealed
  have hpos : 0 < outcomeWeight reveals panel.assignments reveal.outcome := by
    apply outcomeWeight_pos.mpr
    apply List.ne_nil_of_mem (a := a)
    exact List.mem_filter.mpr ⟨ha, by simp [hreveal]⟩
  have hle := get_le_get_consensusOutcome js
    (revealWeights (js.withArithmetic .exact) reveals panel.assignments) reveal.outcome
  rw [get_revealWeights, get_revealWeights] at hle
  omega

/-- A panel with reveals is settled. -/
theorem settleDotCastResolverPanel_exact (hsome : panel.Revealed reveals) (now : String) :
    settleDotCastResolverPanel (js.withArithmetic .exact) panel reveals now =
      .ok (exactSettlement js panel reveals now) := by
  have hpos := consensus_pos js hsome
  have hget := get_revealWeights js reveals panel.assignments
  have hyes := hget (.side .yes)
  have hno := hget (.side .no)
  have hinvalid := hget .invalid
  have hcorrect := outcomeWeight_pos.mp hpos
  simp only [OutcomeWeights.get] at hyes hno hinvalid
  have htotal : 0 < outcomeWeight reveals panel.assignments (.side .yes) +
      outcomeWeight reveals panel.assignments (.side .no) +
      outcomeWeight reveals panel.assignments .invalid := by
    have hyes₀ := outcomeWeight_nonneg reveals panel.assignments (.side .yes)
    have hno₀ := outcomeWeight_nonneg reveals panel.assignments (.side .no)
    have hinvalid₀ := outcomeWeight_nonneg reveals panel.assignments .invalid
    generalize consensusOutcome _ _ = consensus at hpos
    rcases consensus with ⟨_ | _⟩ | _ <;> omega
  have hpool : floorQuotient (js.withArithmetic .exact)
      (panel.estimatedStakeMinorUnits * panel.resolverFeeBps) 10000 = panel.feePool :=
    floorQuotient_exact js _ 10000
  have hint : ∀ v, (js.withArithmetic .exact).arithmetic.integer v = v := fun _ => rfl
  unfold settleDotCastResolverPanel
  simp only [hint, hyes, hno, hinvalid, hget, hpool, floorQuotient_exact]
  rw [Except.throwIf_of_not _ (not_le.mpr htotal)]
  rfl

/-- Whatever the panel, its settlement keeps the law. -/
theorem exactSettlement_lawful (hfee : 0 ≤ panel.resolverFeeBps)
    (hids : (panel.assignments.map (·.assignmentId)).Nodup) (hsome : panel.Revealed reveals)
    (now : String) : (exactSettlement js panel reveals now).Lawful panel reveals := by
  have hcorrect := outcomeWeight_pos.mp (consensus_pos js hsome)
  have hlength := List.length_pos_iff.mpr hcorrect
  have hpaid : ((exactSettlement js panel reveals now).payouts.map (·.feePaidMinorUnits)).sum =
      (correctAssignments reveals (exactSettlement js panel reveals now).consensusOutcome
          panel.assignments).length *
        panel.feePerCorrect (correctAssignments reveals
          (exactSettlement js panel reveals now).consensusOutcome panel.assignments).length := by
    refine (sum_feePaid _ _ _ _).trans ?_
    rw [← correctAssignments_eq]
    rfl
  have hshares := sum_shares hlength panel.feePool
  refine ⟨?_, rfl, ?_, ?_, ?_, ?_, ?_⟩
  · intro outcome
    have hle := get_le_get_consensusOutcome js
      (revealWeights (js.withArithmetic .exact) reveals panel.assignments) outcome
    rwa [get_revealWeights, get_revealWeights] at hle
  · intro a ha
    refine ⟨_, ⟨List.mem_map_of_mem ha, rfl⟩, ?_⟩
    rintro payout ⟨hmem, hid⟩
    obtain ⟨b, hb, rfl⟩ := List.mem_map.mp hmem
    obtain rfl := List.inj_on_of_nodup_map hids hb ha hid
    rfl
  · simp [exactSettlement, settledPayout]
  · intro payout hmem a ha hid
    obtain ⟨b, hb, rfl⟩ := List.mem_map.mp hmem
    obtain rfl := List.inj_on_of_nodup_map hids hb ha hid
    exact settledPayout_bonds _ _ _ _
  · rw [hpaid]
    by_cases hbps : 0 < panel.resolverFeeBps
    · rw [ResolverPanelRow.feePerCorrect, if_pos ⟨hbps, hlength⟩]
      exact hshares.1
    · have hzero : panel.resolverFeeBps = 0 := by omega
      simp [ResolverPanelRow.feePerCorrect, ResolverPanelRow.feePool, hzero]
  · intro hbps
    rw [hpaid, ResolverPanelRow.feePerCorrect, if_pos ⟨hbps, hlength⟩]
    exact hshares.2

/-- The order in which a panel and its reveals are read does not matter. -/
theorem exactSettlement_perm {panel' : ResolverPanel} {reveals' : List ResolverReveal}
    (hreveals : (reveals.map (·.assignmentId)).Nodup) (hperm : reveals'.Perm reveals)
    (hrow : panel'.toResolverPanelRow = panel.toResolverPanelRow)
    (hassignments : panel'.assignments.Perm panel.assignments) (now : String) :
    (exactSettlement js panel' reveals' now).consensusOutcome =
        (exactSettlement js panel reveals now).consensusOutcome ∧
      (exactSettlement js panel' reveals' now).payouts.Perm
        (exactSettlement js panel reveals now).payouts := by
  have hof := revealOf_perm hreveals hperm
  have hweights : revealWeights (js.withArithmetic .exact) reveals' panel'.assignments =
      revealWeights (js.withArithmetic .exact) reveals panel.assignments := by
    apply OutcomeWeights.ext_get
    intro outcome
    rw [get_revealWeights, get_revealWeights, outcomeWeight_perm hof hassignments]
  have hcorrect : ∀ outcome,
      (correctAssignments reveals' outcome panel'.assignments).length =
        (correctAssignments reveals outcome panel.assignments).length := by
    intro outcome
    unfold correctAssignments
    rw [hof]
    exact (hassignments.filter _).length_eq
  constructor
  · simp only [exactSettlement, hweights]
  · simp only [exactSettlement, hweights, hcorrect, hrow, hof]
    exact hassignments.map _

/-- For every panel and every set of reveals with one of the panel's: the settlement is lawful
and does not depend on the order of assignments and reveals. -/
theorem panel_settlement_is_lawful (hfee : 0 ≤ panel.resolverFeeBps)
    (hids : (panel.assignments.map (·.assignmentId)).Nodup)
    (hreveals : (reveals.map (·.assignmentId)).Nodup) (hsome : panel.Revealed reveals)
    (now : String) :
    ∃ settlement : PanelSettlement,
      settleDotCastResolverPanel (js.withArithmetic .exact) panel reveals now = .ok settlement ∧
        settlement.Lawful panel reveals ∧
        ∀ (panel' : ResolverPanel) (reveals' : List ResolverReveal),
          panel'.toResolverPanelRow = panel.toResolverPanelRow →
            panel'.assignments.Perm panel.assignments → reveals'.Perm reveals →
              ∃ settlement' : PanelSettlement,
                settleDotCastResolverPanel (js.withArithmetic .exact) panel' reveals' now =
                    .ok settlement' ∧
                  settlement'.consensusOutcome = settlement.consensusOutcome ∧
                  settlement'.payouts.Perm settlement.payouts := by
  refine ⟨_, settleDotCastResolverPanel_exact js hsome now,
    exactSettlement_lawful js hfee hids hsome now, ?_⟩
  intro panel' reveals' hrow hassignments hperm
  have hsome' : panel'.Revealed reveals' := by
    obtain ⟨r, hr, a, ha, hid⟩ := hsome
    exact ⟨r, hperm.mem_iff.mpr hr, a, hassignments.mem_iff.mpr ha, hid⟩
  exact ⟨_, settleDotCastResolverPanel_exact js hsome' now,
    exactSettlement_perm js hreveals hperm hrow hassignments now⟩

/-- The assignment of a resolver with some reputation. -/
private def anAssignment (assignmentId : String) (reputationBps : ℤ) : ResolverAssignment where
  assignmentId := assignmentId
  panelId := "panel"
  poolId := "pool"
  routeId := "route"
  resolverId := assignmentId
  identityHash := ""
  reputationBps := reputationBps
  bondMinorUnits := 500
  status := .revealed
  assignedAt := ""

/-- The reveal of an outcome. -/
private def aReveal (assignmentId : String) (outcome : PoolOutcome) : ResolverReveal where
  assignmentId := assignmentId
  panelId := "panel"
  resolverId := assignmentId
  outcome := outcome
  salt := "salt"
  revealedAt := ""

/-- Three resolvers, of whom one is silent, and a reveal from elsewhere. -/
private def threeSeats : ResolverPanel where
  panelId := "panel"
  poolId := "pool"
  routeId := "route"
  tier := .humanJury
  panelSize := 3
  estimatedStakeMinorUnits := 100000
  resolverFeeBps := 33
  createdAt := ""
  assignments := [anAssignment "a" 5000, anAssignment "b" 0, anAssignment "c" 4000]

private def threeReveals : List ResolverReveal :=
  [aReveal "x" .invalid, aReveal "b" (.side .yes), aReveal "a" (.side .yes)]

theorem three_resolvers_settle :
    ∃ settlement : PanelSettlement,
      settleDotCastResolverPanel ((JavaScript.reference .exact).withArithmetic .exact)
          threeSeats threeReveals "" = .ok settlement ∧
        settlement.Lawful threeSeats threeReveals ∧
        ∀ (panel' : ResolverPanel) (reveals' : List ResolverReveal),
          panel'.toResolverPanelRow = threeSeats.toResolverPanelRow →
            panel'.assignments.Perm threeSeats.assignments → reveals'.Perm threeReveals →
              ∃ settlement' : PanelSettlement,
                settleDotCastResolverPanel ((JavaScript.reference .exact).withArithmetic .exact)
                    panel' reveals' "" = .ok settlement' ∧
                  settlement'.consensusOutcome = settlement.consensusOutcome ∧
                  settlement'.payouts.Perm settlement.payouts :=
  panel_settlement_is_lawful _ (by decide) (by decide) (by decide) (by decide) ""

end Yevow.DotCast
