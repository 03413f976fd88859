import Yevow.Models.DotCast.Resolution.PanelSettlement

/-!
# The status of an assignment

Statuses are ordered along assigned, committed, revealed and the two final ones. A loop over
payouts moves the statuses of their assignments, and only forward: an assignment that is
finished has its payout and is skipped.
-/

namespace Yevow.DotCast

open JavaScript (Runtime)
open Program (run)
open ResolverStore

/-! ## Moving forward -/

namespace AssignmentStatus

/-- The place along assigned, committed, revealed and the two final statuses. -/
def rank : AssignmentStatus → ℕ
  | .assigned => 0
  | .committed => 1
  | .revealed => 2
  | .paid => 3
  | .slashed => 3

/-- Unchanged or further along. -/
def Forward (a b : AssignmentStatus) : Prop := a = b ∨ a.rank < b.rank

private theorem Forward.trans {a b c : AssignmentStatus} (hab : a.Forward b) (hbc : b.Forward c) :
    a.Forward c := by
  rcases hab with rfl | hab
  · exact hbc
  · rcases hbc with rfl | hbc
    · exact Or.inr hab
    · exact Or.inr (hab.trans hbc)

private theorem rank_le (a : AssignmentStatus) : a.rank ≤ 3 := by
  cases a <;> decide

private theorem final_iff_rank {a : AssignmentStatus} : a.Final ↔ a.rank = 3 := by
  cases a <;> decide

/-- The final statuses are never left. -/
theorem Forward.eq_of_final {a b : AssignmentStatus} (h : a.Forward b) (ha : a.Final) : b = a := by
  rcases h with rfl | h
  · rfl
  · have hb := b.rank_le
    rw [final_iff_rank] at ha
    omega

private theorem forward_of_final {a b : AssignmentStatus} (ha : ¬a.Final) (hb : b.Final) :
    a.Forward b := by
  rw [final_iff_rank] at ha hb
  have hle := a.rank_le
  exact Or.inr (by omega)

theorem forward_revealed {a : AssignmentStatus} (ha : ¬a.Final) : a.Forward .revealed := by
  cases a with
  | assigned => exact Or.inr (by decide)
  | committed => exact Or.inr (by decide)
  | revealed => exact Or.inl rfl
  | paid => exact absurd (Or.inl rfl) ha
  | slashed => exact absurd (Or.inr rfl) ha

end AssignmentStatus

/-- Only the status changed, and it moved forward. -/
structure ResolverAssignment.Moves (a a' : ResolverAssignment) : Prop where
  row : a' = { a with status := a'.status }
  status : a.status.Forward a'.status

private theorem ResolverAssignment.Moves.refl (a : ResolverAssignment) :
    a.Moves a := ⟨rfl, Or.inl rfl⟩

private theorem ResolverAssignment.Moves.trans {a b c : ResolverAssignment} (hab : a.Moves b)
    (hbc : b.Moves c) : a.Moves c := by
  refine ⟨?_, hab.status.trans hbc.status⟩
  rw [hbc.row, hab.row]

theorem ResolverAssignment.Moves.panelId {a a' : ResolverAssignment} (h : a.Moves a') :
    a'.panelId = a.panelId := by
  rw [h.row]

namespace ResolverStore

variable {s s' s'' : ResolverStore}

/-- Every stored assignment stays and moves forward; none is added. -/
def Advances (s s' : ResolverStore) : Prop :=
  ∀ id, Option.Rel ResolverAssignment.Moves (s.assignments.get? id) (s'.assignments.get? id)

theorem advances_of_eq (h : s'.assignments = s.assignments) : s.Advances s' := by
  intro id
  rw [h]
  cases s.assignments.get? id with
  | none => exact .none
  | some a => exact .some (.refl a)

private theorem moves_trans {a b c : Option ResolverAssignment}
    (hab : Option.Rel ResolverAssignment.Moves a b)
    (hbc : Option.Rel ResolverAssignment.Moves b c) :
    Option.Rel ResolverAssignment.Moves a c := by
  cases hab with
  | none => exact hbc
  | some hab =>
    cases hbc with
    | some hbc => exact .some (hab.trans hbc)

theorem Advances.trans (h : s.Advances s') (h' : s'.Advances s'') : s.Advances s'' :=
  fun id => moves_trans (h id) (h' id)

theorem Advances.get? (h : s.Advances s') {id : String} {a : ResolverAssignment}
    (ha : s.assignments.get? id = some a) :
    ∃ a', s'.assignments.get? id = some a' ∧ a.Moves a' := by
  have hid := h id
  rw [ha] at hid
  cases hrow : s'.assignments.get? id with
  | none =>
    rw [hrow] at hid
    cases hid
  | some a' =>
    rw [hrow] at hid
    cases hid with
    | some hmoves => exact ⟨a', rfl, hmoves⟩

private theorem Advances.get?_of_after (h : s.Advances s') {id : String} {a' : ResolverAssignment}
    (ha : s'.assignments.get? id = some a') :
    ∃ a, s.assignments.get? id = some a ∧ a.Moves a' := by
  have hid := h id
  rw [ha] at hid
  cases hrow : s.assignments.get? id with
  | none =>
    rw [hrow] at hid
    cases hid
  | some a =>
    rw [hrow] at hid
    cases hid with
    | some hmoves => exact ⟨a, rfl, hmoves⟩

/-- Marking an assignment further along advances the store. -/
theorem advances_updateStatus {assignmentId : String} {status : AssignmentStatus}
    (h : ∀ a, s.assignments.get? assignmentId = some a → a.status.Forward status) :
    s.Advances (s.updateStatus assignmentId status) := by
  intro id
  rw [get?_updateStatus]
  split_ifs with hid
  · cases hrow : s.assignments.get? id with
    | none => exact .none
    | some a => exact .some ⟨rfl, h a (hid ▸ hrow)⟩
  · cases s.assignments.get? id with
    | none => exact .none
    | some a => exact .some (.refl a)

end ResolverStore

/-! ## What the accounting of a payout leaves alone -/

/-- The calls that write panels, assignments, commits, reveals or payouts. -/
def ResolverOp.WritesPanels : ResolverOp → Prop
  | .insertPanelRow _ => True
  | .insertAssignment _ => True
  | .updateResolverAssignmentStatus _ _ => True
  | .insertCommitRow _ => True
  | .insertRevealRow _ => True
  | .insertPayoutRow _ => True
  | _ => False

/-- The calls that move bonds. -/
def ResolverOp.MovesBond : ResolverOp → Prop
  | .getResolverProfile _ => True
  | .updateProfileBond _ _ _ => True
  | .bondLedgerEntryExists _ => True
  | .insertResolverBondLedgerEntry _ => True
  | _ => False

/-- The calls that change a reputation. -/
def ResolverOp.Rates : ResolverOp → Prop
  | .getResolverProfile _ => True
  | .updateProfileReputation _ _ _ => True
  | .reputationEventExists _ => True
  | .insertResolverReputationEvent _ => True
  | _ => False

def ResolverOp.ReadsAssignment : ResolverOp → Prop
  | .getResolverAssignment _ => True
  | _ => False

/-- The calls of the accounting of a payout. -/
def ResolverOp.Accounts (op : ResolverOp) : Prop :=
  op.ReadsAssignment ∨ op.MovesBond ∨ op.Rates

/-- Two stores that agree on assignments, commits, reveals and payouts. -/
structure ResolverStore.SamePanels (s s' : ResolverStore) : Prop where
  assignments : s'.assignments = s.assignments
  commits : s'.commits = s.commits
  reveals : s'.reveals = s.reveals
  payouts : s'.payouts = s.payouts

namespace ResolverStore

variable {s s' : ResolverStore}

private theorem samePanels_writeProfile (s : ResolverStore) (p : ResolverRegistryProfile) :
    s.SamePanels (s.writeProfile p).2 := by
  unfold writeProfile
  split_ifs <;> exact ⟨rfl, rfl, rfl, rfl⟩

private theorem samePanels_updateProfile (s : ResolverStore) (resolverId : String)
    (change : ResolverRegistryProfile → ResolverRegistryProfile) :
    s.SamePanels (s.updateProfile resolverId change).2 := by
  unfold updateProfile
  split
  · exact ⟨rfl, rfl, rfl, rfl⟩
  · split_ifs <;> exact ⟨rfl, rfl, rfl, rfl⟩

private theorem samePanels_insertBondLedgerEntry (s : ResolverStore) (e : ResolverBondLedgerEntry) :
    s.SamePanels (s.insertBondLedgerEntry e) := by
  unfold insertBondLedgerEntry
  split_ifs <;> exact ⟨rfl, rfl, rfl, rfl⟩

private theorem samePanels_insertReputationEvent (s : ResolverStore) (e : ResolverReputationEvent) :
    s.SamePanels (s.insertReputationEvent e) := by
  unfold insertReputationEvent
  split_ifs <;> exact ⟨rfl, rfl, rfl, rfl⟩

end ResolverStore

/-- Every other call leaves those tables alone. -/
theorem samePanels_call (js : Runtime) (op : ResolverOp) (s : ResolverStore)
    (hop : ¬op.WritesPanels) : s.SamePanels (resolverHandler js op s).2 := by
  cases op with
  | writeProfile p => exact samePanels_writeProfile s p
  | updateProfileBond id bond at_ => exact samePanels_updateProfile s id _
  | updateProfileReputation id bps at_ => exact samePanels_updateProfile s id _
  | insertResolverBondLedgerEntry e => exact samePanels_insertBondLedgerEntry s e
  | insertResolverReputationEvent e => exact samePanels_insertReputationEvent s e
  | insertPanelRow p => exact absurd trivial hop
  | insertAssignment a => exact absurd trivial hop
  | updateResolverAssignmentStatus id status => exact absurd trivial hop
  | insertCommitRow c => exact absurd trivial hop
  | insertRevealRow r => exact absurd trivial hop
  | insertPayoutRow p => exact absurd trivial hop
  | getResolverProfile _ | bondLedgerEntryExists _ | reputationEventExists _ | getPanelRow _
  | getResolverAssignment _ | listAssignments _ | getResolverCommit _ | listResolverCommits _
  | listResolverReveals _ | resolverPayoutExists _ _ => exact ⟨rfl, rfl, rfl, rfl⟩

section Accounting

open Program (Avoids)

variable (js : Runtime)

private theorem movesBond_applyResolverBondDelta (d : BondDelta) :
    (applyResolverBondDelta js d).Avoids fun op => ¬op.MovesBond := by
  unfold applyResolverBondDelta
  refine (Program.avoids_perform (fun h => h trivial)).bind fun posted => ?_
  cases posted with
  | true => trivial
  | false =>
    refine (Program.avoids_perform (fun h => h trivial)).bind fun profile => ?_
    cases profile with
    | none => trivial
    | some p =>
      simp only
      split_ifs
      · trivial
      · exact (Program.avoids_perform (fun h => h trivial)).bind fun _ =>
          Program.avoids_perform (fun h => h trivial)

private theorem avoids_when {bad : ResolverOp → Prop} {condition : Prop} [Decidable condition]
    {body : Resolving Unit} (h : body.Avoids bad) :
    (Resolving.when condition body).Avoids bad := by
  unfold Resolving.when
  split_ifs
  · exact h
  · trivial

theorem movesBond_applyResolverPayoutDeltas (p : ResolverPayout) :
    (applyResolverPayoutDeltas js p).Avoids fun op => ¬op.MovesBond := by
  unfold applyResolverPayoutDeltas
  split_ifs
  · exact (avoids_when (movesBond_applyResolverBondDelta js _)).bind fun _ =>
      avoids_when (movesBond_applyResolverBondDelta js _)
  · exact movesBond_applyResolverBondDelta js _

private theorem rates_applyResolverReputationDelta (a : ResolverAssignment)
    (matchedConsensus : Bool)
    (now : String) :
    (applyResolverReputationDelta js a matchedConsensus now).Avoids fun op => ¬op.Rates := by
  unfold applyResolverReputationDelta
  refine (Program.avoids_perform (fun h => h trivial)).bind fun rated => ?_
  cases rated with
  | true => trivial
  | false =>
    refine (Program.avoids_perform (fun h => h trivial)).bind fun profile => ?_
    cases profile with
    | none => trivial
    | some p =>
      exact (Program.avoids_perform (fun h => h trivial)).bind fun _ =>
        Program.avoids_perform (fun h => h trivial)

theorem accounts_applyResolverPayoutAccounting (p : ResolverPayout) :
    (applyResolverPayoutAccounting js p).Avoids fun op => ¬op.Accounts := by
  unfold applyResolverPayoutAccounting
  refine (Program.avoids_perform (fun h => h (Or.inl trivial))).bind fun assignment => ?_
  cases assignment with
  | none => trivial
  | some a =>
    refine Avoids.bind ((movesBond_applyResolverPayoutDeltas js p).mono fun op hop hmoves =>
      hop (Or.inr (Or.inl hmoves))) fun _ => ?_
    exact (rates_applyResolverReputationDelta js a _ _).mono fun op hop hrates =>
      hop (Or.inr (Or.inr hrates))

private theorem avoids_applyResolverPayoutAccounting (p : ResolverPayout) :
    (applyResolverPayoutAccounting js p).Avoids ResolverOp.WritesPanels :=
  (accounts_applyResolverPayoutAccounting js p).mono fun op hop haccounts => by
    cases op <;> simp_all [ResolverOp.WritesPanels, ResolverOp.Accounts, ResolverOp.ReadsAssignment,
      ResolverOp.MovesBond, ResolverOp.Rates]

theorem samePanels_payoutAccounting (p : ResolverPayout) (s : ResolverStore) :
    s.SamePanels (run (resolverHandler js) (applyResolverPayoutAccounting js p) s).2 := by
  refine (avoids_applyResolverPayoutAccounting js p).run_preserves (fun op s₁ hop h => ?_)
    ⟨rfl, rfl, rfl, rfl⟩
  have hcall := samePanels_call js op s₁ hop
  exact ⟨hcall.1.trans h.1, hcall.2.trans h.2, hcall.3.trans h.3, hcall.4.trans h.4⟩

end Accounting

/-! ## Payouts of a panel -/

namespace ResolverStore

/-- Every finished assignment has its payout. -/
def PaidOut (s : ResolverStore) : Prop :=
  ∀ id a, s.assignments.get? id = some a → a.status.Final →
    (s.payouts.get? (id, a.panelId)).isSome

/-- The payout passes the checks and is for a stored assignment of its panel. -/
def Payable (s : ResolverStore) (p : ResolverPayout) : Prop :=
  p.Valid ∧ ∃ a, s.assignments.get? p.assignmentId = some a ∧ a.panelId = p.panelId

/-- What a loop over payouts has done so far to a store. -/
structure Paying (s s' : ResolverStore) (ids : List String) : Prop where
  advances : s.Advances s'
  commits : s'.commits = s.commits
  reveals : s'.reveals = s.reveals
  paidOut : s'.PaidOut
  others : ∀ id ∉ ids, s'.assignments.get? id = s.assignments.get? id

end ResolverStore

variable {js : Runtime} {s s' : ResolverStore}

/-- The round of a payout pays it out if it was not before. -/
theorem insertResolverPayout_paying {ids : List String} {p : ResolverPayout}
    (hpaying : s.Paying s' ids) (hpayable : s.Payable p) (hmem : p.assignmentId ∈ ids) :
    s.Paying (run (resolverHandler js) (insertResolverPayout js p) s').2 ids := by
  unfold insertResolverPayout
  rw [run_resolverPayoutExists_bind]
  cases hpaid : s'.payouts.get? (p.assignmentId, p.panelId) with
  | some row => exact hpaying
  | none =>
    rw [if_neg (by simp), run_insertPayoutRow_bind, run_updateAssignmentStatus_bind]
    obtain ⟨hvalid, a, ha, hpanel⟩ := hpayable
    have hfinal : (if p.matchedConsensus then AssignmentStatus.paid else .slashed).Final := by
      split_ifs
      · exact Or.inl rfl
      · exact Or.inr rfl
    generalize (if p.matchedConsensus then AssignmentStatus.paid else .slashed) = status at hfinal
    have hsame := samePanels_payoutAccounting js p
      ((s'.insertPayout p).updateStatus p.assignmentId status)
    have hunpaid : ∀ a', s'.assignments.get? p.assignmentId = some a' → ¬a'.status.Final := by
      intro a' ha' hdone
      obtain ⟨_, ha₀, hmoves⟩ := hpaying.advances.get?_of_after ha'
      obtain rfl := Option.some.inj (ha₀.symm.trans ha)
      have hstored := hpaying.paidOut _ _ ha' hdone
      rw [hmoves.panelId, hpanel, hpaid] at hstored
      contradiction
    have hstep : s'.Advances ((s'.insertPayout p).updateStatus p.assignmentId status) := by
      refine (advances_of_eq (assignments_insertPayout s' p)).trans (advances_updateStatus ?_)
      intro a' ha'
      rw [assignments_insertPayout] at ha'
      exact AssignmentStatus.forward_of_final (hunpaid a' ha') hfinal
    refine ⟨hpaying.advances.trans (hstep.trans (advances_of_eq hsame.assignments)), ?_, ?_, ?_, ?_⟩
    · rw [hsame.commits, commits_updateStatus, commits_insertPayout, hpaying.commits]
    · rw [hsame.reveals, reveals_updateStatus, reveals_insertPayout, hpaying.reveals]
    · intro id a' ha' hdone
      rw [hsame.payouts, payouts_updateStatus]
      rw [hsame.assignments] at ha'
      apply isSome_insertPayout
      obtain ⟨a₁, ha₁, hmoves⟩ := hstep.get?_of_after ha'
      rw [hmoves.panelId]
      by_cases hid : id = p.assignmentId
      · obtain ⟨a₀, ha₀, hmoves₀⟩ := hpaying.advances.get?_of_after ha₁
        rw [hid] at ha₀
        obtain rfl := Option.some.inj (ha₀.symm.trans ha)
        exact Or.inr ⟨by rw [hid, hmoves₀.panelId, hpanel], hvalid⟩
      · rw [get?_updateStatus, if_neg hid, assignments_insertPayout] at ha'
        obtain rfl := Option.some.inj (ha'.symm.trans ha₁)
        exact Or.inl (hpaying.paidOut _ _ ha₁ hdone)
    · intro id hid
      have hne : id ≠ p.assignmentId := by
        rintro rfl
        exact hid hmem
      rw [hsame.assignments, get?_updateStatus, if_neg hne, assignments_insertPayout,
        hpaying.others id hid]

/-- Paying out a list of payouts moves only their assignments, and only forward. -/
theorem insertResolverPayouts_paying (js : Runtime) (payouts : List ResolverPayout)
    (hpaid : s.PaidOut) (hpayable : ∀ p ∈ payouts, s.Payable p) :
    s.Paying (run (resolverHandler js) (insertResolverPayouts js payouts) s).2
      (payouts.map (·.assignmentId)) := by
  apply forEach_preserves_mem (P := fun s' => s.Paying s' (payouts.map (·.assignmentId)))
  · intro p hp s' hpaying
    exact insertResolverPayout_paying hpaying (hpayable p hp) (List.mem_map_of_mem hp)
  · exact ⟨advances_of_eq rfl, rfl, rfl, hpaid, fun _ _ => rfl⟩

end Yevow.DotCast
