import Yevow.Core.JavaScript.Reference
import Yevow.Models.DotCast.Resolution.BondAccounting

/-!
# Every balance is the sum of its ledger

A run of the resolver store's operations from the empty store keeps every resolver's bond
equal to the sum of its ledger rows, as long as no step reuses the key of a timestamp or
stores an assignment whose bond it then refuses.
-/

namespace Yevow.DotCast

open JavaScript (Runtime)
open Program (run)
open ResolverStore

variable {js : Runtime} {s s' : ResolverStore}

/-! ## Panels -/

theorem insertAssignment_cases (s : ResolverStore) (a : ResolverAssignment) :
    s.insertAssignment a = s ∨
      ∃ hvalid, s.Insertable a ∧ s.insertAssignment a = s.putAssignment a hvalid := by
  unfold insertAssignment
  split_ifs with h
  · exact Or.inr ⟨h.2.2, h, rfl⟩
  · exact Or.inl rfl

theorem sameBooks_insertAssignment (s : ResolverStore) (a : ResolverAssignment) :
    s.SameBooks (s.insertAssignment a) := by
  rcases insertAssignment_cases s a with hsame | ⟨hvalid, -, hput⟩
  · rw [hsame]
    exact .refl s
  · rw [hput]
    refine ⟨rfl, fun _ => rfl, fun _ h => h, fun id h => ?_⟩
    show ((s.assignments.set a.assignmentId a).get? id).isSome
    rw [Rows.get?_set]
    split_ifs
    · rfl
    · exact h

/-- An assignment stored now was stored before or is the inserted one. -/
theorem isSome_insertAssignment {a : ResolverAssignment} {id : String}
    (h : ((s.insertAssignment a).assignments.get? id).isSome) :
    (s.assignments.get? id).isSome ∨ id = a.assignmentId ∧ s.Insertable a := by
  rcases insertAssignment_cases s a with hsame | ⟨hvalid, hinsertable, hput⟩
  · rw [hsame] at h
    exact Or.inl h
  · rw [hput] at h
    change ((s.assignments.set a.assignmentId a).get? id).isSome at h
    rw [Rows.get?_set] at h
    split_ifs at h with hid
    · exact Or.inr ⟨hid, hinsertable⟩
    · exact Or.inl h

/-- The resolver's bond covers the assignment: a stored profile has enough, or a profile can
be registered with exactly the assignment's bond. -/
def CanLock (js : Runtime) (s : ResolverStore) (a : ResolverAssignment) : Prop :=
  match s.profiles.get? a.resolverId with
  | some row => row.Readable js ∧ 0 ≤ (lockDelta a).balanceAfter js row
  | none => (assignedProfile a).Valid ∧ ¬s.IdentityTaken (assignedProfile a) ∧
      (assignedProfile a).Readable js

/-- The lock of an assignment is computed without rounding. -/
def LockExact (js : Runtime) (s : ResolverStore) (a : ResolverAssignment) : Prop :=
  ∀ row, s.profiles.get? a.resolverId = some row → row.Readable js →
    0 ≤ (lockDelta a).balanceAfter js row →
      (lockDelta a).balanceAfter js row = row.bondAvailableMinorUnits - a.bondMinorUnits

/-- The assignment has its lock already, or will be locked if it is stored; what is posted is
computed without rounding. -/
def AssignmentSound (js : Runtime) (s : ResolverStore) (a : ResolverAssignment) : Prop :=
  s.bondEntry .lock a.assignmentId = none →
    (s.Insertable a → CanLock js s a) ∧ LockExact js s a

/-- The profile of an assignment is there, or is registered, or the step throws. -/
theorem ensureResolverProfile_cases (js : Runtime) (a : ResolverAssignment) (s : ResolverStore) :
    (∃ e, run (resolverHandler js) (ensureResolverProfileForAssignment js a) s = (.error e, s) ∧
        ¬CanLock js s a) ∨
      (run (resolverHandler js) (ensureResolverProfileForAssignment js a) s = (.ok (), s) ∧
        ∃ row, s.profiles.get? a.resolverId = some row ∧ row.Readable js) ∨
      s.profiles.get? a.resolverId = none ∧ ∃ hvalid,
        run (resolverHandler js) (ensureResolverProfileForAssignment js a) s =
          (.ok (), s.onboarded js (assignedProfile a) hvalid) := by
  unfold ensureResolverProfileForAssignment
  rw [run_getResolverProfile_bind]
  rcases readRow_profile_cases js s a.resolverId with ⟨e, hread, row, hrow, hunreadable⟩ |
    ⟨hread, hnone⟩ | ⟨row, hrow, hreadable, hread⟩
  · rw [hread]
    refine Or.inl ⟨e, rfl, fun hlock => ?_⟩
    rw [CanLock, hrow] at hlock
    exact hunreadable hlock.1
  · rw [hread]
    show (∃ e, run _ (upsertResolverProfile js (assignedProfile a)) s = _ ∧ _) ∨ _
    rcases upsertResolverProfile_cases js (assignedProfile a) s with ⟨e, hrun, hrefused⟩ |
      ⟨hvalid, -, -, -, hrun⟩ | ⟨row, hvalid, -, -, hrow, -⟩
    · refine Or.inl ⟨e, hrun, fun hlock => ?_⟩
      rw [CanLock, hnone] at hlock
      exact hrefused hnone ⟨hlock.1, hlock.2.1⟩
    · exact Or.inr (Or.inr ⟨hnone, hvalid, hrun⟩)
    · exact absurd (hnone.symm.trans hrow) (by simp)
  · rw [hread]
    exact Or.inr (Or.inl ⟨rfl, row, hrow, hreadable⟩)

/-- What a registration for an assignment stores, its lock can be taken from. -/
theorem covered_onboarded (js : Runtime) {a : ResolverAssignment}
    (hnone : s.profiles.get? a.resolverId = none)
    (hvalid : (s.upsertedProfile (assignedProfile a)).Valid) :
    (s.onboarded js (assignedProfile a) hvalid).profiles.get? a.resolverId =
      some (assignedProfile a) ∧ (lockDelta a).balanceAfter js (assignedProfile a) = 0 := by
  have hupserted : s.upsertedProfile (assignedProfile a) = assignedProfile a := by
    have hnone' : s.profiles.get? (assignedProfile a).resolverId = none := hnone
    rw [upsertedProfile, hnone']
  constructor
  · rw [profiles_onboarded, hupserted]
    exact Rows.get?_set_self _ _ _
  · show js.arithmetic.integer (a.bondMinorUnits + -a.bondMinorUnits) = 0
    rw [add_neg_cancel, js.arithmetic.integer_zero]

/-- Once a profile is ensured, the books are still sound and the lock can be taken. -/
theorem ensureResolverProfile_sound (js : Runtime) (a : ResolverAssignment) (hs : s.SoundBooks) :
    let ensured := run (resolverHandler js) (ensureResolverProfileForAssignment js a) s
    ensured.2.SoundBooks ∧ s.Extends ensured.2 ∧
      (LockExact js s a → LockExact js ensured.2 a) ∧
      (CanLock js s a → ensured.1 = .ok () ∧ (lockDelta a).Covered js ensured.2) := by
  rcases ensureResolverProfile_cases js a s with ⟨e, hrun, hrefused⟩ | ⟨hrun, row, hrow, -⟩ |
    ⟨hnone, hvalid, hrun⟩
  · simp only [hrun]
    exact ⟨hs, .refl s, id, fun hlock => absurd hlock hrefused⟩
  · simp only [hrun]
    refine ⟨hs, .refl s, id, fun hlock => ⟨trivial, row, hrow, ?_⟩⟩
    rw [CanLock, hrow] at hlock
    exact hlock
  · simp only [hrun]
    obtain ⟨hstored, hafter⟩ := covered_onboarded js hnone hvalid
    refine ⟨soundBooks_onboarded hs hnone hvalid, extends_onboarded _ hvalid, ?_, fun hlock => ?_⟩
    · intro _ row hrow hreadable hle
      obtain rfl := Option.some.inj (hstored.symm.trans hrow)
      rw [hafter]
      exact (sub_self a.bondMinorUnits).symm
    · rw [CanLock, hnone] at hlock
      exact ⟨trivial, assignedProfile a, hstored, hlock.2.2, hafter.ge⟩

theorem profiles_insertAssignment (s : ResolverStore) (a : ResolverAssignment) :
    (s.insertAssignment a).profiles = s.profiles := by
  rcases insertAssignment_cases s a with hsame | ⟨hvalid, -, hput⟩
  · rw [hsame]
  · rw [hput]
    rfl

/-- A store that grew from the one with the assignment inserted has its locks, if the new
assignment has one. -/
theorem bondsLocked_of_extends {a : ResolverAssignment} (hlocked : s.BondsLocked)
    (h : (s.insertAssignment a).Extends s')
    (hlock : s.Insertable a → (s'.bondEntry .lock a.assignmentId).isSome) : s'.BondsLocked := by
  intro id hid
  rw [h.assigned] at hid
  rcases isSome_insertAssignment hid with hold | ⟨rfl, hinsertable⟩
  · have hentry := hlocked id hold
    rw [← (sameBooks_insertAssignment s a).bondEntry] at hentry
    exact h.bondLedger _ hentry
  · exact hlock hinsertable

/-- The round of a panel's assignment keeps the books and the locks. -/
theorem insertPanelAssignment_sound {a : ResolverAssignment} (hs : s.SoundBooks)
    (hlocked : s.BondsLocked) (hsound : AssignmentSound js s a) :
    (run (resolverHandler js) (insertPanelAssignment js a) s).2.SoundBooks ∧
      (run (resolverHandler js) (insertPanelAssignment js a) s).2.BondsLocked := by
  have hsame := sameBooks_insertAssignment s a
  have hprofiles := profiles_insertAssignment s a
  obtain ⟨hbooks, hextends, hexact, hcanLock⟩ :=
    ensureResolverProfile_sound js a (hs.congr hsame)
  unfold insertPanelAssignment
  rw [run_insertAssignment_bind, Program.run_bind]
  rcases hensured : run (resolverHandler js) (ensureResolverProfileForAssignment js a)
    (s.insertAssignment a) with ⟨result, ensured⟩
  simp only [hensured] at hbooks hextends hexact hcanLock
  have hkept : ∀ {s'}, (s.insertAssignment a).Extends s' →
      (s.bondEntry .lock a.assignmentId).isSome → (s'.bondEntry .lock a.assignmentId).isSome := by
    intro s' h hentry
    rw [← hsame.bondEntry] at hentry
    exact h.bondLedger _ hentry
  have hlockable : s.Insertable a → (s.bondEntry .lock a.assignmentId).isSome ∨
      CanLock js (s.insertAssignment a) a := by
    intro hinsertable
    cases hentry : s.bondEntry .lock a.assignmentId with
    | some e => exact Or.inl rfl
    | none =>
      refine Or.inr ?_
      rw [CanLock, IdentityTaken, hprofiles]
      exact (hsound hentry).1 hinsertable
  cases result with
  | error e =>
    refine ⟨hbooks, bondsLocked_of_extends hlocked hextends fun hinsertable => ?_⟩
    rcases hlockable hinsertable with hentry | hcan
    · exact hkept hextends hentry
    · exact absurd (hcanLock hcan).1 (by simp)
  | ok u =>
    have hgrown := hextends.trans (applyResolverBondDelta_extends js (lockDelta a) ensured)
    refine ⟨applyResolverBondDelta_sound hbooks (lockDelta_on a) ?_,
      bondsLocked_of_extends hlocked hgrown fun hinsertable => ?_⟩
    · intro hfree row hrow hreadable hafter
      have hnone : s.bondEntry .lock a.assignmentId = none := by
        by_contra hentry
        have hsome := hkept hextends (Option.isSome_iff_ne_none.mpr hentry)
        exact absurd hfree (Option.isSome_iff_ne_none.mp hsome)
      have hexact' : LockExact js (s.insertAssignment a) a := by
        rw [LockExact, hprofiles]
        exact (hsound hnone).2
      refine ⟨?_, by simp, by simp⟩
      exact (hexact hexact' row hrow hreadable hafter).trans (sub_eq_add_neg _ _)
    · rcases hlockable hinsertable with hentry | hcan
      · exact hkept hgrown hentry
      · exact applyResolverBondDelta_entry (hcanLock hcan).2

/-! ## Payouts -/

/-- The payout will have its accounting: it is not stored, and its assignment is readable. -/
def PayoutDue (js : Runtime) (s : ResolverStore) (p : ResolverPayout) : Prop :=
  s.payouts.get? (p.assignmentId, p.panelId) = none ∧
    ∃ a, s.assignments.get? p.assignmentId = some a ∧ a.Readable js

/-- The bond a payout still returns. -/
def ResolverStore.bondDue (s : ResolverStore) (p : ResolverPayout) : ℤ :=
  if p.bondReturnedMinorUnits > 0 ∧ s.bondEntry .release p.assignmentId = none then
    p.bondReturnedMinorUnits
  else 0

/-- The fee is added to the returned bond without rounding. -/
def FeeExact (js : Runtime) (s : ResolverStore) (p : ResolverPayout) : Prop :=
  s.bondEntry .feeCredit p.assignmentId = none →
    ∀ row, s.profiles.get? p.resolverId = some row → row.Readable js →
      let total := row.bondAvailableMinorUnits + s.bondDue p + p.feePaidMinorUnits
      0 ≤ js.arithmetic.integer total → js.arithmetic.integer total = total

/-- What a payout posts is allowed: the bond it returns is the one that was locked and not
slashed, a bond it slashes was not returned, and the sums are computed without rounding. -/
def DeltasSound (js : Runtime) (s : ResolverStore) (p : ResolverPayout) : Prop :=
  if p.matchedConsensus then
    (p.bondReturnedMinorUnits > 0 → (releaseDelta p).Sound js s .release) ∧
      (p.feePaidMinorUnits > 0 → FeeExact js s p)
  else (slashDelta p).Sound js s .slash

/-- What a payout posts is allowed, if it has its accounting. -/
def PayoutSound (js : Runtime) (s : ResolverStore) (p : ResolverPayout) : Prop :=
  PayoutDue js s p → DeltasSound js s p

/-- An update of a profile finds none, or is refused, or is written. -/
theorem updateProfile_cases (s : ResolverStore) (resolverId : String)
    (change : ResolverRegistryProfile → ResolverRegistryProfile) :
    (s.updateProfile resolverId change).2 = s ∨ ∃ row hvalid,
      s.profiles.get? resolverId = some row ∧
        s.updateProfile resolverId change = (.ok (), s.putProfile (change row) hvalid) := by
  unfold updateProfile
  split
  · exact Or.inl rfl
  · rename_i row hrow
    split_ifs with hvalid
    · exact Or.inr ⟨row, hvalid, hrow, rfl⟩
    · exact Or.inl rfl

private theorem updateReputation_sameBooks (s : ResolverStore) (resolverId : String) (bps : ℤ)
    (now : String) : s.SameBooks (s.updateProfile resolverId (·.withReputation bps now)).2 ∧
      s.Extends (s.updateProfile resolverId (·.withReputation bps now)).2 := by
  rcases updateProfile_cases s resolverId (·.withReputation bps now) with hsame |
    ⟨row, hvalid, hrow, hwritten⟩
  · rw [hsame]
    exact ⟨.refl s, .refl s⟩
  · have hid : row.resolverId = resolverId := (s.profiles_ok _ _ hrow).1
    rw [hwritten]
    refine ⟨sameBooks_putProfile hvalid ?_, extends_putProfile s hvalid⟩
    show row.bondAvailableMinorUnits = s.bondAvailable row.resolverId
    rw [bondAvailable, hid, hrow]
    rfl

/-- A change of reputation leaves the books as they are. -/
theorem applyResolverReputationDelta_sameBooks (js : Runtime) (a : ResolverAssignment)
    (matched : Bool) (now : String) (s : ResolverStore) :
    s.SameBooks (run (resolverHandler js) (applyResolverReputationDelta js a matched now) s).2 ∧
      s.Extends (run (resolverHandler js) (applyResolverReputationDelta js a matched now) s).2 := by
  unfold applyResolverReputationDelta
  rw [run_reputationEventExists_bind]
  by_cases hexists :
      (s.reputationEvents.get? ("dotcast:e13:reputation:" ++ a.assignmentId)).isSome
  · rw [if_pos hexists]
    exact ⟨.refl s, .refl s⟩
  · rw [if_neg hexists, run_getResolverProfile_bind]
    rcases readRow (resolverProfileFromRow js) (s.profiles.get? a.resolverId) with
      e | _ | profile
    · exact ⟨.refl s, .refl s⟩
    · exact ⟨.refl s, .refl s⟩
    · simp only
      rw [run_updateProfileReputation_bind]
      generalize clampBps _ = bps
      have hupdated := updateReputation_sameBooks s a.resolverId bps now
      rcases hupdate : s.updateProfile a.resolverId (·.withReputation bps now) with ⟨_ | _, s₁⟩
      · rw [hupdate] at hupdated
        exact hupdated
      · rw [hupdate] at hupdated
        have hquiet := quiet_insertReputationEvent s₁
        exact ⟨hupdated.1.trans (hquiet _).sameBooks, hupdated.2.trans (hquiet _).extends⟩

/-- The same movement is sound in a store with the same profiles and ledger. -/
theorem BondDelta.Sound.congr {d : BondDelta} {o : LedgerOccasion} (h : d.Sound js s o)
    (hquiet : s.Quiet s') : d.Sound js s' o := by
  intro hfree row hrow hreadable hafter
  rw [hquiet.bondLedger] at hfree
  rw [hquiet.profiles] at hrow
  obtain ⟨hexact, hrelease, hslash⟩ := h hfree row hrow hreadable hafter
  simp only [bondEntry, hquiet.bondLedger, hquiet.assigned]
  exact ⟨hexact, hrelease, hslash⟩

private theorem FeeExact.congr {p : ResolverPayout} (h : FeeExact js s p) (hquiet : s.Quiet s') :
    FeeExact js s' p := by
  unfold FeeExact bondDue bondEntry at h ⊢
  rw [hquiet.bondLedger, hquiet.profiles]
  exact h

/-- A fee added to the bond as it is. -/
theorem feeDelta_sound_of_bondDue_eq_zero {p : ResolverPayout} (hfee : FeeExact js s p)
    (hdue : s.bondDue p = 0) : (feeDelta p).Sound js s .feeCredit := by
  intro hfree row hrow hreadable hafter
  have hexact := hfee hfree row hrow hreadable
  simp only [hdue, add_zero] at hexact
  exact ⟨hexact hafter, by simp, by simp⟩

/-- After the bond was returned, the fee can be added. -/
theorem feeDelta_sound {p : ResolverPayout} (hfee : FeeExact js s p)
    (hrelease : p.bondReturnedMinorUnits > 0 → (releaseDelta p).Sound js s .release)
    (hrun : run (resolverHandler js) (Resolving.when (p.bondReturnedMinorUnits > 0)
      (applyResolverBondDelta js (releaseDelta p))) s = (.ok (), s')) :
    (feeDelta p).Sound js s' .feeCredit := by
  rw [run_when] at hrun
  by_cases hreturned : p.bondReturnedMinorUnits > 0
  · rw [if_pos hreturned] at hrun
    by_cases hentry : s.bondLedger.get? (releaseDelta p).entryId = none
    · by_cases hcovered : (releaseDelta p).Covered js s
      · obtain ⟨row, hrow, hreadable, hafter⟩ := hcovered
        have hexact := (hrelease hreturned hentry row hrow hreadable hafter).1
        obtain ⟨hvalid, hposted⟩ :=
          run_applyResolverBondDelta_of_covered hentry hrow hreadable hafter
        obtain rfl := congrArg Prod.snd (hposted.symm.trans hrun)
        have hdue : s.bondDue p = p.bondReturnedMinorUnits := if_pos ⟨hreturned, hentry⟩
        intro hfree row' hrow' _ hafter'
        have hid : (feeDelta p).resolverId =
            (row.withBond ((releaseDelta p).balanceAfter js row)
              (releaseDelta p).createdAt).resolverId := (s.profiles_ok _ _ hrow).1.symm
        rw [profiles_insertBondLedgerEntry, hid, get?_putProfile_self] at hrow'
        obtain rfl := Option.some.inj hrow'
        have hfeeFree : s.bondEntry .feeCredit p.assignmentId = none := by
          by_contra hsome
          exact absurd hfree (Option.isSome_iff_ne_none.mp
            ((extends_insertBondLedgerEntry _ _).bondLedger _
              (Option.isSome_iff_ne_none.mpr hsome)))
        have htotal : (feeDelta p).balanceAfter js (row.withBond
            ((releaseDelta p).balanceAfter js row) (releaseDelta p).createdAt) =
              js.arithmetic.integer
                (row.bondAvailableMinorUnits + s.bondDue p + p.feePaidMinorUnits) := by
          rw [hdue]
          show js.arithmetic.integer ((releaseDelta p).balanceAfter js row + _) = _
          rw [hexact]
          rfl
        have hfeeExact := hfee hfeeFree row hrow hreadable
        rw [htotal] at hafter' ⊢
        refine ⟨(hfeeExact hafter').trans ?_, by simp, by simp⟩
        rw [hdue]
        exact (congrArg (· + p.feePaidMinorUnits) hexact).symm
      · obtain ⟨e, hrefused⟩ := run_applyResolverBondDelta_of_refused hentry hcovered
        exact absurd (congrArg Prod.fst (hrefused.symm.trans hrun)) (by simp)
    · rw [run_applyResolverBondDelta_of_entry (Option.isSome_iff_ne_none.mpr hentry)] at hrun
      obtain rfl := congrArg Prod.snd hrun
      exact feeDelta_sound_of_bondDue_eq_zero hfee (if_neg fun h => hentry h.2)
  · rw [if_neg hreturned] at hrun
    obtain rfl := congrArg Prod.snd hrun
    exact feeDelta_sound_of_bondDue_eq_zero hfee (if_neg fun h => hreturned h.1)

private theorem DeltasSound.congr {p : ResolverPayout} (h : DeltasSound js s p)
    (hquiet : s.Quiet s') :
    DeltasSound js s' p := by
  unfold DeltasSound at h ⊢
  split_ifs at h ⊢
  · exact ⟨fun hp => (h.1 hp).congr hquiet, fun hp => (h.2 hp).congr hquiet⟩
  · exact h.congr hquiet

private theorem applyResolverPayoutDeltas_sound {p : ResolverPayout} (hs : s.SoundBooks)
    (hsound : DeltasSound js s p) :
    (run (resolverHandler js) (applyResolverPayoutDeltas js p) s).2.SoundBooks := by
  unfold applyResolverPayoutDeltas
  unfold DeltasSound at hsound
  split_ifs at hsound ⊢ with hmatched
  · obtain ⟨hrelease, hfee⟩ := hsound
    have hreleased : (run (resolverHandler js) (Resolving.when (p.bondReturnedMinorUnits > 0)
        (applyResolverBondDelta js (releaseDelta p))) s).2.SoundBooks := by
      rw [run_when]
      split_ifs with hreturned
      · exact applyResolverBondDelta_sound hs (releaseDelta_on p) (hrelease hreturned)
      · exact hs
    rw [Program.run_bind]
    rcases hrun : run (resolverHandler js) (Resolving.when (p.bondReturnedMinorUnits > 0)
      (applyResolverBondDelta js (releaseDelta p))) s with ⟨_ | _, s₁⟩
    · rw [hrun] at hreleased
      exact hreleased
    · rw [hrun] at hreleased
      simp only
      rw [run_when]
      split_ifs with hpaid
      · exact applyResolverBondDelta_sound hreleased (feeDelta_on p)
          (feeDelta_sound (hfee hpaid) hrelease hrun)
      · exact hreleased
  · exact applyResolverBondDelta_sound hs (slashDelta_on p) hsound

private theorem applyResolverPayoutDeltas_extends (js : Runtime) (p : ResolverPayout)
    (s : ResolverStore) :
    s.Extends (run (resolverHandler js) (applyResolverPayoutDeltas js p) s).2 := by
  unfold applyResolverPayoutDeltas
  split_ifs
  · have hwhen : ∀ (condition : Prop) [Decidable condition] (d : BondDelta) (s : ResolverStore),
        s.Extends (run (resolverHandler js)
          (Resolving.when condition (applyResolverBondDelta js d)) s).2 := by
      intro condition _ d s
      rw [run_when]
      split_ifs
      · exact applyResolverBondDelta_extends js d s
      · exact .refl s
    have hrelease := hwhen (p.bondReturnedMinorUnits > 0) (releaseDelta p) s
    rw [Program.run_bind]
    rcases hrun : run (resolverHandler js) (Resolving.when (p.bondReturnedMinorUnits > 0)
      (applyResolverBondDelta js (releaseDelta p))) s with ⟨_ | _, s₁⟩
    · rw [hrun] at hrelease
      exact hrelease
    · rw [hrun] at hrelease
      exact hrelease.trans (hwhen _ (feeDelta p) s₁)
  · exact applyResolverBondDelta_extends js _ s

/-- A payout marked on its assignment finds it readable if it was before. -/
theorem payoutDue_of_marked {p : ResolverPayout} {status : AssignmentStatus}
    (hunpaid : s.payouts.get? (p.assignmentId, p.panelId) = none) {a : ResolverAssignment}
    (hread : readRow (assignmentFromRow js)
      (((s.insertPayout p).updateStatus p.assignmentId status).assignments.get? p.assignmentId) =
        .ok (some a)) : PayoutDue js s p := by
  obtain ⟨row, hrow, hfrom⟩ := readRow_eq_ok_some.mp hread
  obtain ⟨hreadable, -⟩ := assignmentFromRow_eq_ok.mp hfrom
  rw [get?_updateStatus, if_pos rfl, assignments_insertPayout] at hrow
  obtain ⟨stored, hstored, rfl⟩ := Option.map_eq_some_iff.mp hrow
  exact ⟨hunpaid, stored, hstored, ⟨hreadable.1, hreadable.2, hreadable.3, hreadable.4,
    hreadable.5, hreadable.6, hreadable.7, hreadable.8, hreadable.9⟩⟩

/-- The accounting of a payout keeps the books. -/
theorem applyResolverPayoutAccounting_sound {p : ResolverPayout} (hs : s.SoundBooks)
    (hsound : (∃ a, readRow (assignmentFromRow js) (s.assignments.get? p.assignmentId) =
      .ok (some a)) → DeltasSound js s p) :
    (run (resolverHandler js) (applyResolverPayoutAccounting js p) s).2.SoundBooks ∧
      s.Extends (run (resolverHandler js) (applyResolverPayoutAccounting js p) s).2 := by
  unfold applyResolverPayoutAccounting
  rw [run_getResolverAssignment_bind]
  rcases hread : readRow (assignmentFromRow js) (s.assignments.get? p.assignmentId) with
    e | _ | a
  · exact ⟨hs, .refl s⟩
  · exact ⟨hs, .refl s⟩
  · have hbooks := applyResolverPayoutDeltas_sound hs (hsound ⟨a, hread⟩)
    have hextends := applyResolverPayoutDeltas_extends js p s
    simp only
    rw [Program.run_bind]
    rcases hrun : run (resolverHandler js) (applyResolverPayoutDeltas js p) s with ⟨_ | _, s₁⟩
    · rw [hrun] at hbooks hextends
      exact ⟨hbooks, hextends⟩
    · rw [hrun] at hbooks hextends
      obtain ⟨hsame, hmore⟩ :=
        applyResolverReputationDelta_sameBooks js a p.matchedConsensus p.createdAt s₁
      exact ⟨hbooks.congr hsame, hextends.trans hmore⟩

/-- The round of a payout keeps the books and the locks. -/
theorem insertResolverPayout_sound {p : ResolverPayout} (hs : s.SoundBooks)
    (hlocked : s.BondsLocked) (hsound : PayoutSound js s p) :
    (run (resolverHandler js) (insertResolverPayout js p) s).2.SoundBooks ∧
      (run (resolverHandler js) (insertResolverPayout js p) s).2.BondsLocked := by
  unfold insertResolverPayout
  rw [run_resolverPayoutExists_bind]
  cases hpaid : s.payouts.get? (p.assignmentId, p.panelId) with
  | some row => exact ⟨hs, hlocked⟩
  | none =>
    rw [if_neg (by simp), run_insertPayoutRow_bind, run_updateAssignmentStatus_bind]
    have hquiet := (quiet_insertPayout s p).trans (quiet_updateStatus (s.insertPayout p)
      p.assignmentId (if p.matchedConsensus then .paid else .slashed))
    obtain ⟨hbooks, hextends⟩ := applyResolverPayoutAccounting_sound
      (hs.congr hquiet.sameBooks)
      fun ⟨a, hread⟩ => (hsound (payoutDue_of_marked hpaid hread)).congr hquiet
    exact ⟨hbooks, (hquiet.extends.trans hextends).bondsLocked hlocked⟩

/-! ## Runs -/

/-- The operations of the resolver store as their callers use them. -/
inductive ResolverRequest
  | upsert (profile : ResolverRegistryProfile)
  | admin (clock : String) (request : ResolverAdminRequest)
  | panel (panel : ResolverPanel)
  | commit (commit : ResolverCommit)
  | reveal (reveal : ResolverReveal)
  | payouts (payouts : List ResolverPayout)

def ResolverRequest.program (js : Runtime) : ResolverRequest → Resolving Unit
  | .upsert profile => upsertResolverProfile js profile
  | .admin clock request => applyResolverAdminAction js clock request
  | .panel p => insertResolverPanel js p
  | .commit c => insertResolverCommit c
  | .reveal r => insertResolverReveal r
  | .payouts ps => insertResolverPayouts js ps

/-- An adjustment of a readable profile's bond is recorded under a key not used yet. -/
def AdminSound (js : Runtime) (clock : String) (request : ResolverAdminRequest)
    (s : ResolverStore) : Prop :=
  request.action = .adjustBond →
    ∀ row delta, s.profiles.get? request.resolverId = some row → row.Readable js →
      requireSignedInteger js request.bondDeltaMinorUnits "bondDeltaMinorUnits" = .ok delta →
        0 ≤ js.arithmetic.integer (row.bondAvailableMinorUnits + delta) →
          s.bondLedger.get? (LedgerOccasion.admin.label ++
              (request.resolverId ++ ":" ++ dateText js (request.now.getD clock))) = none ∧
            js.arithmetic.integer (row.bondAvailableMinorUnits + delta) =
              row.bondAvailableMinorUnits + delta

/-- What a request needs of the store to keep the books. -/
def ResolverRequest.Sound (js : Runtime) (s : ResolverStore) : ResolverRequest → Prop
  | .upsert profile => UpsertSound js s profile
  | .admin clock request => AdminSound js clock request s
  | .panel p => Resolving.EachRound js (AssignmentSound js) (insertPanelAssignment js)
      (s.insertPanel p.toResolverPanelRow) p.assignments
  | .commit _ => True
  | .reveal _ => True
  | .payouts ps => Resolving.EachRound js (PayoutSound js) (insertResolverPayout js) s ps

/-- An administrator's action either leaves the bond alone or adjusts it. -/
theorem applyDotCastResolverAdminAction_eq_ok {clock : String}
    {input : ApplyResolverAdminActionInput} {result : ResolverAdminActionResult}
    (h : applyDotCastResolverAdminAction js clock input = .ok result) :
    result.profile.resolverId = input.profile.resolverId ∧
      (result.profile.bondAvailableMinorUnits = input.profile.bondAvailableMinorUnits ∧
          result.bondLedgerEntry = none ∨
        input.action = .adjustBond ∧ ∃ delta,
          requireSignedInteger js input.bondDeltaMinorUnits "bondDeltaMinorUnits" = .ok delta ∧
          let after := js.arithmetic.integer (input.profile.bondAvailableMinorUnits + delta)
          0 ≤ after ∧ result.profile.bondAvailableMinorUnits = after ∧
            result.bondLedgerEntry = some (adminBondEntry js input.profile.resolverId delta after
              (input.now.getD clock)) ∧ result.reputationEvent = none) := by
  unfold applyDotCastResolverAdminAction at h
  cases haction : input.action with
  | activate =>
    simp only [haction, Except.pure_eq_ok, Except.ok.injEq] at h
    subst h
    exact ⟨rfl, Or.inl ⟨rfl, rfl⟩⟩
  | suspend =>
    simp only [haction, Except.pure_eq_ok, Except.ok.injEq] at h
    subst h
    exact ⟨rfl, Or.inl ⟨rfl, rfl⟩⟩
  | archive =>
    simp only [haction, Except.pure_eq_ok, Except.ok.injEq] at h
    subst h
    exact ⟨rfl, Or.inl ⟨rfl, rfl⟩⟩
  | adjustBond =>
    simp only [haction, Except.bind_eq_ok, Except.throwIf_eq_ok, Except.pure_eq_ok,
      Except.ok.injEq] at h
    obtain ⟨delta, hdelta, -, hafter, rfl⟩ := h
    exact ⟨rfl, Or.inr ⟨rfl, delta, hdelta, by omega, rfl, rfl, rfl⟩⟩
  | adjustReputation =>
    simp only [haction, Except.bind_eq_ok, Except.pure_eq_ok, Except.ok.injEq] at h
    obtain ⟨delta, -, rfl⟩ := h
    exact ⟨rfl, Or.inl ⟨rfl, rfl⟩⟩

private theorem run_whenSome_quiet (js : Runtime) (event : Option ResolverReputationEvent)
    (s : ResolverStore) :
    s.Quiet (run (resolverHandler js)
      (Resolving.whenSome event Resolving.insertResolverReputationEvent) s).2 := by
  rw [run_whenSome]
  cases event with
  | none => exact .refl s
  | some e => exact quiet_insertReputationEvent s e

/-- An administrator's action keeps the books. -/
theorem applyResolverAdminAction_sound {clock : String} {request : ResolverAdminRequest}
    (hs : s.SoundBooks) (hsound : AdminSound js clock request s) :
    (run (resolverHandler js) (applyResolverAdminAction js clock request) s).2.SoundBooks ∧
      s.Extends (run (resolverHandler js) (applyResolverAdminAction js clock request) s).2 := by
  unfold applyResolverAdminAction
  rw [run_getResolverProfile_bind]
  rcases readRow_profile_cases js s request.resolverId with ⟨e, hread, -⟩ | ⟨hread, -⟩ |
    ⟨row, hrow, hreadable, hread⟩
  · rw [hread]
    exact ⟨hs, .refl s⟩
  · rw [hread]
    exact ⟨hs, .refl s⟩
  · rw [hread]
    simp only
    generalize hinput : ApplyResolverAdminActionInput.mk _ request.action
      request.bondDeltaMinorUnits request.reputationDeltaBps request.now = input
    rcases hresult : applyDotCastResolverAdminAction js clock input with e | result
    · exact ⟨hs, .refl s⟩
    · have hid : row.resolverId = request.resolverId := (s.profiles_ok _ _ hrow).1
      have hbalance : s.bondAvailable row.resolverId = row.bondAvailableMinorUnits := by
        rw [bondAvailable, hid, hrow]
        rfl
      obtain ⟨hresolver, hcases⟩ := applyDotCastResolverAdminAction_eq_ok hresult
      rw [Program.ok_bind, run_updateResolverProfile_bind]
      rcases writeProfile_cases s result.profile with ⟨e, hwrite, -⟩ |
        ⟨hvalid, hp, htaken, hwrite⟩
      · rw [hwrite]
        exact ⟨hs, .refl s⟩
      · rw [hwrite]
        simp only
        have hput := extends_putProfile s hvalid
        rcases hcases with ⟨hbond, hentry⟩ | ⟨haction, delta, hdelta, hafter, hbond, hentry, hevent⟩
        · have hsame : s.SameBooks (s.putProfile (s.upsertedProfile result.profile) hvalid) := by
            refine sameBooks_putProfile hvalid ?_
            rw [upsertedProfile_bond, upsertedProfile_resolverId, hbond, hresolver, ← hinput]
            exact hbalance.symm
          have hquiet := run_whenSome_quiet js result.reputationEvent
            (s.putProfile (s.upsertedProfile result.profile) hvalid)
          rw [hentry]
          exact ⟨hs.congr (hsame.trans hquiet.sameBooks), hput.trans hquiet.extends⟩
        · subst hinput
          obtain ⟨hfree, hexact⟩ := hsound haction row delta hrow hreadable hdelta hafter
          rw [← hid, ← adminBondEntry_entryId js row.resolverId _ delta
            (js.arithmetic.integer (row.bondAvailableMinorUnits + delta))] at hfree
          have hposted := posted_putProfile hvalid hfree
            ((upsertedProfile_resolverId s result.profile).trans hresolver).symm (by
              rw [upsertedProfile_bond, upsertedProfile_resolverId, hbond, hresolver]
              show _ = delta + s.bondAvailable row.resolverId
              rw [hbalance]
              exact hexact.trans (add_comm _ _)) hafter
          rw [hentry, hevent]
          exact ⟨hs.post hposted (keys_adminBondEntry js row.resolverId _ delta _) (by simp)
            (by simp), hput.trans (extends_insertBondLedgerEntry _ _)⟩

/-- The stores that runs of sound requests lead to. -/
inductive SoundRun (js : Runtime) : ResolverStore → Prop
  | empty : SoundRun js .empty
  | step {s : ResolverStore} (request : ResolverRequest) (h : SoundRun js s)
      (hsound : request.Sound js s) :
      SoundRun js (run (resolverHandler js) (request.program js) s).2

private theorem ResolverRequest.sound_step {request : ResolverRequest} (hs : s.SoundBooks)
    (hlocked : s.BondsLocked) (hsound : request.Sound js s) :
    (run (resolverHandler js) (request.program js) s).2.SoundBooks ∧
      (run (resolverHandler js) (request.program js) s).2.BondsLocked := by
  cases request with
  | upsert profile =>
    exact ⟨upsertResolverProfile_sound hs hsound,
      (upsertResolverProfile_extends js profile s).bondsLocked hlocked⟩
  | admin clock request =>
    obtain ⟨hbooks, hextends⟩ := applyResolverAdminAction_sound hs hsound
    exact ⟨hbooks, hextends.bondsLocked hlocked⟩
  | panel p =>
    have hquiet := quiet_insertPanel s p.toResolverPanelRow
    exact forEach_preserves (P := fun s => s.SoundBooks ∧ s.BondsLocked)
      (fun s a hP ha => insertPanelAssignment_sound hP.1 hP.2 ha)
      ⟨hs.congr hquiet.sameBooks, hquiet.extends.bondsLocked hlocked⟩ hsound
  | commit c =>
    have hquiet := (quiet_insertCommit s c).trans
      (quiet_updateStatus (s.insertCommit c) c.assignmentId .committed)
    exact ⟨hs.congr hquiet.sameBooks, hquiet.extends.bondsLocked hlocked⟩
  | reveal r =>
    have hquiet := (quiet_insertReveal s r).trans
      (quiet_updateStatus (s.insertReveal r) r.assignmentId .revealed)
    exact ⟨hs.congr hquiet.sameBooks, hquiet.extends.bondsLocked hlocked⟩
  | payouts ps =>
    exact forEach_preserves (P := fun s => s.SoundBooks ∧ s.BondsLocked)
      (fun s p hP hp => insertResolverPayout_sound hP.1 hP.2 hp) ⟨hs, hlocked⟩ hsound

/-- Every run of sound requests keeps sound books and locked bonds. -/
theorem SoundRun.books (h : SoundRun js s) : s.SoundBooks ∧ s.BondsLocked := by
  induction h with
  | empty => exact ⟨soundBooks_empty, fun _ h => by simp [ResolverStore.empty] at h⟩
  | step request _ hsound ih => exact request.sound_step ih.1 ih.2 hsound

/-! ## What sound books say -/

/-- The row is one of an assignment's events of the given types. -/
def ResolverBondLedgerEntry.IsEvent (types : List BondLedgerEventType) (assignmentId : String)
    (e : ResolverBondLedgerEntry) : Prop :=
  e.eventType ∈ types ∧ e.assignmentId = some assignmentId

instance (types : List BondLedgerEventType) (assignmentId : String)
    (e : ResolverBondLedgerEntry) : Decidable (e.IsEvent types assignmentId) :=
  inferInstanceAs (Decidable (_ ∧ _))

namespace ResolverStore

/-- How many ledger rows an assignment has of the given event types. -/
def countEvents (s : ResolverStore) (types : List BondLedgerEventType) (assignmentId : String) :
    ℕ :=
  (s.bondLedger.rows.filter fun e => e.IsEvent types assignmentId).length

/-- Every balance is the non-negative sum of its ledger rows, every assignment has one lock
and at most one release or slash, and what is released was locked. -/
structure BondsAccounted (s : ResolverStore) : Prop where
  nonneg : ∀ resolverId, 0 ≤ s.bondAvailable resolverId
  balanced : ∀ resolverId, s.bondAvailable resolverId = s.bondLedgerSum resolverId
  locked : ∀ assignmentId, (s.assignments.get? assignmentId).isSome →
    s.countEvents [.assignmentLocked] assignmentId = 1
  closed : ∀ assignmentId, s.countEvents [.bondReleased, .bondSlashed] assignmentId ≤ 1
  returned : ∀ e ∈ s.bondLedger.rows, e.eventType = .bondReleased →
    ∃ assignmentId, e.assignmentId = some assignmentId ∧
      (s.assignments.get? assignmentId).isSome ∧ ∃ l ∈ s.bondLedger.rows,
        l.IsEvent [.assignmentLocked] assignmentId ∧ l.deltaMinorUnits = -e.deltaMinorUnits

/-- In sound books an assignment's event of an occasion is under the occasion's key. -/
theorem SoundBooks.bondEntry_of_event (hs : s.SoundBooks) {o : LedgerOccasion}
    (ho : o.OfAssignment) {id assignmentId : String} {e : ResolverBondLedgerEntry}
    (he : s.bondLedger.get? id = some e) (hevent : e.IsEvent o.events assignmentId) :
    id = o.label ++ assignmentId ∧ s.bondEntry o assignmentId = some e := by
  obtain ⟨k, hkeys⟩ := hs.keyed id e he
  have hid : id = o.label ++ assignmentId := by
    rw [← (s.bondLedger_ok id e he).1]
    exact hkeys.entryId_of_mem_events ho hevent.1 hevent.2
  exact ⟨hid, by rw [bondEntry, ← hid, he]⟩

private theorem SoundBooks.isEvent (hs : s.SoundBooks) {o : LedgerOccasion} (ho : o.OfAssignment)
    {assignmentId : String} {e : ResolverBondLedgerEntry}
    (he : s.bondEntry o assignmentId = some e) : e.IsEvent o.events assignmentId := by
  obtain ⟨k, hkeys⟩ := hs.keyed _ e he
  obtain ⟨rfl, hassignment⟩ := hkeys.of_entryId ho (s.bondLedger_ok _ _ he).1
  exact ⟨hkeys.1, hassignment⟩

/-- Events that can stand under one key only are at most one. -/
theorem countEvents_le_one {types : List BondLedgerEventType} {assignmentId : String}
    (key : String)
    (h : ∀ id e, s.bondLedger.get? id = some e → e.IsEvent types assignmentId → id = key) :
    s.countEvents types assignmentId ≤ 1 := by
  rw [countEvents, Rows.length_filter_rows_eq h]
  cases s.bondLedger.get? key with
  | none => exact Nat.zero_le 1
  | some e =>
    simp only [Option.elim_some]
    split_ifs <;> omega

private theorem mem_releasedOrSlashed {t : BondLedgerEventType} :
    t ∈ [BondLedgerEventType.bondReleased, .bondSlashed] ↔
      t = .bondReleased ∨ t = .bondSlashed := by
  simp

/-- Sound books with locked bonds are accounted for. -/
theorem SoundBooks.accounted (hs : s.SoundBooks) (hlocked : s.BondsLocked) :
    s.BondsAccounted where
  nonneg resolverId := by
    unfold bondAvailable
    cases hrow : s.profiles.get? resolverId with
    | none => exact le_rfl
    | some row => exact (s.profiles_ok _ _ hrow).2.2
  balanced := hs.balanced
  locked assignmentId hassigned := by
    obtain ⟨e, he⟩ := Option.isSome_iff_exists.mp (hlocked assignmentId hassigned)
    have honly : ∀ id e, s.bondLedger.get? id = some e →
        e.IsEvent [.assignmentLocked] assignmentId →
          id = LedgerOccasion.lock.label ++ assignmentId :=
      fun id e he hevent => (hs.bondEntry_of_event (o := .lock) (by decide) he hevent).1
    rw [countEvents, Rows.length_filter_rows_eq honly]
    have hevent := hs.isEvent (o := .lock) (by decide) he
    rw [bondEntry] at he
    rw [he]
    exact if_pos hevent
  closed assignmentId := by
    -- Only the key of the occasion that has an entry can hold such an event.
    rcases hs.closed assignmentId with hrelease | hslash
    · refine countEvents_le_one (LedgerOccasion.slash.label ++ assignmentId)
        fun id e he hevent => ?_
      rcases mem_releasedOrSlashed.mp hevent.1 with htype | htype
      · have hentry := (hs.bondEntry_of_event (o := .release) (by decide) he
          ⟨List.mem_singleton.mpr htype, hevent.2⟩).2
        exact absurd (hrelease.symm.trans hentry) (by simp)
      · exact (hs.bondEntry_of_event (o := .slash) (by decide) he
          ⟨List.mem_singleton.mpr htype, hevent.2⟩).1
    · refine countEvents_le_one (LedgerOccasion.release.label ++ assignmentId)
        fun id e he hevent => ?_
      rcases mem_releasedOrSlashed.mp hevent.1 with htype | htype
      · exact (hs.bondEntry_of_event (o := .release) (by decide) he
          ⟨List.mem_singleton.mpr htype, hevent.2⟩).1
      · have hentry := (hs.bondEntry_of_event (o := .slash) (by decide) he
          ⟨List.mem_singleton.mpr htype, hevent.2⟩).2
        exact absurd (hslash.symm.trans hentry) (by simp)
  returned e he htype := by
    obtain ⟨id, hid⟩ := Rows.mem_rows_iff.mp he
    obtain ⟨k, hkeys⟩ := hs.keyed id e hid
    obtain ⟨assignmentId, hassignment, -⟩ := hkeys.exists_assignmentId (k := .release) (by decide)
      (List.mem_singleton.mpr htype)
    have hentry := (hs.bondEntry_of_event (o := .release) (by decide) hid
      ⟨List.mem_singleton.mpr htype, hassignment⟩).2
    obtain ⟨hassigned, l, hl, hdelta⟩ := hs.returned assignmentId e hentry
    exact ⟨assignmentId, hassignment, hassigned, l, Rows.mem_rows_iff.mpr ⟨_, hl⟩,
      hs.isEvent (o := .lock) (by decide) hl, hdelta⟩

end ResolverStore

/-- In every store that sound requests lead to, bonds are accounted for. -/
theorem sound_run_accounts_bonds (h : SoundRun js s) : s.BondsAccounted :=
  h.books.1.accounted h.books.2

private def ada (bond : ℤ) (updatedAt : String) : ResolverRegistryProfile where
  resolverId := "ada"
  identityHash := "hash-ada"
  status := .active
  displayName := none
  reputationBps := 7500
  bondAvailableMinorUnits := bond
  stakeHeldPoolIds := []
  createdAt := "2026-07-01T12:00:00.000Z"
  updatedAt := updatedAt

private def adaAssignment (bond : ℤ) : ResolverAssignment where
  assignmentId := "panel-1:assignment:1"
  panelId := "panel-1"
  poolId := "pool-1"
  routeId := "route-1"
  resolverId := "ada"
  identityHash := "hash-ada"
  reputationBps := 7500
  bondMinorUnits := bond
  status := .assigned
  assignedAt := "2026-07-01T13:00:00.000Z"

private def adaPanel (bond : ℤ) : ResolverPanel where
  panelId := "panel-1"
  poolId := "pool-1"
  routeId := "route-1"
  tier := .humanJury
  panelSize := 1
  estimatedStakeMinorUnits := 1000
  resolverFeeBps := 100
  createdAt := "2026-07-01T13:00:00.000Z"
  assignments := [adaAssignment bond]

private abbrev jsDouble : Runtime := JavaScript.reference .double

/-- The store a list of requests leaves. -/
def ResolverStore.after (js : Runtime) (s : ResolverStore) (requests : List ResolverRequest) :
    ResolverStore :=
  requests.foldl (fun s request => (run (resolverHandler js) (request.program js) s).2) s

private def onboardAda : ResolverRequest := .upsert (ada 500 "2026-07-01T12:00:00.000Z")

/-- A registered resolver is put on a panel whose bond it has. -/
theorem sound_run_accounts_bonds_panel :
    (ResolverStore.empty.after jsDouble [onboardAda, .panel (adaPanel 200)]).bondAvailable
        "ada" = 300 ∧
      (ResolverStore.empty.after jsDouble
        [onboardAda, .panel (adaPanel 200)]).BondsAccounted := by
  refine ⟨by decide +kernel, sound_run_accounts_bonds (.step _ (.step _ .empty ?_) ?_)⟩
  · intro row hrow
    simp [ResolverStore.empty] at hrow
  · have hrow : ((ResolverStore.empty.after jsDouble [onboardAda]).insertPanel
        (adaPanel 200).toResolverPanelRow).profiles.get? (adaAssignment 200).resolverId =
          some (ada 500 "2026-07-01T12:00:00.000Z") := by decide +kernel
    have hreadable : (ada 500 "2026-07-01T12:00:00.000Z").Readable jsDouble :=
      ⟨by decide, by decide, by decide, by decide, by decide, by decide⟩
    refine ⟨fun _ => ⟨fun _ => ?_, ?_⟩, fun _ _ => trivial⟩
    · show CanLock jsDouble ((ResolverStore.empty.after jsDouble [onboardAda]).insertPanel _) _
      rw [CanLock, hrow]
      exact ⟨hreadable, by decide +kernel⟩
    · intro row hrow' _ _
      obtain rfl := Option.some.inj (hrow.symm.trans hrow')
      decide +kernel

/-- Two updates of a profile at one instant: the second changes the balance, but its ledger
row has the key of the first and is ignored. A panel is refused for lack of bond, but its
assignment stays stored, without a lock. -/
theorem same_instant_updates_unbalance :
    (ResolverStore.empty.after jsDouble
        [.upsert (ada 100 "2026-07-01T12:00:00.000Z"), .upsert (ada 150 "2026-07-02T12:00:00.000Z"),
          .upsert (ada 120 "2026-07-02T12:00:00.000Z")]).bondAvailable "ada" = 120 ∧
      (ResolverStore.empty.after jsDouble
        [.upsert (ada 100 "2026-07-01T12:00:00.000Z"), .upsert (ada 150 "2026-07-02T12:00:00.000Z"),
          .upsert (ada 120 "2026-07-02T12:00:00.000Z")]).bondLedgerSum "ada" = 150 ∧
      ¬(ResolverStore.empty.after jsDouble
        [.upsert (ada 100 "2026-07-01T12:00:00.000Z"), .upsert (ada 150 "2026-07-02T12:00:00.000Z"),
          .upsert (ada 120 "2026-07-02T12:00:00.000Z")]).BondsAccounted ∧
      ¬(ResolverStore.empty.after jsDouble [onboardAda, .panel (adaPanel 600)]).BondsAccounted := by
  refine ⟨by decide +kernel, by decide +kernel, fun h => ?_, fun h => ?_⟩
  · exact absurd (h.balanced "ada") (by decide +kernel)
  · exact absurd (h.locked "panel-1:assignment:1" (by decide +kernel)) (by decide +kernel)

end Yevow.DotCast
