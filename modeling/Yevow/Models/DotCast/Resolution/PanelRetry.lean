import Yevow.Models.DotCast.Resolution.BondSafety
import Yevow.Models.DotCast.Resolution.Retry

/-!
# Planning a panel again after a fault

Everything a round does is found done by the next call, with two exceptions. A registration writes
the profile before its ledger rows, and a profile is not registered twice. A lock writes the
balance before its ledger row, and without the row the bond is locked once more.
-/

namespace Yevow.DotCast

open JavaScript (Runtime)
open Program (run Struck Retried)
open ResolverStore

namespace ResolverOp

/-- The insertion of a ledger row that a second call does not make up for. -/
def LosesEntry : ResolverOp → Prop
  | insertResolverBondLedgerEntry e => e.eventType = .resolverOnboarded ∨ e.deltaMinorUnits ≠ 0
  | _ => False

end ResolverOp

variable {js : Runtime} {s s' t u : ResolverStore} {fault : Fault} {op : ResolverOp}
  {a c : ResolverAssignment}

/-- An assignment as it is handed over: it passes the checks and can be read back. -/
structure ResolverAssignment.Due (js : Runtime) (a : ResolverAssignment) : Prop where
  valid : a.Valid
  readable : a.Readable js

/-! ## Balances -/

/-- A lock is computed without rounding. -/
theorem balanceAfter_lockDelta (hsafe : js.arithmetic.Gapless) (ha : a.Due js)
    {row : ResolverRegistryProfile} (hvalid : row.Valid) (hreadable : row.Readable js) :
    (lockDelta a).balanceAfter js row = row.bondAvailableMinorUnits - a.bondMinorUnits ∧
      js.arithmetic.isSafeInteger ((lockDelta a).balanceAfter js row) = true := by
  have hbond := ha.valid.2
  have hrow := hvalid.2
  have hdefinition : (lockDelta a).balanceAfter js row =
    js.arithmetic.integer (row.bondAvailableMinorUnits + -a.bondMinorUnits) := rfl
  rw [hdefinition]
  have hsum : js.arithmetic.isSafeInteger (row.bondAvailableMinorUnits + -a.bondMinorUnits) =
      true := by
    rcases le_total a.bondMinorUnits row.bondAvailableMinorUnits with hle | hle
    · apply hsafe _ hreadable.bond
      rw [abs_of_nonneg (by omega), abs_of_nonneg hrow]
      omega
    · apply hsafe _ ha.readable.bond
      rw [abs_of_nonpos (by omega), abs_of_nonneg hbond]
      omega
  rw [js.arithmetic.integer_of_safe hsum]
  exact ⟨by ring, hsum⟩

/-- A profile is still readable after a lock. -/
theorem readable_withBond (hsafe : js.arithmetic.Gapless) (ha : a.Due js)
    {row : ResolverRegistryProfile} (hvalid : row.Valid) (hreadable : row.Readable js) :
    (row.withBond ((lockDelta a).balanceAfter js row) a.assignedAt).Readable js where
  resolverId := hreadable.resolverId
  identityHash := hreadable.identityHash
  reputationBps := hreadable.reputationBps
  bond := (balanceAfter_lockDelta hsafe ha hvalid hreadable).2
  createdAt := hreadable.createdAt
  updatedAt := ha.readable.assignedAt

private theorem readable_assignedProfile (ha : a.Due js) : (assignedProfile a).Readable js :=
  ⟨ha.readable.resolverId, ha.readable.identityHash, ha.readable.reputationBps, ha.readable.bond,
    ha.readable.assignedAt, ha.readable.assignedAt⟩

/-! ## What a round carries over -/

/-- Assignments stay stored, profiles readable and ledger rows as they are. -/
structure ResolverStore.Carries (js : Runtime) (s s' : ResolverStore) : Prop where
  seats : ∀ a, s'.Insertable a → s.Insertable a
  readable : ∀ resolverId row, s.profiles.get? resolverId = some row → row.Readable js →
    ∃ row', s'.profiles.get? resolverId = some row' ∧ row'.Readable js
  ledger : ∀ id e, s.bondLedger.get? id = some e → s'.bondLedger.get? id = some e

namespace ResolverStore

private theorem Carries.refl (s : ResolverStore) : s.Carries js s :=
  ⟨fun _ h => h, fun _ row hrow h => ⟨row, hrow, h⟩, fun _ _ h => h⟩

private theorem Carries.trans (h : s.Carries js t) (h' : t.Carries js u) : s.Carries js u := by
  constructor
  · exact fun a ha => h.seats a (h'.seats a ha)
  · intro resolverId row hrow hreadable
    obtain ⟨row', hrow', hreadable'⟩ := h.readable resolverId row hrow hreadable
    exact h'.readable resolverId row' hrow' hreadable'
  · exact fun id e he => h'.ledger id e (h.ledger id e he)

/-- No assignment is inserted twice. -/
theorem not_insertable_insertAssignment (s : ResolverStore) (a : ResolverAssignment) :
    ¬(s.insertAssignment a).Insertable a := by
  rcases insertAssignment_cases s a with hsame | ⟨hvalid, -, hput⟩
  · rw [hsame]
    unfold insertAssignment at hsame
    intro h
    rw [dif_pos h] at hsame
    have hget := h.1
    rw [← hsame] at hget
    exact absurd ((Rows.get?_set_self _ _ _).symm.trans hget) (by simp)
  · rw [hput]
    rintro ⟨hnone, -⟩
    exact absurd ((Rows.get?_set_self _ _ _).symm.trans hnone) (by simp)

private theorem insertAssignment_of_not (h : ¬s.Insertable a) :
    s.insertAssignment a = s := dif_neg h

private theorem carries_insertAssignment (s : ResolverStore) (a : ResolverAssignment) :
    s.Carries js (s.insertAssignment a) := by
  rcases insertAssignment_cases s a with hsame | ⟨hvalid, hinsertable, hput⟩
  · rw [hsame]
    exact .refl s
  · rw [hput]
    refine ⟨fun c hc => ?_, fun _ row hrow h => ⟨row, hrow, h⟩, fun _ _ h => h⟩
    obtain ⟨hnone, hseat, hc⟩ := hc
    have hget : ∀ id, (s.putAssignment a hvalid).assignments.get? id =
      if id = a.assignmentId then some a else s.assignments.get? id :=
        fun id => Rows.get?_set _ _ id _
    have hkept : ∀ id b, s.assignments.get? id = some b →
        (s.putAssignment a hvalid).assignments.get? id = some b := by
      intro id b hb
      rw [hget, if_neg]
      · exact hb
      · rintro rfl
        rw [hinsertable.1] at hb
        cases hb
    refine ⟨?_, ?_, hc⟩
    · cases hc' : s.assignments.get? c.assignmentId with
      | none => rfl
      | some b =>
        rw [hkept _ b hc'] at hnone
        cases hnone
    · rintro ⟨⟨id, b⟩, hmem, htaken⟩
      exact hseat ⟨(id, b), Rows.mem_entries_iff.mpr (hkept id b (Rows.mem_entries_iff.mp hmem)),
        htaken⟩

private theorem carries_insertBondLedgerEntry (s : ResolverStore) (e : ResolverBondLedgerEntry) :
    s.Carries js (s.insertBondLedgerEntry e) := by
  unfold insertBondLedgerEntry
  split_ifs with h
  · refine ⟨fun _ h => h, fun _ row hrow h => ⟨row, hrow, h⟩, fun id e' he => ?_⟩
    show (s.bondLedger.set e.entryId e).get? id = some e'
    rw [Rows.get?_set, if_neg]
    · exact he
    · rintro rfl
      rw [h.1] at he
      cases he
  · exact .refl s

private theorem carries_putProfile {p : ResolverRegistryProfile} (hp : p.Valid)
    (h : s.profiles.get? p.resolverId = none ∨ p.Readable js) :
    s.Carries js (s.putProfile p hp) := by
  refine ⟨fun _ h => h, fun id row hrow hreadable => ?_, fun _ _ h => h⟩
  have hget : (s.putProfile p hp).profiles.get? id =
    if id = p.resolverId then some p else s.profiles.get? id := Rows.get?_set _ _ _ _
  rw [hget]
  split_ifs with hid
  · rcases h with hnone | hp
    · rw [hid, hnone] at hrow
      cases hrow
    · exact ⟨p, rfl, hp⟩
  · exact ⟨row, hrow, hreadable⟩

end ResolverStore

/-! ## Where a fault strikes -/

/-- A fault in a movement comes before its writes, or between the balance and the row. -/
theorem struck_applyResolverBondDelta {d : BondDelta}
    (hstruck : Struck (resolverHandler js) fault (applyResolverBondDelta js d) s op t) :
    (¬op.LosesEntry ∧ t = s) ∨
      ∃ row hvalid, s.bondLedger.get? d.entryId = none ∧
        s.profiles.get? d.resolverId = some row ∧ row.Readable js ∧
        op = .insertResolverBondLedgerEntry (d.entry (d.balanceAfter js row)) ∧
        t = s.putProfile (row.withBond (d.balanceAfter js row) d.createdAt) hvalid := by
  unfold applyResolverBondDelta at hstruck
  rcases hstruck.perform_bind with ⟨rfl, hsame⟩ | ⟨posted, s₁, hserved, hrest⟩
  · exact Or.inl ⟨id, hsame⟩
  obtain ⟨hposted, rfl⟩ := Prod.mk.inj hserved
  obtain rfl := Except.ok.inj hposted
  cases hentry : s.bondLedger.get? d.entryId with
  | some e =>
    rw [hentry] at hrest
    exact absurd hrest Program.not_struck_done
  | none =>
    rw [hentry, Option.isSome_none, if_neg Bool.false_ne_true] at hrest
    rcases hrest.perform_bind with ⟨rfl, hsame⟩ | ⟨profile, s₁, hserved, hread⟩
    · exact Or.inl ⟨id, hsame⟩
    obtain ⟨hprofile, rfl⟩ := Prod.mk.inj hserved
    rcases readRow_profile_cases js s d.resolverId with ⟨e, hrow, -⟩ | ⟨hrow, -⟩ |
      ⟨row, hget, hreadable, hrow⟩
    · rw [hrow] at hprofile
      cases hprofile
    · rw [hrow] at hprofile
      obtain rfl := Except.ok.inj hprofile
      exact absurd hread Program.not_struck_done
    · rw [hrow] at hprofile
      obtain rfl := Except.ok.inj hprofile
      change Struck _ _ (if d.balanceAfter js row < 0 then _ else
        Resolving.updateProfileBond d.resolverId (d.balanceAfter js row) d.createdAt >>= _) _ _ _
        at hread
      split_ifs at hread with hafter
      · exact absurd hread Program.not_struck_done
      · rcases hread.perform_bind with ⟨rfl, hsame⟩ | ⟨_, s₁, hserved, hlast⟩
        · exact Or.inl ⟨id, hsame⟩
        have hvalid : (row.withBond (d.balanceAfter js row) d.createdAt).Valid :=
          ⟨(s.profiles_ok _ _ hget).2.1, not_lt.mp hafter⟩
        have hupdate :
          s.updateProfile d.resolverId (·.withBond (d.balanceAfter js row) d.createdAt) =
            (.ok (), s.putProfile (row.withBond (d.balanceAfter js row) d.createdAt) hvalid) := by
          rw [updateProfile, hget]
          exact dif_pos hvalid
        obtain ⟨-, rfl⟩ := Prod.mk.inj (hupdate.symm.trans hserved)
        obtain ⟨rfl, hsame⟩ := hlast.perform
        exact Or.inr ⟨row, hvalid, rfl, hget, hreadable, rfl, hsame⟩

/-- The profile of a newcomer, written before its ledger rows. -/
def newcomer (s : ResolverStore) (a : ResolverAssignment)
    (hvalid : (s.upsertedProfile (assignedProfile a)).Valid) : ResolverStore :=
  s.putProfile (s.upsertedProfile (assignedProfile a)) hvalid

/-- A fault while a profile is ensured comes before its registration, or before one of the rows of
the registration. -/
theorem struck_ensureResolverProfile
    (hstruck : Struck (resolverHandler js) fault (ensureResolverProfileForAssignment js a) s op t) :
    (¬op.LosesEntry ∧ t = s) ∨ s.profiles.get? a.resolverId = none ∧ ∃ hvalid,
      (op = .insertResolverBondLedgerEntry (onboardedEntry js (assignedProfile a)) ∧
        t = newcomer s a hvalid) ∨
      (op = .insertResolverBondLedgerEntry (depositEntry js (assignedProfile a)) ∧
        0 < a.bondMinorUnits ∧
        t =
          (newcomer s a hvalid).insertBondLedgerEntry (onboardedEntry js (assignedProfile a))) := by
  unfold ensureResolverProfileForAssignment at hstruck
  rcases hstruck.perform_bind with ⟨rfl, hsame⟩ | ⟨profile, s₁, hserved, hrest⟩
  · exact Or.inl ⟨id, hsame⟩
  obtain ⟨hprofile, rfl⟩ := Prod.mk.inj hserved
  cases profile with
  | some p => exact absurd hrest Program.not_struck_done
  | none =>
    have hnone : s.profiles.get? a.resolverId = none := readRow_eq_ok_none.mp hprofile
    simp only at hrest
    unfold upsertResolverProfile at hrest
    rcases hrest.perform_bind with ⟨rfl, hsame⟩ | ⟨existing, s₁, hserved, hwrite⟩
    · exact Or.inl ⟨id, hsame⟩
    obtain ⟨hexisting, rfl⟩ := Prod.mk.inj hserved
    have hread : existing = none :=
      Except.ok.inj (hexisting.symm.trans (hprofile : readRow (resolverProfileFromRow js)
        (s.profiles.get? (assignedProfile a).resolverId) = .ok none))
    rcases hwrite.perform_bind with ⟨rfl, hsame⟩ | ⟨_, s₁, hserved, hrows⟩
    · exact Or.inl ⟨id, hsame⟩
    rcases writeProfile_cases s (assignedProfile a) with ⟨e, hrefused, -⟩ | ⟨hvalid, -, -, hwritten⟩
    · cases (Prod.mk.inj (hrefused.symm.trans hserved)).1
    obtain ⟨-, rfl⟩ := Prod.mk.inj (hwritten.symm.trans hserved)
    rw [hread] at hrows
    simp only at hrows
    rcases hrows.perform_bind with ⟨rfl, hsame⟩ | ⟨_, s₁, hserved, hdeposit⟩
    · exact Or.inr ⟨hnone, hvalid, Or.inl ⟨rfl, hsame⟩⟩
    obtain ⟨-, rfl⟩ := Prod.mk.inj hserved
    unfold Resolving.when at hdeposit
    split_ifs at hdeposit with hbond
    · obtain ⟨rfl, hsame⟩ := hdeposit.perform
      exact Or.inr ⟨hnone, hvalid, Or.inr ⟨rfl, hbond, hsame⟩⟩
    · exact absurd hdeposit Program.not_struck_done

private theorem propagates_ensureResolverProfile (js : Runtime) (a : ResolverAssignment) :
    (ensureResolverProfileForAssignment js a).Propagates := by
  unfold ensureResolverProfileForAssignment
  refine (Program.propagates_perform _).bind fun profile => ?_
  cases profile with
  | some p => trivial
  | none =>
    refine (Program.propagates_perform _).bind fun existing =>
      (Program.propagates_perform _).bind fun _ => ?_
    cases existing with
    | none =>
      exact (Program.propagates_perform _).bind fun _ =>
        propagates_when (Program.propagates_perform _)
    | some p => exact propagates_when (Program.propagates_perform _)

private theorem propagates_insertPanelAssignment (js : Runtime) (a : ResolverAssignment) :
    (insertPanelAssignment js a).Propagates :=
  (Program.propagates_perform _).bind fun _ =>
    (propagates_ensureResolverProfile js a).bind fun _ => propagates_applyResolverBondDelta js _

/-! ## Rounds -/

/-- A round that is done with: the seat is taken, the profile readable and the lock recorded. -/
structure Settled (js : Runtime) (a : ResolverAssignment) (s : ResolverStore) : Prop where
  seat : ¬s.Insertable a
  profile : ∃ row, s.profiles.get? a.resolverId = some row ∧ row.Readable js
  lock : (s.bondEntry .lock a.assignmentId).isSome

private theorem Settled.carries (h : Settled js a s) (hcarries : s.Carries js t) :
    Settled js a t where
  seat hinsertable := h.seat (hcarries.seats a hinsertable)
  profile := by
    obtain ⟨row, hrow, hreadable⟩ := h.profile
    exact hcarries.readable _ row hrow hreadable
  lock := by
    obtain ⟨e, he⟩ := Option.isSome_iff_exists.mp h.lock
    exact Option.isSome_iff_exists.mpr ⟨e, hcarries.ledger _ e he⟩

private theorem run_ensure_of_stored {row : ResolverRegistryProfile}
    (hrow : s.profiles.get? a.resolverId = some row) (hreadable : row.Readable js) :
    run (resolverHandler js) (ensureResolverProfileForAssignment js a) s = (.ok (), s) := by
  rcases ensureResolverProfile_cases js a s with ⟨e, hrun, -⟩ | ⟨hrun, -⟩ | ⟨hnone, -⟩
  · unfold ensureResolverProfileForAssignment at hrun ⊢
    rw [run_getResolverProfile_bind, hrow, readRow,
      resolverProfileFromRow_eq_ok.mpr ⟨hreadable, rfl⟩]
    rfl
  · exact hrun
  · rw [hrow] at hnone
    cases hnone

private theorem run_round_eq (js : Runtime) (a : ResolverAssignment) (s : ResolverStore) :
    run (resolverHandler js) (insertPanelAssignment js a) s =
      match run (resolverHandler js) (ensureResolverProfileForAssignment js a)
        (s.insertAssignment a) with
      | (.ok _, s₂) => run (resolverHandler js) (applyResolverBondDelta js (lockDelta a)) s₂
      | (.error e, s₂) => (.error e, s₂) := by
  unfold insertPanelAssignment
  rw [run_insertAssignment_bind, Program.run_bind]
  rcases run (resolverHandler js) (ensureResolverProfileForAssignment js a)
    (s.insertAssignment a) with ⟨_ | _, _⟩ <;> rfl

/-- A round that is done with does nothing. -/
theorem Settled.run_round (h : Settled js a s) :
    run (resolverHandler js) (insertPanelAssignment js a) s = (.ok (), s) := by
  obtain ⟨row, hrow, hreadable⟩ := h.profile
  rw [run_round_eq, insertAssignment_of_not h.seat, run_ensure_of_stored hrow hreadable]
  exact run_applyResolverBondDelta_of_entry h.lock

private theorem carries_onboarded (hnone : s.profiles.get? a.resolverId = none)
    (hvalid : (s.upsertedProfile (assignedProfile a)).Valid) :
    s.Carries js (s.onboarded js (assignedProfile a) hvalid) := by
  have hput : s.Carries js (newcomer s a hvalid) :=
    carries_putProfile hvalid (Or.inl (by rw [upsertedProfile_resolverId]; exact hnone))
  have hopened :=
    hput.trans (carries_insertBondLedgerEntry _ (onboardedEntry js (assignedProfile a)))
  unfold onboarded
  split_ifs
  · exact hopened.trans (carries_insertBondLedgerEntry _ _)
  · exact hopened

/-- Ensuring a profile carries everything over, and when it succeeds the profile is readable. -/
theorem carries_ensure (ha : a.Due js) (s : ResolverStore) :
    s.Carries js (run (resolverHandler js) (ensureResolverProfileForAssignment js a) s).2 ∧
      ∀ s₂, run (resolverHandler js) (ensureResolverProfileForAssignment js a) s = (.ok (), s₂) →
        ∃ row, s₂.profiles.get? a.resolverId = some row ∧ row.Readable js := by
  rcases ensureResolverProfile_cases js a s with ⟨e, hrun, -⟩ | ⟨hrun, hrow⟩ | ⟨hnone, hvalid, hrun⟩
  · rw [hrun]
    refine ⟨.refl s, fun s₂ h => ?_⟩
    cases (Prod.mk.inj h).1
  · rw [hrun]
    refine ⟨.refl s, fun s₂ h => ?_⟩
    obtain rfl := (Prod.mk.inj h).2
    exact hrow
  · rw [hrun]
    refine ⟨carries_onboarded hnone hvalid, fun s₂ h => ?_⟩
    obtain rfl := (Prod.mk.inj h).2
    exact ⟨_, (covered_onboarded js hnone hvalid).1, readable_assignedProfile ha⟩

private theorem carries_lock (hsafe : js.arithmetic.Gapless) (ha : a.Due js) (s : ResolverStore) :
    s.Carries js (run (resolverHandler js) (applyResolverBondDelta js (lockDelta a)) s).2 := by
  rcases applyResolverBondDelta_cases js (lockDelta a) s with hsame |
    ⟨-, row, hvalid, hrow, hreadable, -, hrun⟩
  · rw [hsame]
    exact .refl s
  · rw [hrun]
    exact (carries_putProfile hvalid (Or.inr (readable_withBond hsafe ha
      (s.profiles_ok _ _ hrow).2 hreadable))).trans (carries_insertBondLedgerEntry _ _)

private theorem carries_round (hsafe : js.arithmetic.Gapless) (ha : a.Due js) (s : ResolverStore) :
    s.Carries js (run (resolverHandler js) (insertPanelAssignment js a) s).2 := by
  have hinsert := @carries_insertAssignment js s a
  have hensure := (carries_ensure ha (s.insertAssignment a)).1
  rw [run_round_eq]
  rcases hrun : run (resolverHandler js) (ensureResolverProfileForAssignment js a)
    (s.insertAssignment a) with ⟨_ | _, s₂⟩
  · rw [hrun] at hensure
    exact hinsert.trans hensure
  · rw [hrun] at hensure
    exact (hinsert.trans hensure).trans (carries_lock hsafe ha s₂)

private theorem run_round_eq_ok
    (hrun : run (resolverHandler js) (insertPanelAssignment js a) s = (.ok (), s')) :
    ∃ s₂, run (resolverHandler js) (ensureResolverProfileForAssignment js a)
        (s.insertAssignment a) = (.ok (), s₂) ∧
      run (resolverHandler js) (applyResolverBondDelta js (lockDelta a)) s₂ = (.ok (), s') := by
  rw [run_round_eq] at hrun
  rcases hensure : run (resolverHandler js) (ensureResolverProfileForAssignment js a)
    (s.insertAssignment a) with ⟨_ | _, s₂⟩
  · rw [hensure] at hrun
    cases (Prod.mk.inj hrun).1
  · rw [hensure] at hrun
    exact ⟨s₂, rfl, hrun⟩

/-- A round that succeeds is done with. -/
theorem settled_of_round (hsafe : js.arithmetic.Gapless) (ha : a.Due js)
    (hrun : run (resolverHandler js) (insertPanelAssignment js a) s = (.ok (), s')) :
    Settled js a s' := by
  obtain ⟨s₂, hensure, hlock⟩ := run_round_eq_ok hrun
  obtain ⟨hcarries, hstored⟩ := carries_ensure ha (s.insertAssignment a)
  have hrest := carries_lock hsafe ha s₂
  rw [hensure] at hcarries
  rw [hlock] at hrest
  refine ⟨fun h => not_insertable_insertAssignment s a (hcarries.seats a (hrest.seats a h)), ?_, ?_⟩
  · obtain ⟨row, hrow, hreadable⟩ := hstored s₂ hensure
    exact hrest.readable _ row hrow hreadable
  · by_cases hcovered : (lockDelta a).Covered js s₂
    · have hentry := applyResolverBondDelta_entry hcovered
      rwa [hlock] at hentry
    · cases hentry : s₂.bondLedger.get? (lockDelta a).entryId with
      | some e => exact Option.isSome_iff_exists.mpr ⟨e, hrest.ledger _ e hentry⟩
      | none =>
        obtain ⟨e, hrefused⟩ := run_applyResolverBondDelta_of_refused hentry hcovered
        rw [hlock] at hrefused
        cases (Prod.mk.inj hrefused).1

/-- Where a fault strikes a round: before anything is lost, in a registration, or between the
balance and the row of a lock. -/
theorem struck_insertPanelAssignment
    (hstruck : Struck (resolverHandler js) fault (insertPanelAssignment js a) s op t) :
    (¬op.LosesEntry ∧ (t = s ∨ t = s.insertAssignment a ∨
      run (resolverHandler js) (ensureResolverProfileForAssignment js a) (s.insertAssignment a) =
        (.ok (), t))) ∨
    (s.profiles.get? a.resolverId = none ∧ ∃ hvalid,
      (op = .insertResolverBondLedgerEntry (onboardedEntry js (assignedProfile a)) ∧
        t = newcomer (s.insertAssignment a) a hvalid) ∨
      (op = .insertResolverBondLedgerEntry (depositEntry js (assignedProfile a)) ∧
        0 < a.bondMinorUnits ∧ t = (newcomer (s.insertAssignment a) a hvalid).insertBondLedgerEntry
          (onboardedEntry js (assignedProfile a)))) ∨
    ∃ s₂ row hvalid, run (resolverHandler js) (ensureResolverProfileForAssignment js a)
        (s.insertAssignment a) = (.ok (), s₂) ∧
      s₂.bondLedger.get? (lockDelta a).entryId = none ∧
      s₂.profiles.get? a.resolverId = some row ∧ row.Readable js ∧
      op = .insertResolverBondLedgerEntry
        ((lockDelta a).entry ((lockDelta a).balanceAfter js row)) ∧
      t = s₂.putProfile (row.withBond ((lockDelta a).balanceAfter js row) a.assignedAt) hvalid := by
  unfold insertPanelAssignment at hstruck
  rcases hstruck.perform_bind with ⟨rfl, hsame⟩ | ⟨_, s₁, hserved, hrest⟩
  · exact Or.inl ⟨id, Or.inl hsame⟩
  obtain ⟨-, rfl⟩ := Prod.mk.inj hserved
  rcases hrest.bind (propagates_ensureResolverProfile js a) with hensure | ⟨_, s₂, hensure, hlock⟩
  · rcases struck_ensureResolverProfile hensure with ⟨hsafe, hsame⟩ | ⟨hnone, hvalid, hrows⟩
    · exact Or.inl ⟨hsafe, Or.inr (Or.inl hsame)⟩
    · rw [profiles_insertAssignment] at hnone
      exact Or.inr (Or.inl ⟨hnone, hvalid, hrows⟩)
  · rcases struck_applyResolverBondDelta hlock with ⟨hsafe, rfl⟩ |
      ⟨row, hvalid, hfree, hrow, hreadable, hop, hstate⟩
    · exact Or.inl ⟨hsafe, Or.inr (Or.inr hensure)⟩
    · exact Or.inr (Or.inr ⟨s₂, row, hvalid, hensure, hfree, hrow, hreadable, hop, hstate⟩)

private theorem carries_struck_round (hsafe : js.arithmetic.Gapless) (ha : a.Due js)
    (hstruck : Struck (resolverHandler js) fault (insertPanelAssignment js a) s op t) :
    s.Carries js t := by
  have hinsert := @carries_insertAssignment js s a
  have hensure := (carries_ensure ha (s.insertAssignment a)).1
  rcases struck_insertPanelAssignment hstruck with ⟨-, rfl | rfl | hrun⟩ |
    ⟨hnone, hvalid, ⟨-, rfl⟩ | ⟨-, -, rfl⟩⟩ | ⟨s₂, row, hvalid, hrun, -, hrow, hreadable, -, rfl⟩
  · exact .refl t
  · exact hinsert
  · rw [hrun] at hensure
    exact hinsert.trans hensure
  · refine hinsert.trans (carries_putProfile hvalid (Or.inl ?_))
    rwa [upsertedProfile_resolverId, profiles_insertAssignment]
  · refine hinsert.trans ((carries_putProfile hvalid (Or.inl ?_)).trans
      (carries_insertBondLedgerEntry _ _))
    rwa [upsertedProfile_resolverId, profiles_insertAssignment]
  · rw [hrun] at hensure
    exact (hinsert.trans hensure).trans (carries_putProfile hvalid (Or.inr (readable_withBond hsafe
      ha (s₂.profiles_ok _ _ hrow).2 hreadable)))

/-! ## Faults that are made up for -/

private theorem putProfile_of_get? {p : ResolverRegistryProfile} (hp : p.Valid)
    (h : s.profiles.get? p.resolverId = some p) : s.putProfile p hp = s := by
  cases s
  simp only [putProfile, mk.injEq, and_true]
  exact Rows.set_of_get? h

private theorem run_lock_of_covered (hfree : s.bondLedger.get? (lockDelta a).entryId = none)
    {row : ResolverRegistryProfile} (hrow : s.profiles.get? a.resolverId = some row)
    (hreadable : row.Readable js)
    (hvalid : (row.withBond ((lockDelta a).balanceAfter js row) a.assignedAt).Valid) :
    run (resolverHandler js) (applyResolverBondDelta js (lockDelta a)) s = (.ok (),
      (s.putProfile (row.withBond ((lockDelta a).balanceAfter js row) a.assignedAt)
        hvalid).insertBondLedgerEntry
          ((lockDelta a).entry ((lockDelta a).balanceAfter js row))) := by
  obtain ⟨_, hrun⟩ := run_applyResolverBondDelta_of_covered hfree hrow hreadable hvalid.2
  exact hrun

/-- A movement that leaves the balance as it is can be made again after its balance is written. -/
private theorem run_lock_again (hfree : s.bondLedger.get? (lockDelta a).entryId = none)
    {row : ResolverRegistryProfile} (hrow : s.profiles.get? a.resolverId = some row)
    (hreadable : row.Readable js) {p : ResolverRegistryProfile} {balance : ℤ}
    (hbalance : (lockDelta a).balanceAfter js row = balance)
    (hsame : row.bondAvailableMinorUnits = balance)
    (hp : p = row.withBond balance a.assignedAt) (hvalid : p.Valid) (hreadable' : p.Readable js) :
    run (resolverHandler js) (applyResolverBondDelta js (lockDelta a)) (s.putProfile p hvalid) =
      run (resolverHandler js) (applyResolverBondDelta js (lockDelta a)) s := by
  subst hbalance
  have hid : row.resolverId = a.resolverId := (s.profiles_ok _ _ hrow).1
  have hvalid' :
    (row.withBond ((lockDelta a).balanceAfter js row) a.assignedAt).Valid := hp ▸ hvalid
  have hstored : (s.putProfile p hvalid).profiles.get? a.resolverId = some p := by
    rw [← hid]
    subst hp
    exact get?_putProfile_self hvalid
  have hbalance : (lockDelta a).balanceAfter js p = (lockDelta a).balanceAfter js row := by
    show js.arithmetic.integer (p.bondAvailableMinorUnits + _) =
      js.arithmetic.integer (row.bondAvailableMinorUnits + _)
    rw [hsame]
    subst hp
    rfl
  have hagain : p.withBond ((lockDelta a).balanceAfter js p) a.assignedAt = p := by
    rw [hbalance]
    subst hp
    rfl
  have hput : ∀ h, (s.putProfile p hvalid).putProfile
      (p.withBond ((lockDelta a).balanceAfter js p) a.assignedAt) h = s.putProfile p hvalid := by
    rw [hagain]
    intro h
    apply putProfile_of_get?
    subst hp
    exact get?_putProfile_self hvalid
  have hfree' : (s.putProfile p hvalid).bondLedger.get? (lockDelta a).entryId = none := hfree
  rw [run_lock_of_covered hfree hrow hreadable hvalid',
    run_lock_of_covered hfree' hstored hreadable' (by rw [hagain]; exact hvalid), hput, hbalance]
  subst hp
  rfl

/-- A round struck where nothing is lost does all of its work in a second run. -/
theorem run_round_of_struck (hsafe : js.arithmetic.Gapless) (ha : a.Due js)
    (hrun : run (resolverHandler js) (insertPanelAssignment js a) s = (.ok (), s'))
    (hstruck : Struck (resolverHandler js) fault (insertPanelAssignment js a) s op t)
    (hop : ¬op.LosesEntry) :
    run (resolverHandler js) (insertPanelAssignment js a) t = (.ok (), s') := by
  obtain ⟨s₂, hensure, hlock⟩ := run_round_eq_ok hrun
  obtain ⟨hcarries, hstored⟩ := carries_ensure ha (s.insertAssignment a)
  rw [hensure] at hcarries
  have hseat := not_insertable_insertAssignment s a
  have hseat₂ : ¬s₂.Insertable a := fun h => hseat (hcarries.seats a h)
  obtain ⟨row₂, hrow₂, hreadable₂⟩ := hstored s₂ hensure
  rcases struck_insertPanelAssignment hstruck with ⟨-, rfl | rfl | hensured⟩ |
    ⟨-, hvalid, ⟨rfl, -⟩ | ⟨rfl, hbond, -⟩⟩ |
    ⟨s₃, row, hvalid, hensured, hfree, hrow, hreadable, rfl, rfl⟩
  · exact hrun
  · rw [run_round_eq, insertAssignment_of_not hseat, hensure]
    exact hlock
  · obtain ⟨-, rfl⟩ := Prod.mk.inj (hensure.symm.trans hensured)
    rw [run_round_eq, insertAssignment_of_not hseat₂, run_ensure_of_stored hrow₂ hreadable₂]
    exact hlock
  · exact absurd (Or.inl rfl) hop
  · exact absurd (Or.inr hbond.ne') hop
  · obtain ⟨-, rfl⟩ := Prod.mk.inj (hensure.symm.trans hensured)
    -- a lock of nothing writes the balance that is there
    have hbond : a.bondMinorUnits = 0 := by
      by_contra hne
      exact hop (Or.inr (neg_ne_zero.mpr hne))
    have hvalidRow := (s₂.profiles_ok _ _ hrow).2
    obtain ⟨hbalance, -⟩ := balanceAfter_lockDelta hsafe ha hvalidRow hreadable
    have hreadable' := readable_withBond hsafe ha hvalidRow hreadable
    rw [hbond, sub_zero] at hbalance
    have hid : row.resolverId = a.resolverId := (s₂.profiles_ok _ _ hrow).1
    have hput := @get?_putProfile_self s₂ _ hvalid
    have hseat₃ : ¬(s₂.putProfile _ hvalid).Insertable a := hseat₂
    rw [run_round_eq, insertAssignment_of_not hseat₃, run_ensure_of_stored (hid ▸ hput) hreadable']
    exact (run_lock_again hfree hrow hreadable rfl hbalance.symm rfl hvalid hreadable').trans hlock

variable {as : List ResolverAssignment}

private theorem resumable_panel (fault : Fault) (hsafe : js.arithmetic.Gapless)
    (hdue : ∀ a ∈ as, a.Due js) :
    Resolving.Resumable js fault (insertPanelAssignment js) as (Settled js)
      fun op => ¬op.LosesEntry where
  propagates a := propagates_insertPanelAssignment js a
  idle a _ s h := h.run_round
  settles a ha s s' hrun := settled_of_round hsafe (hdue a ha) hrun
  keeps a _ c hc s s' h hrun := by
    have hcarries := carries_round hsafe (hdue c hc) s
    rw [hrun] at hcarries
    exact h.carries hcarries
  keepsStruck a _ c hc s op t h hstruck :=
    h.carries (carries_struck_round hsafe (hdue c hc) hstruck)
  retries a ha s s' op t hrun hstruck hop := run_round_of_struck hsafe (hdue a ha) hrun hstruck hop

/-! ## Faults that lose something -/

private theorem get?_insertBondLedgerEntry_of_ne (s : ResolverStore) {e : ResolverBondLedgerEntry}
    {key : String} (hkey : key ≠ e.entryId) :
    (s.insertBondLedgerEntry e).bondLedger.get? key = s.bondLedger.get? key := by
  rw [bondLedger_insertBondLedgerEntry]
  split_ifs
  · rw [Rows.get?_set, if_neg hkey]
  · rfl

private theorem get?_insertBondLedgerEntry_self {e : ResolverBondLedgerEntry}
    (hfree : s.bondLedger.get? e.entryId = none) (h : 0 ≤ e.balanceAfterMinorUnits) :
    (s.insertBondLedgerEntry e).bondLedger.get? e.entryId = some e := by
  rw [bondLedger_insertBondLedgerEntry, if_pos ⟨hfree, h⟩, Rows.get?_set_self]

private theorem bondLedger_lock {key : String} (hkey : key ≠ (lockDelta a).entryId) (js : Runtime)
    (s : ResolverStore) :
    (run (resolverHandler js) (applyResolverBondDelta js (lockDelta a)) s).2.bondLedger.get? key =
      s.bondLedger.get? key := by
  rcases applyResolverBondDelta_cases js (lockDelta a) s with hsame |
    ⟨-, row, hvalid, -, -, -, hrun⟩
  · rw [hsame]
  · rw [hrun, get?_insertBondLedgerEntry_of_ne _ hkey]
    rfl

private theorem bondLedger_onboarded {key : String}
    (honboarded : key ≠ (onboardedEntry js (assignedProfile a)).entryId)
    (hdeposit : key ≠ (depositEntry js (assignedProfile a)).entryId)
    (hvalid : (s.upsertedProfile (assignedProfile a)).Valid) :
    (s.onboarded js (assignedProfile a) hvalid).bondLedger.get? key = s.bondLedger.get? key := by
  unfold onboarded
  split_ifs
  · rw [get?_insertBondLedgerEntry_of_ne _ hdeposit, get?_insertBondLedgerEntry_of_ne _ honboarded]
    rfl
  · rw [get?_insertBondLedgerEntry_of_ne _ honboarded]
    rfl

/-- A round leaves a ledger row alone that is none of its own. -/
theorem bondLedger_round {key : String} (hlock : key ≠ (lockDelta a).entryId)
    (hnew : s.profiles.get? a.resolverId = none →
      key ≠ (onboardedEntry js (assignedProfile a)).entryId ∧
        key ≠ (depositEntry js (assignedProfile a)).entryId) :
    (run (resolverHandler js) (insertPanelAssignment js a) s).2.bondLedger.get? key =
      s.bondLedger.get? key := by
  have hinsert := (sameBooks_insertAssignment s a).bondLedger
  rw [run_round_eq]
  rcases ensureResolverProfile_cases js a (s.insertAssignment a) with ⟨e, hrun, -⟩ | ⟨hrun, -⟩ |
    ⟨hnone, hvalid, hrun⟩
  · rw [hrun]
    exact congrArg (fun r => r.get? key) hinsert
  · rw [hrun]
    simp only
    rw [bondLedger_lock hlock, hinsert]
  · rw [profiles_insertAssignment] at hnone
    obtain ⟨honboarded, hdeposit⟩ := hnew hnone
    rw [hrun]
    simp only
    rw [bondLedger_lock hlock, bondLedger_onboarded honboarded hdeposit, hinsert]

/-- The ledger rows of a registration. -/
def registrationEntries (js : Runtime) (a : ResolverAssignment) : List ResolverBondLedgerEntry :=
  [onboardedEntry js (assignedProfile a), depositEntry js (assignedProfile a)]

private theorem entryId_registration {e : ResolverBondLedgerEntry}
    (he : e ∈ registrationEntries js a) :
    ∃ o : LedgerOccasion, ¬o.OfAssignment ∧
      e.entryId = o.label ++ (a.resolverId ++ ":" ++ dateText js a.assignedAt) := by
  rcases List.mem_cons.mp he with rfl | he
  · exact ⟨.onboarding, by decide, onboardedEntry_entryId js _⟩
  · rw [List.mem_singleton.mp he]
    exact ⟨.deposit, by decide, depositEntry_entryId js _⟩

/-- Registrations of different resolvers have different rows, and locks have rows of their own. -/
theorem entryId_registration_ne {e : ResolverBondLedgerEntry} (he : e ∈ registrationEntries js a) :
    (∀ c : ResolverAssignment, e.entryId ≠ (lockDelta c).entryId) ∧
      ∀ c, c.resolverId ≠ a.resolverId →
        ∀ e' ∈ registrationEntries js c, e.entryId ≠ e'.entryId := by
  obtain ⟨o, ho, hkey⟩ := entryId_registration he
  constructor
  · intro c heq
    have hlabel := (LedgerOccasion.label_inj (hkey.symm.trans (heq.trans (lockDelta_on c).key))).1
    exact ho (hlabel ▸ (lockDelta_on c).assignment)
  · intro c hne e' he' heq
    obtain ⟨o', -, hkey'⟩ := entryId_registration he'
    have hrest := (LedgerOccasion.label_inj (hkey.symm.trans (heq.trans hkey'))).2
    exact hne (Text.append_sep_inj rfl (free_dateText js _) (free_dateText js _) hrest).1.symm

/-- A resolver without a profile has no rows of a registration. -/
def NewcomersUnrecorded (js : Runtime) (s : ResolverStore) (as : List ResolverAssignment) : Prop :=
  ∀ a ∈ as, s.profiles.get? a.resolverId = none →
    ∀ e ∈ registrationEntries js a, s.bondLedger.get? e.entryId = none

private theorem isSome_profiles_call (js : Runtime) {resolverId : String} (op : ResolverOp)
    (s : ResolverStore) (h : (s.profiles.get? resolverId).isSome) :
    ((resolverHandler js op s).2.profiles.get? resolverId).isSome := by
  have hput : ∀ (p : ResolverRegistryProfile) (hp : p.Valid),
      ((s.putProfile p hp).profiles.get? resolverId).isSome := by
    intro p hp
    show ((s.profiles.set p.resolverId p).get? resolverId).isSome
    rw [Rows.get?_set]
    split_ifs
    · rfl
    · exact h
  cases op with
  | writeProfile p =>
    show ((s.writeProfile p).2.profiles.get? resolverId).isSome
    rcases writeProfile_cases s p with ⟨e, hrefused, -⟩ | ⟨hvalid, -, -, hwritten⟩
    · rwa [hrefused]
    · rw [hwritten]
      exact hput _ hvalid
  | updateProfileBond id bond at_ =>
    show ((s.updateProfile id _).2.profiles.get? resolverId).isSome
    rcases updateProfile_cases s id (·.withBond bond at_) with hsame | ⟨_, hvalid, _, hwritten⟩
    · rwa [hsame]
    · rw [hwritten]
      exact hput _ hvalid
  | updateProfileReputation id bps at_ =>
    show ((s.updateProfile id _).2.profiles.get? resolverId).isSome
    rcases updateProfile_cases s id (·.withReputation bps at_) with hsame | ⟨_, hvalid, _, hwritten⟩
    · rwa [hsame]
    · rw [hwritten]
      exact hput _ hvalid
  | insertResolverBondLedgerEntry e =>
    show ((s.insertBondLedgerEntry e).profiles.get? resolverId).isSome
    rwa [profiles_insertBondLedgerEntry]
  | insertResolverReputationEvent e => exact (quiet_insertReputationEvent s e).profiles ▸ h
  | insertPanelRow p => exact (quiet_insertPanel s p).profiles ▸ h
  | insertAssignment a => exact (profiles_insertAssignment s a).symm ▸ h
  | updateResolverAssignmentStatus id status => exact (quiet_updateStatus s id status).profiles ▸ h
  | insertCommitRow c => exact (quiet_insertCommit s c).profiles ▸ h
  | insertRevealRow r => exact (quiet_insertReveal s r).profiles ▸ h
  | insertPayoutRow p => exact (quiet_insertPayout s p).profiles ▸ h
  | getResolverProfile _ | bondLedgerEntryExists _ | reputationEventExists _ | getPanelRow _
  | getResolverAssignment _ | listAssignments _ | getResolverCommit _ | listResolverCommits _
  | listResolverReveals _ | resolverPayoutExists _ _ => exact h

/-- A round leaves the rows of another resolver's registration alone. -/
private theorem bondLedger_round_registration {e : ResolverBondLedgerEntry}
    (he : e ∈ registrationEntries js a)
    (hc : s.profiles.get? c.resolverId = none → c.resolverId ≠ a.resolverId) :
    (run (resolverHandler js) (insertPanelAssignment js c) s).2.bondLedger.get? e.entryId =
      s.bondLedger.get? e.entryId := by
  obtain ⟨hlock, hothers⟩ := entryId_registration_ne he
  apply bondLedger_round (hlock c)
  intro hnone
  have hne := hothers c (hc hnone)
  exact ⟨hne _ List.mem_cons_self, hne _ (by simp [registrationEntries])⟩

private theorem newcomersUnrecorded_round (hsafe : js.arithmetic.Gapless) (hc : c.Due js)
    (hnew : NewcomersUnrecorded js s as)
    (hrun : run (resolverHandler js) (insertPanelAssignment js c) s = (.ok (), s')) :
    NewcomersUnrecorded js s' as := by
  intro a ha hnone e he
  obtain ⟨row, hrow, -⟩ := (settled_of_round hsafe hc hrun).profile
  have hne : c.resolverId ≠ a.resolverId := by
    intro heq
    rw [heq, hnone] at hrow
    cases hrow
  have hbefore : s.profiles.get? a.resolverId = none := by
    by_contra hsome
    have hkept := (Program.avoids_false (insertPanelAssignment js c)).run_preserves
      (P := fun s => (s.profiles.get? a.resolverId).isSome)
      (fun op s _ => isSome_profiles_call js op s) (Option.isSome_iff_ne_none.mpr hsome)
    rw [hrun] at hkept
    exact absurd hnone (Option.isSome_iff_ne_none.mp hkept)
  have hframe := bondLedger_round_registration (s := s) (c := c) he fun _ => hne
  rw [hrun] at hframe
  rw [hframe]
  exact hnew a ha hbefore e he

/-- What a fault lost: a property of the store that further rounds keep, and a ledger row of the
undisturbed run that stores with the property do not have. -/
structure Lost (js : Runtime) (as : List ResolverAssignment) (undisturbed struck : ResolverStore)
    (K : ResolverStore → Prop) : Prop where
  struck : K struck
  round : ∀ c ∈ as, ∀ v, K v → K (run (resolverHandler js) (insertPanelAssignment js c) v).2
  panel : ∀ v p, K v → K (v.insertPanel p)
  entry : ∃ e, undisturbed.bondLedger.get? e.entryId = some e ∧
    ∀ v, K v → v.bondLedger.get? e.entryId ≠ some e

private theorem lost_registration (hsafe : js.arithmetic.Gapless) (hdue : ∀ c ∈ as, c.Due js)
    {e : ResolverBondLedgerEntry} (he : e ∈ registrationEntries js a)
    (hprofile : ∃ row, t.profiles.get? a.resolverId = some row ∧ row.Readable js)
    (hfree : t.bondLedger.get? e.entryId = none) (hrow : (u.bondLedger.get? e.entryId).isSome) :
    Lost js as u t fun v => (∃ row, v.profiles.get? a.resolverId = some row ∧ row.Readable js) ∧
      v.bondLedger.get? e.entryId = none where
  struck := ⟨hprofile, hfree⟩
  round := by
    rintro c hc v ⟨⟨row, hrow, hreadable⟩, hnone⟩
    refine ⟨(carries_round hsafe (hdue c hc) v).readable _ row hrow hreadable, ?_⟩
    rw [bondLedger_round_registration he, hnone]
    rintro hc₀ heq
    rw [heq, hrow] at hc₀
    cases hc₀
  panel := by
    rintro v p ⟨hstored, hnone⟩
    have hquiet := quiet_insertPanel v p
    rw [hquiet.profiles, hquiet.bondLedger]
    exact ⟨hstored, hnone⟩
  entry := by
    obtain ⟨row, hget⟩ := Option.isSome_iff_exists.mp hrow
    have hid := (u.bondLedger_ok _ _ hget).1
    refine ⟨row, by rw [hid, hget], fun v hv => ?_⟩
    rw [hid, hv.2]
    simp

/-- No lock leaves a bond larger. -/
private theorem bond_lock (hsafe : js.arithmetic.Gapless) (hc : c.Due js) {resolverId : String}
    {row : ResolverRegistryProfile} (hrow : s.profiles.get? resolverId = some row)
    (hreadable : row.Readable js) :
    ∃ row', (run (resolverHandler js)
        (applyResolverBondDelta js (lockDelta c)) s).2.profiles.get? resolverId = some row' ∧
      row'.Readable js ∧ row'.bondAvailableMinorUnits ≤ row.bondAvailableMinorUnits := by
  rcases applyResolverBondDelta_cases js (lockDelta c) s with hsame |
    ⟨-, row', hvalid, hrow', hreadable', -, hrun⟩
  · rw [hsame]
    exact ⟨row, hrow, hreadable, le_rfl⟩
  · have hvalid' := (s.profiles_ok _ _ hrow').2
    have hget : (s.putProfile _ hvalid).profiles.get? resolverId =
      if resolverId = row'.resolverId then some _ else s.profiles.get? resolverId :=
        Rows.get?_set _ _ _ _
    rw [hrun, profiles_insertBondLedgerEntry, hget]
    split_ifs with hid
    · have hid' : row'.resolverId = (lockDelta c).resolverId := (s.profiles_ok _ _ hrow').1
      rw [hid, hid'] at hrow
      obtain rfl := Option.some.inj (hrow.symm.trans hrow')
      refine ⟨_, rfl, readable_withBond hsafe hc hvalid' hreadable', ?_⟩
      show (lockDelta c).balanceAfter js row ≤ row.bondAvailableMinorUnits
      rw [(balanceAfter_lockDelta hsafe hc hvalid' hreadable').1]
      have := hc.valid.2
      omega
    · exact ⟨row, hrow, hreadable, le_rfl⟩

private theorem bond_round (hsafe : js.arithmetic.Gapless) (hc : c.Due js) {resolverId : String}
    {row : ResolverRegistryProfile} (hrow : s.profiles.get? resolverId = some row)
    (hreadable : row.Readable js) :
    ∃ row', (run (resolverHandler js) (insertPanelAssignment js c) s).2.profiles.get? resolverId =
        some row' ∧
      row'.Readable js ∧ row'.bondAvailableMinorUnits ≤ row.bondAvailableMinorUnits := by
  rw [← profiles_insertAssignment s c] at hrow
  rw [run_round_eq]
  rcases ensureResolverProfile_cases js c (s.insertAssignment c) with ⟨e, hrun, -⟩ | ⟨hrun, -⟩ |
    ⟨hnone, hvalid, hrun⟩
  · rw [hrun]
    exact ⟨row, hrow, hreadable, le_rfl⟩
  · rw [hrun]
    exact bond_lock hsafe hc hrow hreadable
  · rw [hrun]
    refine bond_lock hsafe hc ?_ hreadable
    rw [profiles_onboarded, Rows.get?_set, if_neg]
    · exact hrow
    · rintro rfl
      have hnone' :
        (s.insertAssignment c).profiles.get? (assignedProfile c).resolverId = none := hnone
      rw [hnone'] at hrow
      cases hrow

private theorem lost_lock (hsafe : js.arithmetic.Gapless) (hdue : ∀ c ∈ as, c.Due js)
    (hnodup : (as.map ResolverAssignment.assignmentId).Nodup) (ha : a ∈ as)
    (hbond : a.bondMinorUnits ≠ 0) {e : ResolverBondLedgerEntry}
    (hkey : e.entryId = (lockDelta a).entryId) (hrow : u.bondLedger.get? e.entryId = some e)
    (hfree : t.bondLedger.get? e.entryId = none)
    (hprofile : ∃ row, t.profiles.get? a.resolverId = some row ∧ row.Readable js ∧
      row.bondAvailableMinorUnits ≤ e.balanceAfterMinorUnits) :
    Lost js as u t fun v => (v.bondLedger.get? e.entryId = none ∧
        ∃ row, v.profiles.get? a.resolverId = some row ∧ row.Readable js ∧
          row.bondAvailableMinorUnits ≤ e.balanceAfterMinorUnits) ∨
      ∃ e', v.bondLedger.get? e.entryId = some e' ∧
        e'.balanceAfterMinorUnits ≠ e.balanceAfterMinorUnits where
  struck := Or.inl ⟨hfree, hprofile⟩
  round := by
    rintro c hc v (⟨hnone, row, hrow, hreadable, hle⟩ | ⟨e', he', hne⟩)
    · by_cases hid : c.assignmentId = a.assignmentId
      · obtain rfl := List.inj_on_of_nodup_map hnodup hc ha hid
        have hstored : (v.insertAssignment c).profiles.get? c.resolverId = some row := by
          rwa [profiles_insertAssignment]
        have hunposted : (v.insertAssignment c).bondLedger.get? e.entryId = none := by
          rwa [(sameBooks_insertAssignment v c).bondLedger]
        rw [run_round_eq, run_ensure_of_stored hstored hreadable]
        rcases applyResolverBondDelta_cases js (lockDelta c) (v.insertAssignment c) with hsame |
          ⟨hopen, row', hvalid, hrow', -, hafter, hrun⟩
        · simp only
          rw [hsame]
          exact Or.inl ⟨hunposted, row, hstored, hreadable, hle⟩
        · -- the bond is locked once more, from a smaller balance
          obtain rfl := Option.some.inj (hstored.symm.trans hrow')
          simp only
          rw [hrun]
          refine Or.inr ⟨(lockDelta c).entry ((lockDelta c).balanceAfter js row), ?_, ?_⟩
          · rw [hkey]
            exact get?_insertBondLedgerEntry_self
              (e := (lockDelta c).entry ((lockDelta c).balanceAfter js row)) hopen hafter
          · show (lockDelta c).balanceAfter js row ≠ e.balanceAfterMinorUnits
            rw [(balanceAfter_lockDelta hsafe (hdue c hc) (v.profiles_ok _ _
              (by rwa [profiles_insertAssignment] at hstored)).2 hreadable).1]
            have := (hdue c hc).valid.2
            omega
      · have hlock : e.entryId ≠ (lockDelta c).entryId := by
          rw [hkey]
          intro heq
          have hids := LedgerOccasion.label_inj
            ((lockDelta_on a).key.symm.trans (heq.trans (lockDelta_on c).key))
          exact hid hids.2.symm
        have hothers : ∀ e' ∈ registrationEntries js c, e.entryId ≠ e'.entryId := by
          intro e' he' heq
          exact (entryId_registration_ne he').1 a (heq.symm.trans hkey)
        obtain ⟨row', hrow', hreadable', hle'⟩ := bond_round hsafe (hdue c hc) hrow hreadable
        refine Or.inl ⟨?_, row', hrow', hreadable', hle'.trans hle⟩
        rw [bondLedger_round hlock fun _ => ⟨hothers _ List.mem_cons_self,
          hothers _ (by simp [registrationEntries])⟩, hnone]
    · exact Or.inr ⟨e', (carries_round hsafe (hdue c hc) v).ledger _ e' he', hne⟩
  panel := by
    intro v p hv
    have hquiet := quiet_insertPanel v p
    rw [hquiet.profiles, hquiet.bondLedger]
    exact hv
  entry := by
    refine ⟨e, hrow, fun v hv heq => ?_⟩
    rcases hv with ⟨hnone, -⟩ | ⟨e', he', hne⟩
    · rw [hnone] at heq
      cases heq
    · obtain rfl := Option.some.inj (he'.symm.trans heq)
      exact hne rfl

private theorem isSome_onboarded {e : ResolverBondLedgerEntry}
    (he : e = onboardedEntry js (assignedProfile a) ∨
      e = depositEntry js (assignedProfile a) ∧ 0 < a.bondMinorUnits)
    (hvalid : (s.upsertedProfile (assignedProfile a)).Valid) :
    ((s.onboarded js (assignedProfile a) hvalid).bondLedger.get? e.entryId).isSome := by
  have hopened := isSome_insertBondLedgerEntry
    (s := s.putProfile (s.upsertedProfile (assignedProfile a)) hvalid)
    (e := onboardedEntry js (assignedProfile a)) le_rfl
  unfold onboarded
  rcases he with rfl | ⟨rfl, hbond⟩
  · split_ifs
    · exact (extends_insertBondLedgerEntry _ _).bondLedger _ hopened
    · exact hopened
  · have hdeposit : (assignedProfile a).bondAvailableMinorUnits > 0 := hbond
    rw [if_pos hdeposit]
    exact isSome_insertBondLedgerEntry hdeposit.le

/-- A round struck where something is lost has lost it for good. -/
theorem exists_lost (hsafe : js.arithmetic.Gapless) (hdue : ∀ c ∈ as, c.Due js)
    (hnodup : (as.map ResolverAssignment.assignmentId).Nodup)
    (hnew : NewcomersUnrecorded js s as) (ha : a ∈ as)
    (hrun : run (resolverHandler js) (insertPanelAssignment js a) s = (.ok (), u))
    (hstruck : Struck (resolverHandler js) fault (insertPanelAssignment js a) s op t)
    (hop : op.LosesEntry) : ∃ K, Lost js as u t K := by
  obtain ⟨s₂, hensure, hlock⟩ := run_round_eq_ok hrun
  have hbooks := (sameBooks_insertAssignment s a).bondLedger
  rcases struck_insertPanelAssignment hstruck with ⟨hsafe', -⟩ | ⟨hnone, hvalid, hrows⟩ |
    ⟨s₃, row, hvalid, hensured, hfree, hrow, hreadable, rfl, rfl⟩
  · exact absurd hop hsafe'
  · have hnone₁ : (s.insertAssignment a).profiles.get? a.resolverId = none := by
      rwa [profiles_insertAssignment]
    have hnewcomer : (newcomer (s.insertAssignment a) a hvalid).profiles.get? a.resolverId =
        some (assignedProfile a) := by
      have hupserted : (s.insertAssignment a).upsertedProfile (assignedProfile a) =
          assignedProfile a := by
        have hnone' : (s.insertAssignment a).profiles.get? (assignedProfile a).resolverId = none :=
          hnone₁
        rw [upsertedProfile, hnone']
      have hput := @get?_putProfile_self (s.insertAssignment a) _ hvalid
      have hid : ((s.insertAssignment a).upsertedProfile (assignedProfile a)).resolverId =
        a.resolverId := upsertedProfile_resolverId _ _
      rw [hid] at hput
      exact hput.trans (congrArg some hupserted)
    have hs₂ : s₂ = (s.insertAssignment a).onboarded js (assignedProfile a) hvalid := by
      rcases ensureResolverProfile_cases js a (s.insertAssignment a) with ⟨e, h, -⟩ |
        ⟨-, row, hrow, -⟩ | ⟨-, _, h⟩
      · cases (Prod.mk.inj (h.symm.trans hensure)).1
      · rw [hnone₁] at hrow
        cases hrow
      · exact (Prod.mk.inj (hensure.symm.trans h)).2
    have hcarries := carries_lock hsafe (hdue a ha) s₂
    rw [hlock] at hcarries
    have hkept : ∀ {e : ResolverBondLedgerEntry}, (e = onboardedEntry js (assignedProfile a) ∨
        e = depositEntry js (assignedProfile a) ∧ 0 < a.bondMinorUnits) →
          (u.bondLedger.get? e.entryId).isSome := by
      intro e he
      have hrow := @isSome_onboarded js _ _ _ he hvalid
      rw [← hs₂] at hrow
      obtain ⟨e', he'⟩ := Option.isSome_iff_exists.mp hrow
      exact Option.isSome_iff_exists.mpr ⟨e', hcarries.ledger _ e' he'⟩
    rcases hrows with ⟨-, rfl⟩ | ⟨-, hbond, rfl⟩
    · refine ⟨_, lost_registration hsafe hdue (e := onboardedEntry js (assignedProfile a))
        List.mem_cons_self ⟨_, hnewcomer, readable_assignedProfile (hdue a ha)⟩ ?_
        (hkept (Or.inl rfl))⟩
      show (s.insertAssignment a).bondLedger.get? _ = none
      rw [hbooks]
      exact hnew a ha hnone _ List.mem_cons_self
    · have hmem : depositEntry js (assignedProfile a) ∈ registrationEntries js a :=
        List.mem_cons_of_mem _ List.mem_cons_self
      refine ⟨_, lost_registration hsafe hdue hmem
        ⟨assignedProfile a, ?_, readable_assignedProfile (hdue a ha)⟩ ?_
        (hkept (Or.inr ⟨rfl, hbond⟩))⟩
      · rw [profiles_insertBondLedgerEntry]
        exact hnewcomer
      · rw [get?_insertBondLedgerEntry_of_ne _ (depositEntry_ne_onboardedEntry js _)]
        show (s.insertAssignment a).bondLedger.get? _ = none
        rw [hbooks]
        exact hnew a ha hnone _ hmem
  · obtain ⟨-, rfl⟩ := Prod.mk.inj (hensure.symm.trans hensured)
    have hbond : a.bondMinorUnits ≠ 0 := by
      rcases hop with hevent | hdelta
      · cases hevent
      · exact neg_ne_zero.mp hdelta
    have hafter : 0 ≤ (lockDelta a).balanceAfter js row := hvalid.2
    rw [run_lock_of_covered hfree hrow hreadable hvalid] at hlock
    obtain rfl := (Prod.mk.inj hlock).2
    have hid : row.resolverId = a.resolverId := (s₂.profiles_ok _ _ hrow).1
    refine ⟨_, lost_lock hsafe hdue hnodup ha hbond
      (e := (lockDelta a).entry ((lockDelta a).balanceAfter js row)) rfl
      (get?_insertBondLedgerEntry_self hfree hafter) hfree ⟨_, hid ▸ get?_putProfile_self hvalid,
        readable_withBond hsafe (hdue a ha) (s₂.profiles_ok _ _ hrow).2 hreadable, le_rfl⟩⟩

/-! ## The panel -/

private theorem Lost.carries {K : ResolverStore → Prop} (h : Lost js as u t K)
    (hcarries : u.Carries js s') :
    Lost js as s' t K where
  struck := h.struck
  round := h.round
  panel := h.panel
  entry := by
    obtain ⟨e, hrow, hnever⟩ := h.entry
    exact ⟨e, hcarries.ledger _ e hrow, hnever⟩

/-- What is lost in a round of a loop, the rest of the loop does not bring back. -/
private theorem exists_lost_loop {cs : List ResolverAssignment} (hsafe : js.arithmetic.Gapless)
    (hdue : ∀ c ∈ as, c.Due js) (hnodup : (as.map ResolverAssignment.assignmentId).Nodup)
    (hcs : ∀ c ∈ cs, c ∈ as) (hnew : NewcomersUnrecorded js s as)
    (hrun : run (resolverHandler js) (Resolving.forEach (insertPanelAssignment js) cs) s =
      (.ok (), s'))
    (hstruck : Struck (resolverHandler js) fault
      (Resolving.forEach (insertPanelAssignment js) cs) s op t)
    (hop : op.LosesEntry) : ∃ K, Lost js as s' t K := by
  induction cs generalizing s with
  | nil => exact absurd hstruck Program.not_struck_done
  | cons c cs ih =>
    have hc := hcs c List.mem_cons_self
    have hrest : ∀ d ∈ cs, d ∈ as := fun d hd => hcs d (List.mem_cons_of_mem c hd)
    obtain ⟨u, hround, hloop⟩ := run_forEach_cons_eq_ok hrun
    rcases struck_forEach_cons (propagates_insertPanelAssignment js c) hround hstruck with
      hfirst | hlater
    · obtain ⟨K, hlost⟩ := exists_lost hsafe hdue hnodup hnew hc hround hfirst hop
      have hcarries : u.Carries js (run (resolverHandler js)
          (Resolving.forEach (insertPanelAssignment js) cs) u).2 :=
        forEach_preserves_mem (P := fun v => u.Carries js v)
          (fun d hd v hv => hv.trans (carries_round hsafe (hdue d (hrest d hd)) v)) (.refl u)
      rw [hloop] at hcarries
      exact ⟨K, hlost.carries hcarries⟩
    · exact ih hrest (newcomersUnrecorded_round hsafe (hdue c hc) hnew hround) hloop hlater

/-- A panel's row stays. -/
theorem isSome_panels_call (js : Runtime) {panelId : String} (op : ResolverOp) (s : ResolverStore)
    (h : (s.panels.get? panelId).isSome) :
    ((resolverHandler js op s).2.panels.get? panelId).isSome := by
  cases op with
  | insertPanelRow p =>
    show ((s.insertPanel p).panels.get? panelId).isSome
    unfold insertPanel
    split_ifs
    · show ((s.panels.set p.panelId p).get? panelId).isSome
      rw [Rows.get?_set]
      split_ifs
      · rfl
      · exact h
    · exact h
  | writeProfile p =>
    show ((s.writeProfile p).2.panels.get? panelId).isSome
    rcases writeProfile_cases s p with ⟨e, hrefused, -⟩ | ⟨hvalid, -, -, hwritten⟩
    · rwa [hrefused]
    · rw [hwritten]
      exact h
  | updateProfileBond id bond at_ =>
    show ((s.updateProfile id _).2.panels.get? panelId).isSome
    rcases updateProfile_cases s id (·.withBond bond at_) with hsame | ⟨_, hvalid, _, hwritten⟩
    · rwa [hsame]
    · rw [hwritten]
      exact h
  | updateProfileReputation id bps at_ =>
    show ((s.updateProfile id _).2.panels.get? panelId).isSome
    rcases updateProfile_cases s id (·.withReputation bps at_) with hsame | ⟨_, hvalid, _, hwritten⟩
    · rwa [hsame]
    · rw [hwritten]
      exact h
  | insertResolverBondLedgerEntry e =>
    show ((s.insertBondLedgerEntry e).panels.get? panelId).isSome
    unfold insertBondLedgerEntry
    split_ifs <;> exact h
  | insertResolverReputationEvent e =>
    show ((s.insertReputationEvent e).panels.get? panelId).isSome
    unfold insertReputationEvent
    split_ifs <;> exact h
  | insertAssignment a =>
    show ((s.insertAssignment a).panels.get? panelId).isSome
    unfold insertAssignment
    split_ifs <;> exact h
  | updateResolverAssignmentStatus id status =>
    show ((s.updateStatus id status).panels.get? panelId).isSome
    unfold updateStatus
    split <;> exact h
  | insertCommitRow c =>
    show ((s.insertCommit c).panels.get? panelId).isSome
    unfold insertCommit
    split_ifs <;> exact h
  | insertRevealRow r =>
    show ((s.insertReveal r).panels.get? panelId).isSome
    unfold insertReveal
    split_ifs <;> exact h
  | insertPayoutRow p =>
    show ((s.insertPayout p).panels.get? panelId).isSome
    unfold insertPayout
    split_ifs <;> exact h
  | getResolverProfile _ | bondLedgerEntryExists _ | reputationEventExists _ | getPanelRow _
  | getResolverAssignment _ | listAssignments _ | getResolverCommit _ | listResolverCommits _
  | listResolverReveals _ | resolverPayoutExists _ _ => exact h

/-- A panel whose row was inserted before is not inserted again. -/
theorem insertPanel_of_kept {p : ResolverPanelRow}
    (hkept : ((s.insertPanel p).panels.get? p.panelId).isSome → (t.panels.get? p.panelId).isSome) :
    t.insertPanel p = t := by
  refine dif_neg ?_
  rintro ⟨hnone, hvalid⟩
  have hrow : ((s.insertPanel p).panels.get? p.panelId).isSome := by
    unfold insertPanel
    split_ifs with hfree
    · show ((s.panels.set p.panelId p).get? p.panelId).isSome
      rw [Rows.get?_set_self]
      rfl
    · refine Option.isSome_iff_ne_none.mpr fun hnone => hfree ⟨hnone, hvalid⟩
  rw [hnone] at hkept
  exact absurd (hkept hrow) (by simp)

/-- A panel as it is planned: its assignments are as they are handed over and have ids of their own,
and resolvers without a profile have no rows of a registration. -/
structure PanelDue (js : Runtime) (s : ResolverStore) (panel : ResolverPanel) : Prop where
  due : ∀ a ∈ panel.assignments, a.Due js
  nodup : (panel.assignments.map ResolverAssignment.assignmentId).Nodup
  newcomers : NewcomersUnrecorded js s panel.assignments

variable {panel : ResolverPanel}

/-- A fault is made up for exactly where it does not lose a row of the ledger. -/
theorem insertResolverPanel_madeUp_iff (hsafe : js.arithmetic.Gapless) (hdue : PanelDue js s panel)
    (hrun : run (resolverHandler js) (insertResolverPanel js panel) s = (.ok (), s'))
    (hstruck : Struck (resolverHandler js) fault (insertResolverPanel js panel) s op t) :
    MadeUp js (insertResolverPanel js panel) s t ↔ ¬op.LosesEntry := by
  have hloop : run (resolverHandler js)
      (Resolving.forEach (insertPanelAssignment js) panel.assignments)
      (s.insertPanel panel.toResolverPanelRow) = (.ok (), s') := hrun
  have hquiet := quiet_insertPanel s panel.toResolverPanelRow
  have hstruck' := hstruck
  unfold insertResolverPanel at hstruck'
  constructor
  · rintro ⟨v, hretried, hsame⟩ hop
    rcases hstruck'.perform_bind with ⟨rfl, -⟩ | ⟨_, s₁, hserved, hrounds⟩
    · exact hop
    obtain ⟨-, rfl⟩ := Prod.mk.inj hserved
    have hnew : NewcomersUnrecorded js (s.insertPanel panel.toResolverPanelRow)
        panel.assignments := by
      intro a ha hnone
      rw [hquiet.bondLedger]
      exact hdue.newcomers a ha (hquiet.profiles ▸ hnone)
    obtain ⟨K, hlost⟩ := exists_lost_loop hsafe hdue.due hdue.nodup (fun _ hc => hc) hnew hloop
      hrounds hop
    have hkept : K v := by
      refine hretried.invariant (fun w hw => ?_) hlost.struck
      exact forEach_preserves_mem hlost.round (hlost.panel w panel.toResolverPanelRow hw)
    obtain ⟨e, hrow, hnever⟩ := hlost.entry
    rw [hrun] at hsame
    apply hnever v hkept
    rw [hsame.bondLedger]
    exact hrow
  · intro hop
    rcases hstruck'.perform_bind with ⟨-, rfl⟩ | ⟨_, s₁, hserved, hrounds⟩
    · exact madeUp_of_run hrun hrun
    obtain ⟨-, rfl⟩ := Prod.mk.inj hserved
    have hagain := (resumable_panel fault hsafe hdue.due).run_forEach hloop hrounds hop
    have hsame : t.insertPanel panel.toResolverPanelRow = t :=
      insertPanel_of_kept fun hrow => hrounds.preserves
        (P := fun s => (s.panels.get? panel.panelId).isSome)
        (fun op s _ => isSome_panels_call js op s) (Program.avoids_false _) hrow
    refine madeUp_of_run hrun ?_
    show run (resolverHandler js) (Resolving.forEach (insertPanelAssignment js) panel.assignments)
      (t.insertPanel panel.toResolverPanelRow) = (.ok (), s')
    rw [hsame]
    exact hagain

end Yevow.DotCast
