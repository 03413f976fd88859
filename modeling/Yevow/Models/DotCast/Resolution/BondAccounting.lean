import Yevow.Models.DotCast.Resolution.BondLedger
import Yevow.Models.DotCast.Resolution.Reading

/-!
# Bond movements keep the books

Each operation of the resolver store, taken apart into what it does to the books: it leaves
them as they are, or posts one entry under a free key together with the balance the entry
accounts for. What an operation needs for that is a condition on the store before it.
-/

namespace Yevow.DotCast

open JavaScript (Runtime)
open Program (run)

variable {js : Runtime} {s s' s'' : ResolverStore}

/-! ## Stores with the same books -/

namespace ResolverStore

/-- The ledger and the balances are the same; resolvers and assignments remain. -/
structure SameBooks (s s' : ResolverStore) : Prop where
  bondLedger : s'.bondLedger = s.bondLedger
  bondAvailable : ∀ resolverId, s'.bondAvailable resolverId = s.bondAvailable resolverId
  registered : ∀ resolverId, (s.profiles.get? resolverId).isSome →
    (s'.profiles.get? resolverId).isSome
  assigned : ∀ assignmentId, (s.assignments.get? assignmentId).isSome →
    (s'.assignments.get? assignmentId).isSome

theorem SameBooks.refl (s : ResolverStore) : s.SameBooks s :=
  ⟨rfl, fun _ => rfl, fun _ h => h, fun _ h => h⟩

theorem SameBooks.trans (h : s.SameBooks s') (h' : s'.SameBooks s'') : s.SameBooks s'' :=
  ⟨h'.1.trans h.1, fun r => (h'.2 r).trans (h.2 r), fun r hr => h'.3 r (h.3 r hr),
    fun a ha => h'.4 a (h.4 a ha)⟩

theorem SameBooks.bondEntry (h : s.SameBooks s') (o : LedgerOccasion) (assignmentId : String) :
    s'.bondEntry o assignmentId = s.bondEntry o assignmentId := by
  rw [ResolverStore.bondEntry, h.bondLedger]
  rfl

theorem SoundBooks.congr (hs : s.SoundBooks) (h : s.SameBooks s') : s'.SoundBooks where
  keyed id e he := hs.keyed id e (h.bondLedger ▸ he)
  registered id e he := h.registered _ (hs.registered id e (h.bondLedger ▸ he))
  balanced resolverId := by
    rw [h.bondAvailable, hs.balanced, bondLedgerSum, bondLedgerSum, h.bondLedger]
  closed assignmentId := by
    rw [h.bondEntry, h.bondEntry]
    exact hs.closed assignmentId
  returned assignmentId e he := by
    rw [h.bondEntry] at he
    obtain ⟨hassigned, hlock⟩ := hs.returned assignmentId e he
    rw [h.bondEntry]
    exact ⟨h.assigned _ hassigned, hlock⟩

/-- Profiles and ledger are the same, and the same assignments are stored. -/
structure Quiet (s s' : ResolverStore) : Prop where
  profiles : s'.profiles = s.profiles
  bondLedger : s'.bondLedger = s.bondLedger
  assigned : ∀ id, (s'.assignments.get? id).isSome = (s.assignments.get? id).isSome

theorem Quiet.refl (s : ResolverStore) : s.Quiet s := ⟨rfl, rfl, fun _ => rfl⟩

theorem Quiet.trans (h : s.Quiet s') (h' : s'.Quiet s'') : s.Quiet s'' :=
  ⟨h'.1.trans h.1, h'.2.trans h.2, fun id => (h'.3 id).trans (h.3 id)⟩

theorem Quiet.sameBooks (h : s.Quiet s') : s.SameBooks s' where
  bondLedger := h.bondLedger
  bondAvailable resolverId := by
    rw [ResolverStore.bondAvailable, h.profiles]
    rfl
  registered resolverId hr := by
    rw [h.profiles]
    exact hr
  assigned assignmentId ha := by
    rw [h.assigned]
    exact ha

theorem quiet_updateStatus (s : ResolverStore) (assignmentId : String)
    (status : AssignmentStatus) : s.Quiet (s.updateStatus assignmentId status) := by
  unfold updateStatus
  split
  · exact .refl s
  · rename_i a hrow
    refine ⟨rfl, rfl, fun id => ?_⟩
    show ((s.assignments.set a.assignmentId { a with status := status }).get? id).isSome = _
    rw [Rows.get?_set, (s.assignments_ok _ _ hrow).1]
    split_ifs with hid
    · rw [hid, hrow]
      rfl
    · rfl

theorem quiet_insertPayout (s : ResolverStore) (p : ResolverPayout) :
    s.Quiet (s.insertPayout p) := by
  unfold insertPayout
  split_ifs
  · exact ⟨rfl, rfl, fun _ => rfl⟩
  · exact .refl s

theorem quiet_insertPanel (s : ResolverStore) (p : ResolverPanelRow) :
    s.Quiet (s.insertPanel p) := by
  unfold insertPanel
  split_ifs
  · exact ⟨rfl, rfl, fun _ => rfl⟩
  · exact .refl s

theorem quiet_insertCommit (s : ResolverStore) (c : ResolverCommit) :
    s.Quiet (s.insertCommit c) := by
  unfold insertCommit
  split_ifs
  · exact ⟨rfl, rfl, fun _ => rfl⟩
  · exact .refl s

theorem quiet_insertReveal (s : ResolverStore) (r : ResolverReveal) :
    s.Quiet (s.insertReveal r) := by
  unfold insertReveal
  split_ifs
  · exact ⟨rfl, rfl, fun _ => rfl⟩
  · exact .refl s

theorem quiet_insertReputationEvent (s : ResolverStore) (e : ResolverReputationEvent) :
    s.Quiet (s.insertReputationEvent e) := by
  unfold insertReputationEvent
  split_ifs
  · exact ⟨rfl, rfl, fun _ => rfl⟩
  · exact .refl s

/-! ## Posting an entry -/

/-- The entry is new in the ledger, and its resolver's balance moved by its amount. -/
structure Posted (s s' : ResolverStore) (e : ResolverBondLedgerEntry) : Prop where
  free : s.bondLedger.get? e.entryId = none
  bondLedger : s'.bondLedger = s.bondLedger.set e.entryId e
  bondAvailable : ∀ resolverId,
    s'.bondAvailable resolverId = bondShare resolverId e + s.bondAvailable resolverId
  registered : ∀ resolverId, (s.profiles.get? resolverId).isSome ∨ resolverId = e.resolverId →
    (s'.profiles.get? resolverId).isSome
  assignments : s'.assignments = s.assignments

variable {e : ResolverBondLedgerEntry} {o : LedgerOccasion}

/-- Another occasion's entries stay as they were. -/
theorem Posted.bondEntry (h : s.Posted s' e) (o' : LedgerOccasion) (assignmentId : String) :
    s'.bondEntry o' assignmentId =
      if o'.label ++ assignmentId = e.entryId then some e else s.bondEntry o' assignmentId := by
  rw [ResolverStore.bondEntry, h.bondLedger, Rows.get?_set]
  rfl

/-- An entry keyed by its occasion keeps the books sound: a release of a locked bond that was
not slashed, a slash of one that was not released, or any other movement. -/
theorem SoundBooks.post (hs : s.SoundBooks) (h : s.Posted s' e) (hkeys : o.Keys e)
    (hrelease : ∀ assignmentId, o = .release → e.assignmentId = some assignmentId →
      s.bondEntry .slash assignmentId = none ∧ (s.assignments.get? assignmentId).isSome ∧
        ∃ l, s.bondEntry .lock assignmentId = some l ∧ l.deltaMinorUnits = -e.deltaMinorUnits)
    (hslash : ∀ assignmentId, o = .slash → e.assignmentId = some assignmentId →
      s.bondEntry .release assignmentId = none) : s'.SoundBooks where
  keyed id e' he' := by
    rw [h.bondLedger, Rows.get?_set] at he'
    split_ifs at he' with hid
    · obtain rfl := Option.some.inj he'
      exact ⟨o, hkeys⟩
    · exact hs.keyed id e' he'
  registered id e' he' := by
    rw [h.bondLedger, Rows.get?_set] at he'
    split_ifs at he' with hid
    · obtain rfl := Option.some.inj he'
      exact h.registered _ (Or.inr rfl)
    · exact h.registered _ (Or.inl (hs.registered id e' he'))
  balanced resolverId := by
    rw [h.bondAvailable, hs.balanced, bondLedgerSum, bondLedgerSum, h.bondLedger,
      Rows.total_set_of_get?_eq_none _ h.free]
  closed assignmentId := by
    rw [h.bondEntry, h.bondEntry]
    split_ifs with hkey hkey' hkey'
    · exact absurd (LedgerOccasion.label_inj (hkey.trans hkey'.symm)).1 (by decide)
    · obtain ⟨ho, hassignment⟩ := hkeys.of_entryId (k := .release) (by decide) hkey.symm
      exact Or.inr (hrelease _ ho hassignment).1
    · obtain ⟨ho, hassignment⟩ := hkeys.of_entryId (k := .slash) (by decide) hkey'.symm
      exact Or.inl (hslash _ ho hassignment)
    · exact hs.closed assignmentId
  returned assignmentId e' he' := by
    have hentry : ∀ l, s.bondEntry .lock assignmentId = some l →
        s'.bondEntry .lock assignmentId = some l := by
      intro l hl
      rw [h.bondEntry, if_neg]
      · exact hl
      · intro hkey
        have hfree := h.free
        rw [← hkey] at hfree
        exact absurd (hl.symm.trans hfree) (Option.some_ne_none l)
    rw [h.assignments]
    rw [h.bondEntry] at he'
    split_ifs at he' with hkey
    · obtain rfl := Option.some.inj he'
      obtain ⟨ho, hassignment⟩ := hkeys.of_entryId (k := .release) (by decide) hkey.symm
      obtain ⟨-, hassigned, l, hl, hdelta⟩ := hrelease _ ho hassignment
      exact ⟨hassigned, l, hentry l hl, hdelta⟩
    · obtain ⟨hassigned, l, hl, hdelta⟩ := hs.returned assignmentId e' he'
      exact ⟨hassigned, l, hentry l hl, hdelta⟩

/-! ## Stores that only grow -/

/-- Ledger rows and profiles remain, and the same assignments are stored. -/
structure Extends (s s' : ResolverStore) : Prop where
  bondLedger : ∀ id, (s.bondLedger.get? id).isSome → (s'.bondLedger.get? id).isSome
  profiles : ∀ id, (s.profiles.get? id).isSome → (s'.profiles.get? id).isSome
  assigned : ∀ id, (s'.assignments.get? id).isSome = (s.assignments.get? id).isSome

theorem Extends.refl (s : ResolverStore) : s.Extends s :=
  ⟨fun _ h => h, fun _ h => h, fun _ => rfl⟩

theorem Extends.trans (h : s.Extends s') (h' : s'.Extends s'') : s.Extends s'' :=
  ⟨fun id hid => h'.1 id (h.1 id hid), fun id hid => h'.2 id (h.2 id hid),
    fun id => (h'.3 id).trans (h.3 id)⟩

@[simp] theorem profiles_insertBondLedgerEntry (s : ResolverStore)
    (e : ResolverBondLedgerEntry) : (s.insertBondLedgerEntry e).profiles = s.profiles := by
  unfold insertBondLedgerEntry
  split_ifs <;> rfl

@[simp] theorem assignments_insertBondLedgerEntry (s : ResolverStore)
    (e : ResolverBondLedgerEntry) : (s.insertBondLedgerEntry e).assignments = s.assignments := by
  unfold insertBondLedgerEntry
  split_ifs <;> rfl

@[simp] theorem bondAvailable_insertBondLedgerEntry (s : ResolverStore)
    (e : ResolverBondLedgerEntry) (resolverId : String) :
    (s.insertBondLedgerEntry e).bondAvailable resolverId = s.bondAvailable resolverId := by
  unfold bondAvailable
  rw [profiles_insertBondLedgerEntry]

theorem bondLedger_insertBondLedgerEntry (s : ResolverStore) (e : ResolverBondLedgerEntry) :
    (s.insertBondLedgerEntry e).bondLedger =
      if s.bondLedger.get? e.entryId = none ∧ 0 ≤ e.balanceAfterMinorUnits then
        s.bondLedger.set e.entryId e
      else s.bondLedger := by
  unfold insertBondLedgerEntry
  split_ifs <;> rfl

theorem Quiet.extends (h : s.Quiet s') : s.Extends s' :=
  ⟨fun _ hid => h.bondLedger ▸ hid, fun _ hid => h.profiles ▸ hid, h.assigned⟩

theorem extends_insertBondLedgerEntry (s : ResolverStore) (e : ResolverBondLedgerEntry) :
    s.Extends (s.insertBondLedgerEntry e) := by
  unfold insertBondLedgerEntry
  split_ifs with h
  · refine ⟨fun id hid => ?_, fun _ hid => hid, fun _ => rfl⟩
    show ((s.bondLedger.set e.entryId e).get? id).isSome
    rw [Rows.get?_set]
    split_ifs
    · rfl
    · exact hid
  · exact .refl s

/-- After an insertion the entry's key is taken. -/
theorem isSome_insertBondLedgerEntry {e : ResolverBondLedgerEntry}
    (h : 0 ≤ e.balanceAfterMinorUnits) :
    ((s.insertBondLedgerEntry e).bondLedger.get? e.entryId).isSome := by
  unfold insertBondLedgerEntry
  split_ifs with hfree
  · show ((s.bondLedger.set e.entryId e).get? e.entryId).isSome
    rw [Rows.get?_set_self]
    rfl
  · rw [Option.isSome_iff_ne_none]
    exact fun hnone => hfree ⟨hnone, h⟩

/-- An assignment that was there before has its lock still. -/
theorem Extends.bondsLocked (h : s.Extends s') (hs : s.BondsLocked) : s'.BondsLocked := by
  intro assignmentId hassigned
  rw [h.assigned] at hassigned
  exact h.bondLedger _ (hs assignmentId hassigned)

@[simp] theorem bondLedger_putProfile {p : ResolverRegistryProfile} (hp : p.Valid) :
    (s.putProfile p hp).bondLedger = s.bondLedger := (rfl)

@[simp] theorem assignments_putProfile {p : ResolverRegistryProfile} (hp : p.Valid) :
    (s.putProfile p hp).assignments = s.assignments := (rfl)

private theorem bondAvailable_putProfile {p : ResolverRegistryProfile} (hp : p.Valid)
    (resolverId : String) : (s.putProfile p hp).bondAvailable resolverId =
      if resolverId = p.resolverId then p.bondAvailableMinorUnits
      else s.bondAvailable resolverId := by
  unfold bondAvailable putProfile
  rw [Rows.get?_set]
  split_ifs <;> rfl

theorem get?_putProfile_self {p : ResolverRegistryProfile} (hp : p.Valid) :
    (s.putProfile p hp).profiles.get? p.resolverId = some p :=
  Rows.get?_set_self _ _ _

private theorem isSome_putProfile_iff {p : ResolverRegistryProfile} (hp : p.Valid)
    {resolverId : String} : ((s.putProfile p hp).profiles.get? resolverId).isSome ↔
      (s.profiles.get? resolverId).isSome ∨ resolverId = p.resolverId := by
  unfold putProfile
  rw [Rows.get?_set]
  split_ifs with hid
  · simp [hid]
  · simp [hid]

theorem extends_putProfile (s : ResolverStore) {p : ResolverRegistryProfile} (hp : p.Valid) :
    s.Extends (s.putProfile p hp) :=
  ⟨fun _ h => h, fun _ h => (isSome_putProfile_iff hp).mpr (Or.inl h), fun _ => rfl⟩

/-- Writing a profile with the balance it has leaves the books as they are. -/
theorem sameBooks_putProfile {p : ResolverRegistryProfile} (hp : p.Valid)
    (h : p.bondAvailableMinorUnits = s.bondAvailable p.resolverId) :
    s.SameBooks (s.putProfile p hp) where
  bondLedger := rfl
  bondAvailable resolverId := by
    rw [bondAvailable_putProfile]
    split_ifs with hid
    · rw [h, hid]
    · rfl
  registered _ hr := (isSome_putProfile_iff hp).mpr (Or.inl hr)
  assigned _ ha := ha

/-- A profile written with the balance a free entry leaves, and then the entry. -/
theorem posted_putProfile {p : ResolverRegistryProfile} (hp : p.Valid)
    (hfree : s.bondLedger.get? e.entryId = none) (hid : e.resolverId = p.resolverId)
    (hbalance : p.bondAvailableMinorUnits = e.deltaMinorUnits + s.bondAvailable p.resolverId)
    (hafter : 0 ≤ e.balanceAfterMinorUnits) :
    s.Posted ((s.putProfile p hp).insertBondLedgerEntry e) e := by
  have hinsert : (s.putProfile p hp).insertBondLedgerEntry e =
      (s.putProfile p hp).putBondLedgerEntry e hafter := dif_pos ⟨hfree, hafter⟩
  rw [hinsert]
  refine ⟨hfree, rfl, fun resolverId => ?_, fun resolverId h => ?_, rfl⟩
  · show (s.putProfile p hp).bondAvailable resolverId = _
    rw [bondAvailable_putProfile, bondShare, hid]
    by_cases hr : resolverId = p.resolverId
    · rw [if_pos hr, if_pos hr.symm, hbalance, hr]
    · rw [if_neg hr, if_neg (Ne.symm hr), zero_add]
  · rw [hid] at h
    exact (isSome_putProfile_iff hp).mpr h

end ResolverStore

/-! ## Movements of assignments and payouts -/

section Movements

open ResolverStore

variable (js) (d : BondDelta) (s)

/-- The balance a movement leaves, as the code computes it. -/
def BondDelta.balanceAfter (row : ResolverRegistryProfile) : ℤ :=
  js.arithmetic.integer (row.bondAvailableMinorUnits + d.deltaMinorUnits)

/-- The movement meets a readable profile whose bond covers it. -/
def BondDelta.Covered : Prop :=
  ∃ row, s.profiles.get? d.resolverId = some row ∧ row.Readable js ∧ 0 ≤ d.balanceAfter js row

/-- A movement that will be posted is computed without rounding, and is allowed on its
occasion: a release of a locked bond that was not slashed, a slash of one not released. -/
def BondDelta.Sound (o : LedgerOccasion) : Prop :=
  s.bondLedger.get? d.entryId = none →
    ∀ row, s.profiles.get? d.resolverId = some row → row.Readable js → 0 ≤ d.balanceAfter js row →
      d.balanceAfter js row = row.bondAvailableMinorUnits + d.deltaMinorUnits ∧
        (o = .release → s.bondEntry .slash d.assignmentId = none ∧
          (s.assignments.get? d.assignmentId).isSome ∧ ∃ l,
            s.bondEntry .lock d.assignmentId = some l ∧ l.deltaMinorUnits = -d.deltaMinorUnits) ∧
        (o = .slash → s.bondEntry .release d.assignmentId = none)

variable {js d s}

theorem run_applyResolverBondDelta_of_entry (h : (s.bondLedger.get? d.entryId).isSome) :
    run (resolverHandler js) (applyResolverBondDelta js d) s = (.ok (), s) := by
  unfold applyResolverBondDelta
  rw [run_bondLedgerEntryExists_bind, if_pos h]
  rfl

/-- A movement that finds no profile to read, or one whose bond does not cover it, throws. -/
theorem run_applyResolverBondDelta_of_refused (hfree : s.bondLedger.get? d.entryId = none)
    (h : ¬d.Covered js s) :
    ∃ e, run (resolverHandler js) (applyResolverBondDelta js d) s = (.error e, s) := by
  unfold applyResolverBondDelta
  rw [run_bondLedgerEntryExists_bind, hfree, if_neg (by simp), run_getResolverProfile_bind]
  rcases readRow_profile_cases js s d.resolverId with ⟨e, hread, -⟩ | ⟨hread, -⟩ |
    ⟨row, hrow, hreadable, hread⟩
  · exact ⟨e, by rw [hread]⟩
  · exact ⟨_, by rw [hread]; rfl⟩
  · have hafter : d.balanceAfter js row < 0 := by
      by_contra hge
      exact h ⟨row, hrow, hreadable, by omega⟩
    rw [hread]
    show ∃ e, run _ (if d.balanceAfter js row < 0 then _ else _) s = (.error e, s)
    rw [if_pos hafter]
    exact ⟨_, rfl⟩

/-- A movement that is covered writes the balance and the entry. -/
theorem run_applyResolverBondDelta_of_covered (hfree : s.bondLedger.get? d.entryId = none)
    {row : ResolverRegistryProfile} (hrow : s.profiles.get? d.resolverId = some row)
    (hreadable : row.Readable js) (hafter : 0 ≤ d.balanceAfter js row) :
    ∃ hvalid, run (resolverHandler js) (applyResolverBondDelta js d) s =
      (.ok (), (s.putProfile (row.withBond (d.balanceAfter js row) d.createdAt)
        hvalid).insertBondLedgerEntry (d.entry (d.balanceAfter js row))) := by
  have hvalid : (row.withBond (d.balanceAfter js row) d.createdAt).Valid :=
    ⟨(s.profiles_ok _ _ hrow).2.1, hafter⟩
  refine ⟨hvalid, ?_⟩
  have hread : readRow (resolverProfileFromRow js) (s.profiles.get? d.resolverId) =
      .ok (some { row with displayName := nullableText row.displayName }) := by
    rw [hrow, readRow, resolverProfileFromRow_eq_ok.mpr ⟨hreadable, rfl⟩]
    rfl
  unfold applyResolverBondDelta
  rw [run_bondLedgerEntryExists_bind, hfree, if_neg (by simp), run_getResolverProfile_bind, hread]
  have hupdate : s.updateProfile d.resolverId (·.withBond (d.balanceAfter js row) d.createdAt) =
      (.ok (), s.putProfile (row.withBond (d.balanceAfter js row) d.createdAt) hvalid) := by
    rw [updateProfile, hrow]
    exact dif_pos hvalid
  show run _ (if d.balanceAfter js row < 0 then _ else
    Resolving.updateProfileBond d.resolverId (d.balanceAfter js row) d.createdAt >>= _) s = _
  rw [if_neg (by omega), run_updateProfileBond_bind, hupdate]
  rfl

/-- A movement leaves the store as it is, or posts its entry. -/
theorem applyResolverBondDelta_cases (js : Runtime) (d : BondDelta) (s : ResolverStore) :
    (run (resolverHandler js) (applyResolverBondDelta js d) s).2 = s ∨
      s.bondLedger.get? d.entryId = none ∧ ∃ row hvalid,
        s.profiles.get? d.resolverId = some row ∧ row.Readable js ∧ 0 ≤ d.balanceAfter js row ∧
          (run (resolverHandler js) (applyResolverBondDelta js d) s).2 =
            (s.putProfile (row.withBond (d.balanceAfter js row) d.createdAt)
              hvalid).insertBondLedgerEntry (d.entry (d.balanceAfter js row)) := by
  cases hentry : s.bondLedger.get? d.entryId with
  | some e => exact Or.inl (by rw [run_applyResolverBondDelta_of_entry (by simp [hentry])])
  | none =>
    by_cases hcovered : d.Covered js s
    · obtain ⟨row, hrow, hreadable, hafter⟩ := hcovered
      obtain ⟨hvalid, hrun⟩ := run_applyResolverBondDelta_of_covered hentry hrow hreadable hafter
      exact Or.inr ⟨rfl, row, hvalid, hrow, hreadable, hafter, by rw [hrun]⟩
    · obtain ⟨e, hrun⟩ := run_applyResolverBondDelta_of_refused hentry hcovered
      exact Or.inl (by rw [hrun])

theorem applyResolverBondDelta_extends (js : Runtime) (d : BondDelta) (s : ResolverStore) :
    s.Extends (run (resolverHandler js) (applyResolverBondDelta js d) s).2 := by
  rcases applyResolverBondDelta_cases js d s with hsame | ⟨-, row, hvalid, -, -, -, hrun⟩
  · rw [hsame]
    exact .refl s
  · rw [hrun]
    exact (extends_putProfile _ hvalid).trans (extends_insertBondLedgerEntry _ _)

/-- A sound movement keeps the books. -/
theorem applyResolverBondDelta_sound {o : LedgerOccasion} (hs : s.SoundBooks) (hd : d.On o)
    (hsound : d.Sound js s o) :
    (run (resolverHandler js) (applyResolverBondDelta js d) s).2.SoundBooks := by
  rcases applyResolverBondDelta_cases js d s with hsame | ⟨hfree, row, hvalid, hrow, hreadable,
    hafter, hrun⟩
  · rw [hsame]
    exact hs
  · obtain ⟨hexact, hrelease, hslash⟩ := hsound hfree row hrow hreadable hafter
    have hid : d.resolverId = row.resolverId := (s.profiles_ok _ _ hrow).1.symm
    have havailable : s.bondAvailable row.resolverId = row.bondAvailableMinorUnits := by
      rw [bondAvailable, ← hid, hrow]
      rfl
    have hposted := posted_putProfile (e := d.entry (d.balanceAfter js row)) hvalid hfree hid
      (by
        show d.balanceAfter js row = d.deltaMinorUnits + s.bondAvailable row.resolverId
        rw [hexact, havailable, add_comm]) hafter
    rw [hrun]
    refine hs.post hposted (hd.keys _) (fun assignmentId ho ha => ?_) fun assignmentId ho ha => ?_
    · obtain rfl := Option.some.inj ha
      exact hrelease ho
    · obtain rfl := Option.some.inj ha
      exact hslash ho

/-- After a covered movement its entry is in the ledger. -/
theorem applyResolverBondDelta_entry (hcovered : d.Covered js s) :
    ((run (resolverHandler js) (applyResolverBondDelta js d) s).2.bondLedger.get?
      d.entryId).isSome := by
  cases hentry : s.bondLedger.get? d.entryId with
  | some e =>
    rw [run_applyResolverBondDelta_of_entry (by simp [hentry]), hentry]
    rfl
  | none =>
    obtain ⟨row, hrow, hreadable, hafter⟩ := hcovered
    obtain ⟨hvalid, hrun⟩ := run_applyResolverBondDelta_of_covered hentry hrow hreadable hafter
    rw [hrun]
    exact isSome_insertBondLedgerEntry hafter

end Movements

/-! ## Registrations and adjustments -/

section Registration

open ResolverStore

/-- A profile is written, or refused. -/
theorem writeProfile_cases (s : ResolverStore) (p : ResolverRegistryProfile) :
    (∃ e, s.writeProfile p = (.error e, s) ∧ ¬(p.Valid ∧ ¬s.IdentityTaken p)) ∨
      ∃ hvalid, p.Valid ∧ ¬s.IdentityTaken p ∧
        s.writeProfile p = (.ok (), s.putProfile (s.upsertedProfile p) hvalid) := by
  unfold writeProfile
  split_ifs with hvalid htaken
  · exact Or.inl ⟨_, rfl, fun h => h.2 htaken⟩
  · exact Or.inr ⟨s.upsertedProfile_valid hvalid, hvalid, htaken, rfl⟩
  · exact Or.inl ⟨_, rfl, fun h => hvalid h.1⟩

/-- What a registration leaves. -/
def ResolverStore.onboarded (s : ResolverStore) (js : Runtime) (p : ResolverRegistryProfile)
    (hvalid : (s.upsertedProfile p).Valid) : ResolverStore :=
  let opened :=
    (s.putProfile (s.upsertedProfile p) hvalid).insertBondLedgerEntry (onboardedEntry js p)
  if p.bondAvailableMinorUnits > 0 then opened.insertBondLedgerEntry (depositEntry js p) else opened

/-- What an upsert of a stored profile leaves. -/
def ResolverStore.adjusted (s : ResolverStore) (js : Runtime)
    (row p : ResolverRegistryProfile) (hvalid : (s.upsertedProfile p).Valid) : ResolverStore :=
  if row.bondAvailableMinorUnits ≠ p.bondAvailableMinorUnits then
    (s.putProfile (s.upsertedProfile p) hvalid).insertBondLedgerEntry (adjustmentEntry js row p)
  else s.putProfile (s.upsertedProfile p) hvalid

/-- An upsert of a profile throws and changes nothing, or registers, or adjusts. -/
theorem upsertResolverProfile_cases (js : Runtime) (p : ResolverRegistryProfile)
    (s : ResolverStore) :
    (∃ e, run (resolverHandler js) (upsertResolverProfile js p) s = (.error e, s) ∧
        (s.profiles.get? p.resolverId = none → ¬(p.Valid ∧ ¬s.IdentityTaken p))) ∨
      (∃ hvalid, p.Valid ∧ ¬s.IdentityTaken p ∧ s.profiles.get? p.resolverId = none ∧
        run (resolverHandler js) (upsertResolverProfile js p) s =
          (.ok (), s.onboarded js p hvalid)) ∨
      ∃ row hvalid, p.Valid ∧ ¬s.IdentityTaken p ∧ s.profiles.get? p.resolverId = some row ∧
        row.Readable js ∧ run (resolverHandler js) (upsertResolverProfile js p) s =
          (.ok (), s.adjusted js row p hvalid) := by
  unfold upsertResolverProfile
  rw [run_getResolverProfile_bind]
  rcases readRow_profile_cases js s p.resolverId with ⟨e, hread, row, hrow, -⟩ | ⟨hread, hnone⟩ |
    ⟨row, hrow, hreadable, hread⟩
  · rw [hread]
    exact Or.inl ⟨e, rfl, fun hnone => absurd (hrow.symm.trans hnone) (by simp)⟩
  · rw [hread]
    simp only
    rw [run_updateResolverProfile_bind]
    rcases writeProfile_cases s p with ⟨e, hwrite, hrefused⟩ | ⟨hvalid, hp, htaken, hwrite⟩
    · rw [hwrite]
      exact Or.inl ⟨e, rfl, fun _ => hrefused⟩
    · refine Or.inr (Or.inl ⟨hvalid, hp, htaken, hnone, ?_⟩)
      rw [hwrite]
      simp only
      rw [run_insertBondLedgerEntry_bind, run_when]
      unfold onboarded
      split_ifs <;> rfl
  · rw [hread]
    simp only
    rw [run_updateResolverProfile_bind]
    rcases writeProfile_cases s p with ⟨e, hwrite, hrefused⟩ | ⟨hvalid, hp, htaken, hwrite⟩
    · rw [hwrite]
      exact Or.inl ⟨e, rfl, fun _ => hrefused⟩
    · refine Or.inr (Or.inr ⟨row, hvalid, hp, htaken, hrow, hreadable, ?_⟩)
      rw [hwrite]
      simp only
      rw [run_when]
      unfold adjusted
      split_ifs <;> rfl

theorem profiles_onboarded {p : ResolverRegistryProfile}
    (hvalid : (s.upsertedProfile p).Valid) :
    (s.onboarded js p hvalid).profiles = s.profiles.set p.resolverId (s.upsertedProfile p) := by
  have hput : (s.putProfile (s.upsertedProfile p) hvalid).profiles =
      s.profiles.set p.resolverId (s.upsertedProfile p) :=
    congrArg (s.profiles.set · (s.upsertedProfile p)) (upsertedProfile_resolverId s p)
  unfold onboarded
  split_ifs
  · rw [profiles_insertBondLedgerEntry, profiles_insertBondLedgerEntry, hput]
  · rw [profiles_insertBondLedgerEntry, hput]

theorem extends_onboarded (p : ResolverRegistryProfile) (hvalid : (s.upsertedProfile p).Valid) :
    s.Extends (s.onboarded js p hvalid) := by
  have hopened := (extends_putProfile s hvalid).trans
    (extends_insertBondLedgerEntry _ (onboardedEntry js p))
  unfold onboarded
  split_ifs
  · exact hopened.trans (extends_insertBondLedgerEntry _ _)
  · exact hopened

theorem upsertResolverProfile_extends (js : Runtime) (p : ResolverRegistryProfile)
    (s : ResolverStore) :
    s.Extends (run (resolverHandler js) (upsertResolverProfile js p) s).2 := by
  rcases upsertResolverProfile_cases js p s with ⟨e, hrun, -⟩ | ⟨hvalid, -, -, -, hrun⟩ |
    ⟨row, hvalid, -, -, -, -, hrun⟩
  · rw [hrun]
    exact .refl s
  · rw [hrun]
    exact extends_onboarded p hvalid
  · rw [hrun]
    show s.Extends (s.adjusted js row p hvalid)
    unfold adjusted
    split_ifs
    · exact (extends_putProfile s hvalid).trans (extends_insertBondLedgerEntry _ _)
    · exact extends_putProfile s hvalid

/-- The keys of a resolver without a profile are free. -/
theorem ResolverStore.SoundBooks.free_of_unregistered (hs : s.SoundBooks) {resolverId : String}
    (hnone : s.profiles.get? resolverId = none) {o : LedgerOccasion} (ho : ¬o.OfAssignment)
    {stamp : String} (hstamp : Text.Free ':' stamp) :
    s.bondLedger.get? (o.label ++ (resolverId ++ ":" ++ stamp)) = none := by
  cases hentry : s.bondLedger.get? (o.label ++ (resolverId ++ ":" ++ stamp)) with
  | none => rfl
  | some e =>
    obtain ⟨o', hkeys⟩ := hs.keyed _ _ hentry
    have hid := hkeys.resolverId_eq ho hstamp (s.bondLedger_ok _ _ hentry).1
    have hregistered := hs.registered _ _ hentry
    rw [hid, hnone] at hregistered
    contradiction

/-- A registration keeps the books: its rows are new and add up to the deposit. -/
theorem soundBooks_onboarded (hs : s.SoundBooks) {p : ResolverRegistryProfile}
    (hnone : s.profiles.get? p.resolverId = none) (hvalid : (s.upsertedProfile p).Valid) :
    (s.onboarded js p hvalid).SoundBooks := by
  have hstamp := free_dateText js p.createdAt
  have hopening : s.bondLedger.get? (onboardedEntry js p).entryId = none := by
    rw [onboardedEntry_entryId]
    exact hs.free_of_unregistered hnone (by decide) hstamp
  have hdeposit : s.bondLedger.get? (depositEntry js p).entryId = none := by
    rw [depositEntry_entryId]
    exact hs.free_of_unregistered hnone (by decide) hstamp
  have hno : s.bondAvailable p.resolverId = 0 := by
    rw [bondAvailable, hnone]
    rfl
  -- The books are kept entry by entry: the profile is opened without a bond, then funded.
  let bare := (s.upsertedProfile p).withBond 0 p.updatedAt
  have hbare : bare.Valid := ⟨hvalid.1, le_rfl⟩
  have hid : p.resolverId = bare.resolverId := (upsertedProfile_resolverId s p).symm
  have hopened : s.Posted ((s.putProfile bare hbare).insertBondLedgerEntry (onboardedEntry js p))
      (onboardedEntry js p) := by
    refine posted_putProfile hbare hopening hid ?_ le_rfl
    rw [← hid, hno]
    rfl
  have hbooks := hs.post hopened (keys_onboardedEntry js p) (by simp) (by simp)
  by_cases hfunded : p.bondAvailableMinorUnits > 0
  · let opened := (s.putProfile bare hbare).insertBondLedgerEntry (onboardedEntry js p)
    have hfree : opened.bondLedger.get? (depositEntry js p).entryId = none := by
      rw [hopened.bondLedger, Rows.get?_set, if_neg (depositEntry_ne_onboardedEntry js p), hdeposit]
    have hempty : opened.bondAvailable p.resolverId = 0 := by
      have h := hopened.bondAvailable p.resolverId
      rw [hno, add_zero] at h
      exact h.trans (if_pos rfl)
    have hfunding : opened.Posted ((opened.putProfile (s.upsertedProfile p)
        hvalid).insertBondLedgerEntry (depositEntry js p)) (depositEntry js p) := by
      refine posted_putProfile hvalid hfree hid ?_ hfunded.le
      rw [upsertedProfile_bond, upsertedProfile_resolverId, hempty, add_zero]
      rfl
    have hbooks' := hbooks.post hfunding (keys_depositEntry js p) (by simp) (by simp)
    refine hbooks'.congr ⟨?_, fun resolverId => ?_, fun resolverId h => ?_, fun _ h => ?_⟩
    · rw [onboarded, if_pos hfunded]
      simp only [opened, bondLedger_insertBondLedgerEntry, bondLedger_putProfile]
    · rw [onboarded, if_pos hfunded]
      simp only [opened, bondAvailable_insertBondLedgerEntry, bondAvailable_putProfile, ← hid,
        upsertedProfile_resolverId]
      split_ifs <;> rfl
    · rw [onboarded, if_pos hfunded]
      simp only [opened, profiles_insertBondLedgerEntry, isSome_putProfile_iff, ← hid,
        upsertedProfile_resolverId] at h ⊢
      exact h.elim id Or.inr
    · rw [onboarded, if_pos hfunded]
      simpa only [opened, assignments_insertBondLedgerEntry, assignments_putProfile] using h
  · have hzero : p.bondAvailableMinorUnits = 0 := by
      have hnonneg := hvalid.2
      rw [upsertedProfile_bond] at hnonneg
      omega
    have hfree : s.Posted (s.onboarded js p hvalid) (onboardedEntry js p) := by
      rw [onboarded, if_neg hfunded]
      refine posted_putProfile hvalid hopening hid ?_ le_rfl
      rw [upsertedProfile_bond, upsertedProfile_resolverId, hno, hzero]
      rfl
    exact hs.post hfree (keys_onboardedEntry js p) (by simp) (by simp)

/-- An upsert that changes a stored bond records the change under a key not used yet. -/
def UpsertSound (js : Runtime) (s : ResolverStore) (p : ResolverRegistryProfile) : Prop :=
  ∀ row, s.profiles.get? p.resolverId = some row → row.Readable js → p.Valid →
    ¬s.IdentityTaken p → row.bondAvailableMinorUnits ≠ p.bondAvailableMinorUnits →
      s.bondLedger.get? (LedgerOccasion.adjustment.label ++
          (p.resolverId ++ ":" ++ dateText js p.updatedAt)) = none ∧
        js.arithmetic.integer (p.bondAvailableMinorUnits - row.bondAvailableMinorUnits) =
          p.bondAvailableMinorUnits - row.bondAvailableMinorUnits

/-- A sound upsert keeps the books. -/
theorem upsertResolverProfile_sound {p : ResolverRegistryProfile} (hs : s.SoundBooks)
    (hsound : UpsertSound js s p) :
    (run (resolverHandler js) (upsertResolverProfile js p) s).2.SoundBooks := by
  rcases upsertResolverProfile_cases js p s with ⟨e, hrun, -⟩ | ⟨hvalid, -, -, hnone, hrun⟩ |
    ⟨row, hvalid, hp, htaken, hrow, hreadable, hrun⟩
  · rw [hrun]
    exact hs
  · rw [hrun]
    exact soundBooks_onboarded hs hnone hvalid
  · have hbalance : s.bondAvailable p.resolverId = row.bondAvailableMinorUnits := by
      rw [bondAvailable, hrow]
      rfl
    rw [hrun]
    show (s.adjusted js row p hvalid).SoundBooks
    unfold adjusted
    split_ifs with hchanged
    · obtain ⟨hfree, hexact⟩ := hsound row hrow hreadable hp htaken hchanged
      rw [← adjustmentEntry_entryId js row p] at hfree
      have hposted : s.Posted ((s.putProfile (s.upsertedProfile p)
          hvalid).insertBondLedgerEntry (adjustmentEntry js row p)) (adjustmentEntry js row p) := by
        refine posted_putProfile hvalid hfree (upsertedProfile_resolverId s p).symm ?_ hp.2
        rw [upsertedProfile_bond, upsertedProfile_resolverId, hbalance]
        have hdelta : (adjustmentEntry js row p).deltaMinorUnits =
            p.bondAvailableMinorUnits - row.bondAvailableMinorUnits := hexact
        omega
      exact hs.post hposted (keys_adjustmentEntry js row p) (by simp) (by simp)
    · refine hs.congr (sameBooks_putProfile hvalid ?_)
      rw [upsertedProfile_bond, upsertedProfile_resolverId, hbalance]
      omega

end Registration

end Yevow.DotCast
