import Yevow.Models.DotCast.Resolution.Store

/-!
# Rows that can be read

A row is read back field by field. Texts that are empty and numbers that are not safe
integers make the call throw; any other row is returned as it is stored.
-/

namespace Yevow.DotCast

open JavaScript (Runtime)

variable {js : Runtime}

theorem rowText_eq_ok {value label text : String} :
    rowText value label = .ok text ↔ value ≠ "" ∧ text = value := by
  unfold rowText
  split_ifs with h
  · simp [h]
  · simp [h, eq_comm]

theorem rowInteger_eq_ok {value n : ℤ} {label : String} :
    rowInteger js value label = .ok n ↔ js.arithmetic.isSafeInteger value = true ∧ n = value := by
  unfold rowInteger
  split_ifs with h
  · simp [h, eq_comm]
  · simp [h]

/-- Reading rows one by one stores nothing new in them. -/
theorem mapM_fromRow_eq_ok {β : Type} {fromRow : β → Except Fault β}
    (hfrom : ∀ row b, fromRow row = .ok b → b = row) {rows bs : List β}
    (h : rows.mapM fromRow = .ok bs) : bs = rows := by
  induction rows generalizing bs with
  | nil =>
    obtain rfl := Except.ok.inj h
    rfl
  | cons row rows ih =>
    rw [List.mapM_cons] at h
    obtain ⟨b, hb, h⟩ := Except.bind_eq_ok.mp h
    obtain ⟨rest, hrest, h⟩ := Except.bind_eq_ok.mp h
    obtain rfl := Except.ok.inj h
    rw [hfrom row b hb, ih hrest]

/-! ## Profiles -/

/-- A profile that `resolverProfileFromRow` accepts. -/
structure ResolverRegistryProfile.Readable (js : Runtime) (row : ResolverRegistryProfile) :
    Prop where
  resolverId : row.resolverId ≠ ""
  identityHash : row.identityHash ≠ ""
  reputationBps : js.arithmetic.isSafeInteger row.reputationBps = true
  bond : js.arithmetic.isSafeInteger row.bondAvailableMinorUnits = true
  createdAt : row.createdAt ≠ ""
  updatedAt : row.updatedAt ≠ ""

/-- Reading a profile returns it, an empty display name apart. -/
theorem resolverProfileFromRow_eq_ok {row p : ResolverRegistryProfile} :
    resolverProfileFromRow js row = .ok p ↔
      row.Readable js ∧ p = { row with displayName := nullableText row.displayName } := by
  unfold resolverProfileFromRow
  simp only [Except.bind_eq_ok, rowText_eq_ok, rowInteger_eq_ok, Except.pure_eq_ok,
    Except.ok.injEq]
  constructor
  · rintro ⟨_, ⟨h₁, rfl⟩, _, ⟨h₂, rfl⟩, _, ⟨h₃, rfl⟩, _, ⟨h₄, rfl⟩, _, ⟨h₅, rfl⟩, _, ⟨h₆, rfl⟩, rfl⟩
    exact ⟨⟨h₁, h₂, h₃, h₄, h₅, h₆⟩, rfl⟩
  · rintro ⟨h, rfl⟩
    exact ⟨_, ⟨h.1, rfl⟩, _, ⟨h.2, rfl⟩, _, ⟨h.3, rfl⟩, _, ⟨h.4, rfl⟩, _, ⟨h.5, rfl⟩, _,
      ⟨h.6, rfl⟩, rfl⟩

/-- What a call for a profile finds: nothing, a readable row, or a row that makes it throw. -/
theorem readRow_profile_cases (js : Runtime) (s : ResolverStore) (resolverId : String) :
    (∃ e, readRow (resolverProfileFromRow js) (s.profiles.get? resolverId) = .error e ∧
        ∃ row, s.profiles.get? resolverId = some row ∧ ¬row.Readable js) ∨
      (readRow (resolverProfileFromRow js) (s.profiles.get? resolverId) = .ok none ∧
        s.profiles.get? resolverId = none) ∨
      ∃ row, s.profiles.get? resolverId = some row ∧ row.Readable js ∧
        readRow (resolverProfileFromRow js) (s.profiles.get? resolverId) =
          .ok (some { row with displayName := nullableText row.displayName }) := by
  cases hrow : s.profiles.get? resolverId with
  | none => exact Or.inr (Or.inl ⟨rfl, rfl⟩)
  | some row =>
    cases hread : resolverProfileFromRow js row with
    | error e =>
      refine Or.inl ⟨e, by simp [readRow, hread, Except.map], row, rfl, fun hreadable => ?_⟩
      rw [resolverProfileFromRow_eq_ok.mpr ⟨hreadable, rfl⟩] at hread
      contradiction
    | ok p =>
      obtain ⟨hreadable, rfl⟩ := resolverProfileFromRow_eq_ok.mp hread
      exact Or.inr (Or.inr ⟨row, rfl, hreadable, by simp [readRow, hread, Except.map]⟩)

/-! ## Assignments -/

/-- An assignment that `assignmentFromRow` accepts. -/
structure ResolverAssignment.Readable (js : Runtime) (row : ResolverAssignment) : Prop where
  assignmentId : row.assignmentId ≠ ""
  panelId : row.panelId ≠ ""
  poolId : row.poolId ≠ ""
  routeId : row.routeId ≠ ""
  resolverId : row.resolverId ≠ ""
  identityHash : row.identityHash ≠ ""
  reputationBps : js.arithmetic.isSafeInteger row.reputationBps = true
  bond : js.arithmetic.isSafeInteger row.bondMinorUnits = true
  assignedAt : row.assignedAt ≠ ""

/-- Reading an assignment returns it as it is stored. -/
theorem assignmentFromRow_eq_ok {row a : ResolverAssignment} :
    assignmentFromRow js row = .ok a ↔ row.Readable js ∧ a = row := by
  unfold assignmentFromRow
  simp only [Except.bind_eq_ok, rowText_eq_ok, rowInteger_eq_ok, Except.pure_eq_ok,
    Except.ok.injEq]
  constructor
  · rintro ⟨_, ⟨h₁, rfl⟩, _, ⟨h₂, rfl⟩, _, ⟨h₃, rfl⟩, _, ⟨h₄, rfl⟩, _, ⟨h₅, rfl⟩, _, ⟨h₆, rfl⟩,
      _, ⟨h₇, rfl⟩, _, ⟨h₈, rfl⟩, _, ⟨h₉, rfl⟩, rfl⟩
    exact ⟨⟨h₁, h₂, h₃, h₄, h₅, h₆, h₇, h₈, h₉⟩, rfl⟩
  · rintro ⟨h, rfl⟩
    exact ⟨_, ⟨h.1, rfl⟩, _, ⟨h.2, rfl⟩, _, ⟨h.3, rfl⟩, _, ⟨h.4, rfl⟩, _, ⟨h.5, rfl⟩, _,
      ⟨h.6, rfl⟩, _, ⟨h.7, rfl⟩, _, ⟨h.8, rfl⟩, _, ⟨h.9, rfl⟩, rfl⟩

/-! ## Panels, commits and reveals -/

theorem panelFromRow_eq_ok {row p : ResolverPanelRow} (h : panelFromRow js row = .ok p) :
    p = row := by
  unfold panelFromRow at h
  simp only [Except.bind_eq_ok, rowText_eq_ok, rowInteger_eq_ok, Except.pure_eq_ok,
    Except.ok.injEq] at h
  obtain ⟨_, ⟨-, rfl⟩, _, ⟨-, rfl⟩, _, ⟨-, rfl⟩, _, ⟨-, rfl⟩, _, ⟨-, rfl⟩, _, ⟨-, rfl⟩,
    _, ⟨-, rfl⟩, rfl⟩ := h
  rfl

theorem commitFromRow_eq_ok {row c : ResolverCommit} (h : commitFromRow row = .ok c) :
    c = row := by
  unfold commitFromRow at h
  simp only [Except.bind_eq_ok, rowText_eq_ok, Except.pure_eq_ok, Except.ok.injEq] at h
  obtain ⟨_, ⟨-, rfl⟩, _, ⟨-, rfl⟩, _, ⟨-, rfl⟩, _, ⟨-, rfl⟩, _, ⟨-, rfl⟩, rfl⟩ := h
  rfl

theorem revealFromRow_eq_ok {row r : ResolverReveal} (h : revealFromRow row = .ok r) :
    r = row := by
  unfold revealFromRow at h
  simp only [Except.bind_eq_ok, rowText_eq_ok, Except.pure_eq_ok, Except.ok.injEq] at h
  obtain ⟨_, ⟨-, rfl⟩, _, ⟨-, rfl⟩, _, ⟨-, rfl⟩, _, ⟨-, rfl⟩, _, ⟨-, rfl⟩, rfl⟩ := h
  rfl

end Yevow.DotCast
