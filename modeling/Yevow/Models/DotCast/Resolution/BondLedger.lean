import Yevow.Models.DotCast.Resolution.Resolvers

/-!
# The ledger of resolver bonds

Every ledger row is keyed by the occasion it records: a registration or adjustment of a
resolver at a time, or an event of an assignment. The keys of different occasions differ.
The books are sound when every balance is the sum of its resolver's rows and an assignment's
bond is returned at most once, in the amount that was locked and not after a slash.
-/

namespace Yevow.DotCast

open JavaScript (Runtime)
open Text (Free)

/-! ## Occasions and their keys -/

/-- The occasions on which the ledger gets a row. -/
inductive LedgerOccasion
  | onboarding
  | deposit
  | adjustment
  | admin
  | lock
  | release
  | feeCredit
  | slash
  deriving DecidableEq, Repr

namespace LedgerOccasion

/-- The text a key of the occasion starts with. -/
def label : LedgerOccasion → String
  | onboarding => "dotcast:e13:resolver-onboarded:"
  | deposit => "dotcast:e13:bond-deposit:"
  | adjustment => "dotcast:e13:bond-adjustment:"
  | admin => "dotcast:e13:admin-bond:"
  | lock => "dotcast:e13:bond-lock:"
  | release => "dotcast:e13:bond-release:"
  | feeCredit => "dotcast:e13:fee-credit:"
  | slash => "dotcast:e13:bond-slash:"

/-- The event types of the rows of an occasion. -/
def events : LedgerOccasion → List BondLedgerEventType
  | onboarding => [.resolverOnboarded]
  | deposit => [.bondDeposited]
  | adjustment => [.bondDeposited, .manualAdjustment]
  | admin => [.manualAdjustment]
  | lock => [.assignmentLocked]
  | release => [.bondReleased]
  | feeCredit => [.feeCredited]
  | slash => [.bondSlashed]

/-- The occasions that belong to an assignment. -/
def OfAssignment (o : LedgerOccasion) : Prop :=
  o = lock ∨ o = release ∨ o = feeCredit ∨ o = slash

instance (o : LedgerOccasion) : Decidable o.OfAssignment :=
  inferInstanceAs (Decidable (_ ∨ _))

/-- The occasion and the rest of a key can be read off it. -/
theorem label_inj {o o' : LedgerOccasion} {a b : String} (h : o.label ++ a = o'.label ++ b) :
    o = o' ∧ a = b := by
  by_cases ho : o = o'
  · subst ho
    exact ⟨rfl, Text.append_left_inj h⟩
  · revert h
    cases o <;> cases o' <;>
      first
        | exact absurd rfl ho
        | exact fun h => absurd h (Text.ne_of_take_ne (by decide))

/-- The row is keyed by the occasion. -/
def Keys (o : LedgerOccasion) (e : ResolverBondLedgerEntry) : Prop :=
  e.eventType ∈ o.events ∧
    if o.OfAssignment then ∃ assignmentId, e.assignmentId = some assignmentId ∧
      e.entryId = o.label ++ assignmentId
    else e.assignmentId = none ∧ ∃ stamp, Free ':' stamp ∧
      e.entryId = o.label ++ (e.resolverId ++ ":" ++ stamp)

variable {o : LedgerOccasion} {e : ResolverBondLedgerEntry}

private theorem Keys.of_resolver (ho : ¬o.OfAssignment) (hevent : e.eventType ∈ o.events)
    (hassignment : e.assignmentId = none) {stamp : String} (hstamp : Free ':' stamp)
    (hkey : e.entryId = o.label ++ (e.resolverId ++ ":" ++ stamp)) : o.Keys e := by
  refine ⟨hevent, ?_⟩
  rw [if_neg ho]
  exact ⟨hassignment, stamp, hstamp, hkey⟩

private theorem Keys.of_assignment (ho : o.OfAssignment) (hevent : e.eventType ∈ o.events)
    {assignmentId : String} (hassignment : e.assignmentId = some assignmentId)
    (hkey : e.entryId = o.label ++ assignmentId) : o.Keys e := by
  refine ⟨hevent, ?_⟩
  rw [if_pos ho]
  exact ⟨assignmentId, hassignment, hkey⟩

/-- The occasion is named by the event where it belongs to an assignment. -/
theorem Keys.occasion_eq (h : o.Keys e) {k : LedgerOccasion} (hk : k.OfAssignment)
    (he : e.eventType ∈ k.events) : o = k := by
  have hevent := h.1
  rcases hk with rfl | rfl | rfl | rfl <;> cases o <;> simp_all [events]

theorem Keys.exists_assignmentId (h : o.Keys e) {k : LedgerOccasion} (hk : k.OfAssignment)
    (he : e.eventType ∈ k.events) :
    ∃ assignmentId, e.assignmentId = some assignmentId ∧ e.entryId = k.label ++ assignmentId := by
  obtain rfl := h.occasion_eq hk he
  simpa only [if_pos hk] using h.2

theorem Keys.entryId_of_mem_events (h : o.Keys e) {k : LedgerOccasion} (hk : k.OfAssignment)
    (he : e.eventType ∈ k.events) {assignmentId : String}
    (ha : e.assignmentId = some assignmentId) : e.entryId = k.label ++ assignmentId := by
  obtain ⟨id, hid, hkey⟩ := h.exists_assignmentId hk he
  rw [ha, Option.some.injEq] at hid
  rw [hid, hkey]

/-- A row under an assignment's key belongs to that assignment and occasion. -/
theorem Keys.of_entryId (h : o.Keys e) {k : LedgerOccasion} (hk : k.OfAssignment)
    {assignmentId : String} (hkey : e.entryId = k.label ++ assignmentId) :
    o = k ∧ e.assignmentId = some assignmentId := by
  by_cases ho : o.OfAssignment
  · obtain ⟨id, hid, hkey'⟩ := by simpa only [if_pos ho] using h.2
    obtain ⟨rfl, rfl⟩ := label_inj (hkey'.symm.trans hkey)
    exact ⟨rfl, hid⟩
  · obtain ⟨-, stamp, -, hkey'⟩ := by simpa only [if_neg ho] using h.2
    obtain ⟨rfl, -⟩ := label_inj (hkey'.symm.trans hkey)
    exact absurd hk ho

/-- A row under a resolver's key is the resolver's. -/
theorem Keys.resolverId_eq (h : o.Keys e) {k : LedgerOccasion} (hk : ¬k.OfAssignment)
    {resolverId stamp : String} (hstamp : Free ':' stamp)
    (hkey : e.entryId = k.label ++ (resolverId ++ ":" ++ stamp)) :
    e.resolverId = resolverId := by
  by_cases ho : o.OfAssignment
  · obtain ⟨id, -, hkey'⟩ := by simpa only [if_pos ho] using h.2
    obtain ⟨rfl, -⟩ := label_inj (hkey'.symm.trans hkey)
    exact absurd ho hk
  · obtain ⟨-, stamp', hstamp', hkey'⟩ := by simpa only [if_neg ho] using h.2
    obtain ⟨-, hrest⟩ := label_inj (hkey'.symm.trans hkey)
    exact (Text.append_sep_inj rfl hstamp' hstamp hrest).1

end LedgerOccasion

section Entries

variable (js : Runtime) (p q : ResolverRegistryProfile)

theorem onboardedEntry_entryId : (onboardedEntry js p).entryId =
    LedgerOccasion.onboarding.label ++ (p.resolverId ++ ":" ++ dateText js p.createdAt) :=
  Text.append_assoc₃ _ _ _ _

theorem depositEntry_entryId : (depositEntry js p).entryId =
    LedgerOccasion.deposit.label ++ (p.resolverId ++ ":" ++ dateText js p.createdAt) :=
  Text.append_assoc₃ _ _ _ _

theorem adjustmentEntry_entryId : (adjustmentEntry js p q).entryId =
    LedgerOccasion.adjustment.label ++ (q.resolverId ++ ":" ++ dateText js q.updatedAt) :=
  Text.append_assoc₃ _ _ _ _

theorem adminBondEntry_entryId (resolverId now : String) (delta after : ℤ) :
    (adminBondEntry js resolverId delta after now).entryId =
      LedgerOccasion.admin.label ++ (resolverId ++ ":" ++ dateText js now) :=
  Text.append_assoc₃ _ _ _ _

theorem keys_onboardedEntry : LedgerOccasion.onboarding.Keys (onboardedEntry js p) :=
  .of_resolver (by decide) (List.mem_singleton.mpr rfl) rfl (free_dateText js _)
    (onboardedEntry_entryId js p)

theorem keys_depositEntry : LedgerOccasion.deposit.Keys (depositEntry js p) :=
  .of_resolver (by decide) (List.mem_singleton.mpr rfl) rfl (free_dateText js _)
    (depositEntry_entryId js p)

theorem keys_adjustmentEntry : LedgerOccasion.adjustment.Keys (adjustmentEntry js p q) := by
  have hevent : (adjustmentEntry js p q).eventType ∈ LedgerOccasion.adjustment.events := by
    show (if _ then _ else _) ∈ [BondLedgerEventType.bondDeposited, .manualAdjustment]
    split_ifs <;> simp
  exact .of_resolver (by decide) hevent rfl (free_dateText js _) (adjustmentEntry_entryId js p q)

theorem keys_adminBondEntry (resolverId now : String) (delta after : ℤ) :
    LedgerOccasion.admin.Keys (adminBondEntry js resolverId delta after now) :=
  .of_resolver (by decide) (List.mem_singleton.mpr rfl) rfl (free_dateText js _)
    (adminBondEntry_entryId js resolverId now delta after)

theorem depositEntry_ne_onboardedEntry :
    (depositEntry js p).entryId ≠ (onboardedEntry js p).entryId := by
  intro hkey
  have hlabels := (depositEntry_entryId js p).symm.trans
    (hkey.trans (onboardedEntry_entryId js p))
  exact absurd (LedgerOccasion.label_inj hlabels).1 (by decide)

end Entries

/-- The movement belongs to an occasion of its assignment. -/
structure BondDelta.On (d : BondDelta) (o : LedgerOccasion) : Prop where
  assignment : o.OfAssignment
  event : d.eventType ∈ o.events
  key : d.entryId = o.label ++ d.assignmentId

theorem BondDelta.On.keys {d : BondDelta} {o : LedgerOccasion} (h : d.On o) (balance : ℤ) :
    o.Keys (d.entry balance) :=
  .of_assignment h.assignment h.event rfl h.key

theorem lockDelta_on (a : ResolverAssignment) : (lockDelta a).On .lock :=
  ⟨by decide, List.mem_singleton.mpr rfl, rfl⟩

theorem releaseDelta_on (p : ResolverPayout) : (releaseDelta p).On .release :=
  ⟨by decide, List.mem_singleton.mpr rfl, rfl⟩

theorem feeDelta_on (p : ResolverPayout) : (feeDelta p).On .feeCredit :=
  ⟨by decide, List.mem_singleton.mpr rfl, rfl⟩

theorem slashDelta_on (p : ResolverPayout) : (slashDelta p).On .slash :=
  ⟨by decide, List.mem_singleton.mpr rfl, rfl⟩

/-! ## Sound books -/

namespace ResolverStore

variable (s : ResolverStore)

/-- A resolver's available bond; a resolver without a profile has none. -/
def bondAvailable (resolverId : String) : ℤ :=
  (s.profiles.get? resolverId).elim 0 ResolverRegistryProfile.bondAvailableMinorUnits

/-- The part of a ledger row in a resolver's sum. -/
def bondShare (resolverId : String) (e : ResolverBondLedgerEntry) : ℤ :=
  if e.resolverId = resolverId then e.deltaMinorUnits else 0

/-- The sum of a resolver's ledger rows. -/
def bondLedgerSum (resolverId : String) : ℤ := s.bondLedger.total (bondShare resolverId)

/-- The ledger row of an assignment's occasion. -/
def bondEntry (o : LedgerOccasion) (assignmentId : String) : Option ResolverBondLedgerEntry :=
  s.bondLedger.get? (o.label ++ assignmentId)

/-- What the ledger and the profiles keep between the store's operations. -/
structure SoundBooks : Prop where
  keyed : ∀ id e, s.bondLedger.get? id = some e → ∃ o : LedgerOccasion, o.Keys e
  registered : ∀ id e, s.bondLedger.get? id = some e → (s.profiles.get? e.resolverId).isSome
  balanced : ∀ resolverId, s.bondAvailable resolverId = s.bondLedgerSum resolverId
  closed : ∀ assignmentId, s.bondEntry .release assignmentId = none ∨
    s.bondEntry .slash assignmentId = none
  returned : ∀ assignmentId e, s.bondEntry .release assignmentId = some e →
    (s.assignments.get? assignmentId).isSome ∧
      ∃ l, s.bondEntry .lock assignmentId = some l ∧ l.deltaMinorUnits = -e.deltaMinorUnits

/-- Every stored assignment has its lock in the ledger. -/
def BondsLocked : Prop :=
  ∀ assignmentId, (s.assignments.get? assignmentId).isSome →
    (s.bondEntry .lock assignmentId).isSome

end ResolverStore

theorem ResolverStore.soundBooks_empty : ResolverStore.empty.SoundBooks where
  keyed id e h := by simp [ResolverStore.empty] at h
  registered id e h := by simp [ResolverStore.empty] at h
  balanced resolverId := rfl
  closed assignmentId := Or.inl rfl
  returned assignmentId e h := by simp [ResolverStore.empty, ResolverStore.bondEntry] at h

end Yevow.DotCast
