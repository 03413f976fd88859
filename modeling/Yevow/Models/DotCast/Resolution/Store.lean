import Yevow.Core.Collection.Rows
import Yevow.Core.Collection.Sorting
import Yevow.Models.DotCast.Funding.Rail
import Yevow.Models.DotCast.Reading

/-!
# The resolver store

Profiles of resolvers, the ledger of their bonds, panels with their assignments, and the
commits, reveals and payouts of a panel, each a table with the checks of its schema. A
store carries the proof that its rows pass them. A plain write that would break a check is
refused; an insertion that ignores conflicts skips the row instead.
-/

namespace Yevow.DotCast

open JavaScript (Runtime)

/-! ## Rows -/

/-- Whether a resolver may serve. -/
inductive ResolverStatus
  | active
  | suspended
  | archived
  deriving DecidableEq, Repr

/-- A resolver. -/
structure ResolverRegistryProfile where
  resolverId : String
  identityHash : String
  status : ResolverStatus
  displayName : Option String
  reputationBps : ℤ
  bondAvailableMinorUnits : ℤ
  stakeHeldPoolIds : List String
  createdAt : String
  updatedAt : String
  deriving DecidableEq

/-- `SET bond_available_minor_units, updated_at`. -/
def ResolverRegistryProfile.withBond (p : ResolverRegistryProfile)
    (bondAvailableMinorUnits : ℤ) (updatedAt : String) : ResolverRegistryProfile :=
  { p with bondAvailableMinorUnits := bondAvailableMinorUnits, updatedAt := updatedAt }

/-- `SET reputation_bps, updated_at`. -/
def ResolverRegistryProfile.withReputation (p : ResolverRegistryProfile) (reputationBps : ℤ)
    (updatedAt : String) : ResolverRegistryProfile :=
  { p with reputationBps := reputationBps, updatedAt := updatedAt }

/-- A profile passes the checks of its table. -/
def ResolverRegistryProfile.Valid (p : ResolverRegistryProfile) : Prop :=
  (0 ≤ p.reputationBps ∧ p.reputationBps ≤ 10000) ∧ 0 ≤ p.bondAvailableMinorUnits

instance (p : ResolverRegistryProfile) : Decidable p.Valid :=
  inferInstanceAs (Decidable (_ ∧ _))

/-- What happened to a bond. -/
inductive BondLedgerEventType
  | resolverOnboarded
  | bondDeposited
  | assignmentLocked
  | bondReleased
  | bondSlashed
  | feeCredited
  | manualAdjustment
  deriving DecidableEq, Repr

/-- An entry in the ledger of bonds. -/
structure ResolverBondLedgerEntry where
  entryId : String
  resolverId : String
  assignmentId : Option String
  panelId : Option String
  eventType : BondLedgerEventType
  deltaMinorUnits : ℤ
  balanceAfterMinorUnits : ℤ
  createdAt : String
  deriving DecidableEq

/-- Why a reputation changes. -/
inductive ReputationReason
  | settlementConsensusMatch
  | settlementConsensusMiss
  | manualAdjustment
  deriving DecidableEq, Repr

/-- A change of a reputation. -/
structure ResolverReputationEvent where
  eventId : String
  resolverId : String
  assignmentId : Option String
  panelId : Option String
  previousReputationBps : ℤ
  newReputationBps : ℤ
  deltaBps : ℤ
  reason : ReputationReason
  createdAt : String
  deriving DecidableEq

/-- A change passes the checks of its table. -/
def ResolverReputationEvent.Valid (e : ResolverReputationEvent) : Prop :=
  (0 ≤ e.previousReputationBps ∧ e.previousReputationBps ≤ 10000) ∧
    0 ≤ e.newReputationBps ∧ e.newReputationBps ≤ 10000

instance (e : ResolverReputationEvent) : Decidable e.Valid :=
  inferInstanceAs (Decidable (_ ∧ _))

/-- How a route is resolved. -/
inductive ResolutionTier
  | hardOracle
  | computedOracle
  | aiPerception
  | optimisticBonded
  | humanJury
  deriving DecidableEq, Repr

/-- How far a resolver has come. -/
inductive AssignmentStatus
  | assigned
  | committed
  | revealed
  | paid
  | slashed
  deriving DecidableEq, Repr

/-- The seat of a resolver on a panel. -/
structure ResolverAssignment where
  assignmentId : String
  panelId : String
  poolId : String
  routeId : String
  resolverId : String
  identityHash : String
  reputationBps : ℤ
  bondMinorUnits : ℤ
  status : AssignmentStatus
  assignedAt : String
  deriving DecidableEq

/-- A seat passes the checks of its table. -/
def ResolverAssignment.Valid (a : ResolverAssignment) : Prop :=
  (0 ≤ a.reputationBps ∧ a.reputationBps ≤ 10000) ∧ 0 ≤ a.bondMinorUnits

instance (a : ResolverAssignment) : Decidable a.Valid :=
  inferInstanceAs (Decidable (_ ∧ _))

/-- A row of `dotcast_resolver_panels`: a panel without its assignments. -/
structure ResolverPanelRow where
  panelId : String
  poolId : String
  routeId : String
  tier : ResolutionTier
  panelSize : ℤ
  estimatedStakeMinorUnits : ℤ
  resolverFeeBps : ℤ
  createdAt : String
  deriving DecidableEq

/-- A panel passes the checks of its table. -/
def ResolverPanelRow.Valid (p : ResolverPanelRow) : Prop :=
  0 < p.panelSize ∧ 0 ≤ p.estimatedStakeMinorUnits ∧
    0 ≤ p.resolverFeeBps ∧ p.resolverFeeBps ≤ 10000

instance (p : ResolverPanelRow) : Decidable p.Valid :=
  inferInstanceAs (Decidable (_ ∧ _))

/-- A panel and its seats. -/
structure ResolverPanel extends ResolverPanelRow where
  assignments : List ResolverAssignment
  deriving DecidableEq

/-- A committed vote. -/
structure ResolverCommit where
  assignmentId : String
  panelId : String
  resolverId : String
  commitHash : String
  committedAt : String
  deriving DecidableEq

/-- A revealed vote. -/
structure ResolverReveal where
  assignmentId : String
  panelId : String
  resolverId : String
  outcome : PoolOutcome
  salt : String
  revealedAt : String
  deriving DecidableEq

/-- What a resolver is paid. -/
structure ResolverPayout where
  assignmentId : String
  panelId : String
  resolverId : String
  matchedConsensus : Bool
  bondReturnedMinorUnits : ℤ
  feePaidMinorUnits : ℤ
  slashedBondMinorUnits : ℤ
  createdAt : String
  deriving DecidableEq

/-- A payout passes the checks of its table. -/
def ResolverPayout.Valid (p : ResolverPayout) : Prop :=
  0 ≤ p.bondReturnedMinorUnits ∧ 0 ≤ p.feePaidMinorUnits ∧ 0 ≤ p.slashedBondMinorUnits

instance (p : ResolverPayout) : Decidable p.Valid :=
  inferInstanceAs (Decidable (_ ∧ _))

/-! ## Calls -/

/-- The statements the store sends to its database. -/
inductive ResolverOp
  | getResolverProfile (resolverId : String)
  | writeProfile (profile : ResolverRegistryProfile)
  | updateProfileBond (resolverId : String) (bondAvailableMinorUnits : ℤ) (updatedAt : String)
  | updateProfileReputation (resolverId : String) (reputationBps : ℤ) (updatedAt : String)
  | bondLedgerEntryExists (entryId : String)
  | insertResolverBondLedgerEntry (entry : ResolverBondLedgerEntry)
  | reputationEventExists (eventId : String)
  | insertResolverReputationEvent (event : ResolverReputationEvent)
  | insertPanelRow (panel : ResolverPanelRow)
  | getPanelRow (panelId : String)
  | insertAssignment (assignment : ResolverAssignment)
  | getResolverAssignment (assignmentId : String)
  | listAssignments (panelId : String)
  | updateResolverAssignmentStatus (assignmentId : String) (status : AssignmentStatus)
  | insertCommitRow (commit : ResolverCommit)
  | getResolverCommit (assignmentId : String)
  | listResolverCommits (panelId : String)
  | insertRevealRow (reveal : ResolverReveal)
  | listResolverReveals (panelId : String)
  | resolverPayoutExists (assignmentId panelId : String)
  | insertPayoutRow (payout : ResolverPayout)

/-- What each statement answers. -/
def ResolverOp.Ret : ResolverOp → Type
  | getResolverProfile _ => Option ResolverRegistryProfile
  | bondLedgerEntryExists _ => Bool
  | reputationEventExists _ => Bool
  | getPanelRow _ => Option ResolverPanelRow
  | getResolverAssignment _ => Option ResolverAssignment
  | listAssignments _ => List ResolverAssignment
  | getResolverCommit _ => Option ResolverCommit
  | listResolverCommits _ => List ResolverCommit
  | listResolverReveals _ => List ResolverReveal
  | resolverPayoutExists _ _ => Bool
  | _ => Unit

/-- A function over the resolver store. -/
abbrev Resolving (α : Type) : Type := Program ResolverOp ResolverOp.Ret Fault α

/-! ## Reading rows -/

section Reading

variable (js : Runtime)

def routerRowFault (message : String) : Fault :=
  ⟨message, some "RESOLUTION_ROUTE_ROW_INVALID", some 500⟩

def rowText (value label : String) : Except Fault String :=
  if value = "" then .error (routerRowFault (label ++ " is missing from stored E13 row"))
  else .ok value

def rowInteger (value : ℤ) (label : String) : Except Fault ℤ :=
  if js.arithmetic.isSafeInteger value = true then .ok value
  else .error (routerRowFault (label ++ " must be an integer in stored E13 row"))

def resolverProfileFromRow (row : ResolverRegistryProfile) :
    Except Fault ResolverRegistryProfile := do
  return {
    resolverId := ← rowText row.resolverId "resolver_id"
    identityHash := ← rowText row.identityHash "identity_hash"
    status := row.status
    displayName := nullableText row.displayName
    reputationBps := ← rowInteger js row.reputationBps "reputation_bps"
    bondAvailableMinorUnits :=
      ← rowInteger js row.bondAvailableMinorUnits "bond_available_minor_units"
    stakeHeldPoolIds := row.stakeHeldPoolIds
    createdAt := ← rowText row.createdAt "created_at"
    updatedAt := ← rowText row.updatedAt "updated_at" }

def panelFromRow (row : ResolverPanelRow) : Except Fault ResolverPanelRow := do
  return {
    panelId := ← rowText row.panelId "panel_id"
    poolId := ← rowText row.poolId "pool_id"
    routeId := ← rowText row.routeId "route_id"
    tier := row.tier
    panelSize := ← rowInteger js row.panelSize "panel_size"
    estimatedStakeMinorUnits :=
      ← rowInteger js row.estimatedStakeMinorUnits "estimated_stake_minor_units"
    resolverFeeBps := ← rowInteger js row.resolverFeeBps "resolver_fee_bps"
    createdAt := ← rowText row.createdAt "created_at" }

def assignmentFromRow (row : ResolverAssignment) : Except Fault ResolverAssignment := do
  return {
    assignmentId := ← rowText row.assignmentId "assignment_id"
    panelId := ← rowText row.panelId "panel_id"
    poolId := ← rowText row.poolId "pool_id"
    routeId := ← rowText row.routeId "route_id"
    resolverId := ← rowText row.resolverId "resolver_id"
    identityHash := ← rowText row.identityHash "identity_hash"
    reputationBps := ← rowInteger js row.reputationBps "reputation_bps"
    bondMinorUnits := ← rowInteger js row.bondMinorUnits "bond_minor_units"
    status := row.status
    assignedAt := ← rowText row.assignedAt "assigned_at" }

def commitFromRow (row : ResolverCommit) : Except Fault ResolverCommit := do
  return {
    assignmentId := ← rowText row.assignmentId "assignment_id"
    panelId := ← rowText row.panelId "panel_id"
    resolverId := ← rowText row.resolverId "resolver_id"
    commitHash := ← rowText row.commitHash "commit_hash"
    committedAt := ← rowText row.committedAt "committed_at" }

def revealFromRow (row : ResolverReveal) : Except Fault ResolverReveal := do
  return {
    assignmentId := ← rowText row.assignmentId "assignment_id"
    panelId := ← rowText row.panelId "panel_id"
    resolverId := ← rowText row.resolverId "resolver_id"
    outcome := row.outcome
    salt := ← rowText row.salt "salt"
    revealedAt := ← rowText row.revealedAt "revealed_at" }

/-- Two text columns as an ascending sort key. -/
def compareTexts (a b : String × String) : ℤ :=
  if a = b then 0 else if a.1 < b.1 ∨ a.1 = b.1 ∧ a.2 < b.2 then -1 else 1

end Reading

/-! ## Stores -/

/-- The tables of resolvers and panels. -/
structure ResolverStore where
  profiles : Rows String ResolverRegistryProfile
  bondLedger : Rows String ResolverBondLedgerEntry
  reputationEvents : Rows String ResolverReputationEvent
  panels : Rows String ResolverPanelRow
  assignments : Rows String ResolverAssignment
  commits : Rows String ResolverCommit
  reveals : Rows String ResolverReveal
  payouts : Rows (String × String) ResolverPayout
  profiles_ok : ∀ id p, profiles.get? id = some p → p.resolverId = id ∧ p.Valid
  bondLedger_ok : ∀ id e, bondLedger.get? id = some e →
    e.entryId = id ∧ 0 ≤ e.balanceAfterMinorUnits
  reputationEvents_ok : ∀ id e, reputationEvents.get? id = some e → e.eventId = id ∧ e.Valid
  panels_ok : ∀ id p, panels.get? id = some p → p.panelId = id ∧ p.Valid
  assignments_ok : ∀ id a, assignments.get? id = some a → a.assignmentId = id ∧ a.Valid
  commits_ok : ∀ id c, commits.get? id = some c → c.assignmentId = id
  reveals_ok : ∀ id r, reveals.get? id = some r → r.assignmentId = id
  payouts_ok : ∀ id p, payouts.get? id = some p → (p.assignmentId, p.panelId) = id ∧ p.Valid

namespace ResolverStore

/-- The store with no rows. -/
def empty : ResolverStore where
  profiles := Rows.empty
  bondLedger := Rows.empty
  reputationEvents := Rows.empty
  panels := Rows.empty
  assignments := Rows.empty
  commits := Rows.empty
  reveals := Rows.empty
  payouts := Rows.empty
  profiles_ok := by simp
  bondLedger_ok := by simp
  reputationEvents_ok := by simp
  panels_ok := by simp
  assignments_ok := by simp
  commits_ok := by simp
  reveals_ok := by simp
  payouts_ok := by simp

/-! ### Rows that pass the checks -/

def putProfile (s : ResolverStore) (p : ResolverRegistryProfile) (h : p.Valid) : ResolverStore :=
  { s with
    profiles := s.profiles.set p.resolverId p
    profiles_ok := Rows.forall_set s.profiles_ok ⟨rfl, h⟩ }

def putBondLedgerEntry (s : ResolverStore) (e : ResolverBondLedgerEntry)
    (h : 0 ≤ e.balanceAfterMinorUnits) : ResolverStore :=
  { s with
    bondLedger := s.bondLedger.set e.entryId e
    bondLedger_ok := Rows.forall_set s.bondLedger_ok ⟨rfl, h⟩ }

def putReputationEvent (s : ResolverStore) (e : ResolverReputationEvent) (h : e.Valid) :
    ResolverStore :=
  { s with
    reputationEvents := s.reputationEvents.set e.eventId e
    reputationEvents_ok := Rows.forall_set s.reputationEvents_ok ⟨rfl, h⟩ }

def putPanel (s : ResolverStore) (p : ResolverPanelRow) (h : p.Valid) : ResolverStore :=
  { s with
    panels := s.panels.set p.panelId p
    panels_ok := Rows.forall_set s.panels_ok ⟨rfl, h⟩ }

def putAssignment (s : ResolverStore) (a : ResolverAssignment) (h : a.Valid) : ResolverStore :=
  { s with
    assignments := s.assignments.set a.assignmentId a
    assignments_ok := Rows.forall_set s.assignments_ok ⟨rfl, h⟩ }

def putCommit (s : ResolverStore) (c : ResolverCommit) : ResolverStore :=
  { s with
    commits := s.commits.set c.assignmentId c
    commits_ok := Rows.forall_set s.commits_ok rfl }

def putReveal (s : ResolverStore) (r : ResolverReveal) : ResolverStore :=
  { s with
    reveals := s.reveals.set r.assignmentId r
    reveals_ok := Rows.forall_set s.reveals_ok rfl }

def putPayout (s : ResolverStore) (p : ResolverPayout) (h : p.Valid) : ResolverStore :=
  { s with
    payouts := s.payouts.set (p.assignmentId, p.panelId) p
    payouts_ok := Rows.forall_set s.payouts_ok ⟨rfl, h⟩ }

/-! ### Statements -/

/-- Another resolver has the profile's identity. -/
def IdentityTaken (s : ResolverStore) (p : ResolverRegistryProfile) : Prop :=
  ∃ row ∈ s.profiles.entries, row.1 ≠ p.resolverId ∧ row.2.identityHash = p.identityHash

instance (s : ResolverStore) (p : ResolverRegistryProfile) : Decidable (s.IdentityTaken p) :=
  inferInstanceAs (Decidable (∃ row ∈ s.profiles.entries, _))

/-- `INSERT … ON CONFLICT(resolver_id) DO UPDATE`: everything but the creation time is
written over a stored profile. -/
def upsertedProfile (s : ResolverStore) (p : ResolverRegistryProfile) : ResolverRegistryProfile :=
  match s.profiles.get? p.resolverId with
  | none => p
  | some row => { p with createdAt := row.createdAt }

theorem upsertedProfile_valid (s : ResolverStore) {p : ResolverRegistryProfile} (h : p.Valid) :
    (s.upsertedProfile p).Valid := by
  unfold upsertedProfile
  split
  · exact h
  · exact h

@[simp] theorem upsertedProfile_resolverId (s : ResolverStore) (p : ResolverRegistryProfile) :
    (s.upsertedProfile p).resolverId = p.resolverId := by
  unfold upsertedProfile
  split <;> rfl

@[simp] theorem upsertedProfile_bond (s : ResolverStore) (p : ResolverRegistryProfile) :
    (s.upsertedProfile p).bondAvailableMinorUnits = p.bondAvailableMinorUnits := by
  unfold upsertedProfile
  split <;> rfl

/-- A profile is written if it is valid. -/
def writeProfile (s : ResolverStore) (p : ResolverRegistryProfile) :
    Except Fault Unit × ResolverStore :=
  if h : p.Valid then
    if s.IdentityTaken p then (.error uniqueFault, s)
    else (.ok (), s.putProfile (s.upsertedProfile p) (s.upsertedProfile_valid h))
  else (.error checkFault, s)

/-- `UPDATE dotcast_resolver_profiles` at one resolver. -/
def updateProfile (s : ResolverStore) (resolverId : String)
    (change : ResolverRegistryProfile → ResolverRegistryProfile) :
    Except Fault Unit × ResolverStore :=
  match s.profiles.get? resolverId with
  | none => (.ok (), s)
  | some p =>
    if h : (change p).Valid then (.ok (), s.putProfile (change p) h) else (.error checkFault, s)

def insertBondLedgerEntry (s : ResolverStore) (e : ResolverBondLedgerEntry) : ResolverStore :=
  if h : s.bondLedger.get? e.entryId = none ∧ 0 ≤ e.balanceAfterMinorUnits then
    s.putBondLedgerEntry e h.2
  else s

def insertReputationEvent (s : ResolverStore) (e : ResolverReputationEvent) : ResolverStore :=
  if h : s.reputationEvents.get? e.eventId = none ∧ e.Valid then s.putReputationEvent e h.2
  else s

def insertPanel (s : ResolverStore) (p : ResolverPanelRow) : ResolverStore :=
  if h : s.panels.get? p.panelId = none ∧ p.Valid then s.putPanel p h.2 else s

/-- The panel has an assignment of that identity. -/
def SeatTaken (s : ResolverStore) (a : ResolverAssignment) : Prop :=
  ∃ row ∈ s.assignments.entries, row.2.panelId = a.panelId ∧ row.2.identityHash = a.identityHash

instance (s : ResolverStore) (a : ResolverAssignment) : Decidable (s.SeatTaken a) :=
  inferInstanceAs (Decidable (∃ row ∈ s.assignments.entries, _))

/-- The assignment meets no row of its id or seat and passes the checks. -/
def Insertable (s : ResolverStore) (a : ResolverAssignment) : Prop :=
  s.assignments.get? a.assignmentId = none ∧ ¬s.SeatTaken a ∧ a.Valid

instance (s : ResolverStore) (a : ResolverAssignment) : Decidable (s.Insertable a) :=
  inferInstanceAs (Decidable (_ ∧ _))

def insertAssignment (s : ResolverStore) (a : ResolverAssignment) : ResolverStore :=
  if h : s.Insertable a then s.putAssignment a h.2.2 else s

/-- `UPDATE dotcast_resolver_assignments SET status` at one assignment. -/
def updateStatus (s : ResolverStore) (assignmentId : String) (status : AssignmentStatus) :
    ResolverStore :=
  match h : s.assignments.get? assignmentId with
  | none => s
  | some a => s.putAssignment { a with status := status } (s.assignments_ok _ _ h).2

def insertCommit (s : ResolverStore) (c : ResolverCommit) : ResolverStore :=
  if s.commits.get? c.assignmentId = none then s.putCommit c else s

def insertReveal (s : ResolverStore) (r : ResolverReveal) : ResolverStore :=
  if s.reveals.get? r.assignmentId = none then s.putReveal r else s

def insertPayout (s : ResolverStore) (p : ResolverPayout) : ResolverStore :=
  if h : s.payouts.get? (p.assignmentId, p.panelId) = none ∧ p.Valid then s.putPayout p h.2
  else s

/-! ### What the statements leave alone -/

theorem get?_updateStatus (s : ResolverStore) (assignmentId id : String)
    (status : AssignmentStatus) : (s.updateStatus assignmentId status).assignments.get? id =
      if id = assignmentId then (s.assignments.get? id).map fun a => { a with status := status }
      else s.assignments.get? id := by
  unfold updateStatus
  split
  · rename_i hnone
    split_ifs with hid
    · rw [hid, hnone]
      rfl
    · rfl
  · rename_i a hrow
    obtain rfl := (s.assignments_ok _ _ hrow).1
    show (s.assignments.set a.assignmentId { a with status := status }).get? id = _
    rw [Rows.get?_set]
    split_ifs with hid
    · rw [hid, hrow]
      rfl
    · rfl

@[simp] theorem assignments_insertPayout (s : ResolverStore) (p : ResolverPayout) :
    (s.insertPayout p).assignments = s.assignments := by
  unfold insertPayout
  split_ifs <;> rfl

section Frames

variable (s : ResolverStore) (assignmentId : String) (status : AssignmentStatus)
  (c : ResolverCommit) (r : ResolverReveal) (p : ResolverPayout)

@[simp] theorem commits_updateStatus :
    (s.updateStatus assignmentId status).commits = s.commits := by
  unfold updateStatus
  split <;> rfl

@[simp] theorem reveals_updateStatus :
    (s.updateStatus assignmentId status).reveals = s.reveals := by
  unfold updateStatus
  split <;> rfl

@[simp] theorem payouts_updateStatus :
    (s.updateStatus assignmentId status).payouts = s.payouts := by
  unfold updateStatus
  split <;> rfl

@[simp] theorem assignments_insertCommit : (s.insertCommit c).assignments = s.assignments := by
  unfold insertCommit
  split_ifs <;> rfl

@[simp] theorem reveals_insertCommit : (s.insertCommit c).reveals = s.reveals := by
  unfold insertCommit
  split_ifs <;> rfl

@[simp] theorem payouts_insertCommit : (s.insertCommit c).payouts = s.payouts := by
  unfold insertCommit
  split_ifs <;> rfl

@[simp] theorem assignments_insertReveal : (s.insertReveal r).assignments = s.assignments := by
  unfold insertReveal
  split_ifs <;> rfl

@[simp] theorem commits_insertReveal : (s.insertReveal r).commits = s.commits := by
  unfold insertReveal
  split_ifs <;> rfl

@[simp] theorem payouts_insertReveal : (s.insertReveal r).payouts = s.payouts := by
  unfold insertReveal
  split_ifs <;> rfl

@[simp] theorem commits_insertPayout : (s.insertPayout p).commits = s.commits := by
  unfold insertPayout
  split_ifs <;> rfl

@[simp] theorem reveals_insertPayout : (s.insertPayout p).reveals = s.reveals := by
  unfold insertPayout
  split_ifs <;> rfl

end Frames

theorem commits_insertCommit (s : ResolverStore) (c : ResolverCommit) :
    (s.insertCommit c).commits = s.commits.insertIfAbsent c.assignmentId c := by
  unfold insertCommit
  cases h : s.commits.get? c.assignmentId with
  | none =>
    rw [if_pos rfl, Rows.insertIfAbsent_of_get?_eq_none h]
    rfl
  | some row => rw [if_neg (by simp), Rows.insertIfAbsent_of_get? h]

theorem reveals_insertReveal (s : ResolverStore) (r : ResolverReveal) :
    (s.insertReveal r).reveals = s.reveals.insertIfAbsent r.assignmentId r := by
  unfold insertReveal
  cases h : s.reveals.get? r.assignmentId with
  | none =>
    rw [if_pos rfl, Rows.insertIfAbsent_of_get?_eq_none h]
    rfl
  | some row => rw [if_neg (by simp), Rows.insertIfAbsent_of_get? h]

/-- A payout that passes the checks is stored afterwards, and none is lost. -/
theorem isSome_insertPayout {s : ResolverStore} {p : ResolverPayout} {key : String × String}
    (h : (s.payouts.get? key).isSome ∨ key = (p.assignmentId, p.panelId) ∧ p.Valid) :
    ((s.insertPayout p).payouts.get? key).isSome := by
  unfold insertPayout
  split_ifs with hinsert
  · show ((s.payouts.set (p.assignmentId, p.panelId) p).get? key).isSome
    rw [Rows.get?_set]
    split_ifs with hkey
    · rfl
    · exact h.resolve_right fun ⟨heq, _⟩ => hkey heq
  · rcases h with h | ⟨rfl, hvalid⟩
    · exact h
    · exact Option.isSome_iff_ne_none.mpr fun hnone => hinsert ⟨hnone, hvalid⟩

end ResolverStore

/-- What each statement does to the store. -/
def resolverHandler (js : Runtime) : Handler ResolverOp ResolverOp.Ret Fault ResolverStore
  | .getResolverProfile id, s => (readRow (resolverProfileFromRow js) (s.profiles.get? id), s)
  | .writeProfile p, s => s.writeProfile p
  | .updateProfileBond id bond at_, s =>
    s.updateProfile id (·.withBond bond at_)
  | .updateProfileReputation id bps at_, s =>
    s.updateProfile id (·.withReputation bps at_)
  | .bondLedgerEntryExists id, s => (.ok (s.bondLedger.get? id).isSome, s)
  | .insertResolverBondLedgerEntry e, s => (.ok (), s.insertBondLedgerEntry e)
  | .reputationEventExists id, s => (.ok (s.reputationEvents.get? id).isSome, s)
  | .insertResolverReputationEvent e, s => (.ok (), s.insertReputationEvent e)
  | .insertPanelRow p, s => (.ok (), s.insertPanel p)
  | .getPanelRow id, s => (readRow (panelFromRow js) (s.panels.get? id), s)
  | .insertAssignment a, s => (.ok (), s.insertAssignment a)
  | .getResolverAssignment id, s => (readRow (assignmentFromRow js) (s.assignments.get? id), s)
  | .listAssignments id, s =>
    ((Sorting.sortBy (fun a b : ResolverAssignment =>
        compareTexts (a.assignedAt, a.assignmentId) (b.assignedAt, b.assignmentId))
      (s.assignments.rows.filter (·.panelId = id))).mapM (assignmentFromRow js), s)
  | .updateResolverAssignmentStatus id status, s => (.ok (), s.updateStatus id status)
  | .insertCommitRow c, s => (.ok (), s.insertCommit c)
  | .getResolverCommit id, s => (readRow commitFromRow (s.commits.get? id), s)
  | .listResolverCommits id, s =>
    ((Sorting.sortBy (fun a b : ResolverCommit =>
        compareTexts (a.committedAt, a.assignmentId) (b.committedAt, b.assignmentId))
      (s.commits.rows.filter (·.panelId = id))).mapM commitFromRow, s)
  | .insertRevealRow r, s => (.ok (), s.insertReveal r)
  | .listResolverReveals id, s =>
    ((Sorting.sortBy (fun a b : ResolverReveal =>
        compareTexts (a.revealedAt, a.assignmentId) (b.revealedAt, b.assignmentId))
      (s.reveals.rows.filter (·.panelId = id))).mapM revealFromRow, s)
  | .resolverPayoutExists assignmentId panelId, s =>
    (.ok (s.payouts.get? (assignmentId, panelId)).isSome, s)
  | .insertPayoutRow p, s => (.ok (), s.insertPayout p)

end Yevow.DotCast
