import Yevow.Models.DotCast.Pool.Lifecycle
import Yevow.Models.DotCast.Resolution.Store

/-!
# The operations of the resolver store

Registration and adjustment of resolvers, panels with the bonds they lock, commits,
reveals, and payouts with their accounting. A bond movement inside a panel or a payout looks
for its ledger entry first; a registration and an administrator's adjustment do not.
-/

namespace Yevow.DotCast

open Except (throwIf)
open JavaScript (Runtime)

variable (js : Runtime)

def RESOLVER_REPUTATION_CORRECT_DELTA_BPS : ℤ := 100

def RESOLVER_REPUTATION_MISS_DELTA_BPS : ℤ := -250

namespace Resolving

abbrev getResolverProfile (resolverId : String) : Resolving (Option ResolverRegistryProfile) :=
  Program.perform (ResolverOp.getResolverProfile resolverId)

abbrev updateResolverProfile (profile : ResolverRegistryProfile) : Resolving Unit :=
  Program.perform (ResolverOp.writeProfile profile)

abbrev insertResolverBondLedgerEntry (entry : ResolverBondLedgerEntry) : Resolving Unit :=
  Program.perform (ResolverOp.insertResolverBondLedgerEntry entry)

abbrev insertResolverReputationEvent (event : ResolverReputationEvent) : Resolving Unit :=
  Program.perform (ResolverOp.insertResolverReputationEvent event)

abbrev updateResolverAssignmentStatus (assignmentId : String) (status : AssignmentStatus) :
    Resolving Unit :=
  Program.perform (ResolverOp.updateResolverAssignmentStatus assignmentId status)

abbrev bondLedgerEntryExists (entryId : String) : Resolving Bool :=
  Program.perform (ResolverOp.bondLedgerEntryExists entryId)

abbrev reputationEventExists (eventId : String) : Resolving Bool :=
  Program.perform (ResolverOp.reputationEventExists eventId)

abbrev getResolverAssignment (assignmentId : String) : Resolving (Option ResolverAssignment) :=
  Program.perform (ResolverOp.getResolverAssignment assignmentId)

abbrev resolverPayoutExists (assignmentId panelId : String) : Resolving Bool :=
  Program.perform (ResolverOp.resolverPayoutExists assignmentId panelId)

abbrev updateProfileBond (resolverId : String) (bondAvailableMinorUnits : ℤ)
    (updatedAt : String) : Resolving Unit :=
  Program.perform (ResolverOp.updateProfileBond resolverId bondAvailableMinorUnits updatedAt)

abbrev updateProfileReputation (resolverId : String) (reputationBps : ℤ) (updatedAt : String) :
    Resolving Unit :=
  Program.perform (ResolverOp.updateProfileReputation resolverId reputationBps updatedAt)

abbrev insertPanelRow (panel : ResolverPanelRow) : Resolving Unit :=
  Program.perform (ResolverOp.insertPanelRow panel)

abbrev insertAssignment (assignment : ResolverAssignment) : Resolving Unit :=
  Program.perform (ResolverOp.insertAssignment assignment)

abbrev insertCommitRow (commit : ResolverCommit) : Resolving Unit :=
  Program.perform (ResolverOp.insertCommitRow commit)

abbrev insertRevealRow (reveal : ResolverReveal) : Resolving Unit :=
  Program.perform (ResolverOp.insertRevealRow reveal)

abbrev insertPayoutRow (payout : ResolverPayout) : Resolving Unit :=
  Program.perform (ResolverOp.insertPayoutRow payout)

/-- `throw new DotCastResolutionRouterError(code, message, status)`. -/
abbrev fail {α : Type} (code message : String) (status : ℕ) : Resolving α :=
  .done (.error ⟨message, some code, some status⟩)

/-- `if (condition) { … }`. -/
def when (condition : Prop) [Decidable condition] (body : Resolving Unit) : Resolving Unit :=
  if condition then body else pure ()

/-- `if (value) { … }` for a value that may be null. -/
def whenSome {β : Type} (value : Option β) (body : β → Resolving Unit) : Resolving Unit :=
  match value with
  | some b => body b
  | none => pure ()

/-- A loop whose body awaits its calls and stops at the first that throws. -/
def forEach {β : Type} (body : β → Resolving Unit) : List β → Resolving Unit
  | [] => pure ()
  | b :: rest => do
    body b
    forEach body rest

end Resolving

/-! ### Running calls and loops -/

section Running

open Program (run)

variable {js} {α : Type} {s : ResolverStore}

@[simp] theorem run_bondLedgerEntryExists_bind (entryId : String) (f : Bool → Resolving α) :
    run (resolverHandler js) (Resolving.bondLedgerEntryExists entryId >>= f) s =
      run (resolverHandler js) (f (s.bondLedger.get? entryId).isSome) s := rfl

@[simp] theorem run_reputationEventExists_bind (eventId : String) (f : Bool → Resolving α) :
    run (resolverHandler js) (Resolving.reputationEventExists eventId >>= f) s =
      run (resolverHandler js) (f (s.reputationEvents.get? eventId).isSome) s := rfl

@[simp] theorem run_resolverPayoutExists_bind (assignmentId panelId : String)
    (f : Bool → Resolving α) :
    run (resolverHandler js) (Resolving.resolverPayoutExists assignmentId panelId >>= f) s =
      run (resolverHandler js) (f (s.payouts.get? (assignmentId, panelId)).isSome) s := rfl

theorem run_getResolverProfile_bind (resolverId : String)
    (f : Option ResolverRegistryProfile → Resolving α) :
    run (resolverHandler js) (Resolving.getResolverProfile resolverId >>= f) s =
      match readRow (resolverProfileFromRow js) (s.profiles.get? resolverId) with
      | .ok profile => run (resolverHandler js) (f profile) s
      | .error e => (.error e, s) := by
  show run _ (.done (readRow (resolverProfileFromRow js) (s.profiles.get? resolverId)) >>= f) s = _
  cases readRow (resolverProfileFromRow js) (s.profiles.get? resolverId) <;> rfl

theorem run_getResolverAssignment_bind (assignmentId : String)
    (f : Option ResolverAssignment → Resolving α) :
    run (resolverHandler js) (Resolving.getResolverAssignment assignmentId >>= f) s =
      match readRow (assignmentFromRow js) (s.assignments.get? assignmentId) with
      | .ok assignment => run (resolverHandler js) (f assignment) s
      | .error e => (.error e, s) := by
  show run _ (.done (readRow (assignmentFromRow js) (s.assignments.get? assignmentId)) >>= f) s = _
  cases readRow (assignmentFromRow js) (s.assignments.get? assignmentId) <;> rfl

@[simp] theorem run_insertBondLedgerEntry_bind (entry : ResolverBondLedgerEntry)
    (f : Unit → Resolving α) :
    run (resolverHandler js) (Resolving.insertResolverBondLedgerEntry entry >>= f) s =
      run (resolverHandler js) (f ()) (s.insertBondLedgerEntry entry) := rfl

@[simp] theorem run_insertAssignment_bind (assignment : ResolverAssignment)
    (f : Unit → Resolving α) :
    run (resolverHandler js) (Resolving.insertAssignment assignment >>= f) s =
      run (resolverHandler js) (f ()) (s.insertAssignment assignment) := rfl

@[simp] theorem run_insertPayoutRow_bind (payout : ResolverPayout) (f : Unit → Resolving α) :
    run (resolverHandler js) (Resolving.insertPayoutRow payout >>= f) s =
      run (resolverHandler js) (f ()) (s.insertPayout payout) := rfl

@[simp] theorem run_updateAssignmentStatus_bind (assignmentId : String)
    (status : AssignmentStatus) (f : Unit → Resolving α) :
    run (resolverHandler js) (Resolving.updateResolverAssignmentStatus assignmentId status >>= f)
      s = run (resolverHandler js) (f ()) (s.updateStatus assignmentId status) := rfl

theorem run_updateResolverProfile_bind (profile : ResolverRegistryProfile)
    (f : Unit → Resolving α) :
    run (resolverHandler js) (Resolving.updateResolverProfile profile >>= f) s =
      match s.writeProfile profile with
      | (.ok _, s') => run (resolverHandler js) (f ()) s'
      | (.error e, s') => (.error e, s') := by
  show run _ (.done (s.writeProfile profile).1 >>= f) (s.writeProfile profile).2 = _
  rcases s.writeProfile profile with ⟨_ | _, _⟩ <;> rfl

theorem run_updateProfileBond_bind (resolverId : String) (bond : ℤ) (at_ : String)
    (f : Unit → Resolving α) :
    run (resolverHandler js) (Resolving.updateProfileBond resolverId bond at_ >>= f) s =
      match s.updateProfile resolverId (·.withBond bond at_) with
      | (.ok _, s') => run (resolverHandler js) (f ()) s'
      | (.error e, s') => (.error e, s') := by
  show run _ (.done (s.updateProfile resolverId (·.withBond bond at_)).1 >>= f)
    (s.updateProfile resolverId (·.withBond bond at_)).2 = _
  rcases s.updateProfile resolverId (·.withBond bond at_) with ⟨_ | _, _⟩ <;> rfl

theorem run_updateProfileReputation_bind (resolverId : String) (bps : ℤ) (at_ : String)
    (f : Unit → Resolving α) :
    run (resolverHandler js) (Resolving.updateProfileReputation resolverId bps at_ >>= f) s =
      match s.updateProfile resolverId (·.withReputation bps at_) with
      | (.ok _, s') => run (resolverHandler js) (f ()) s'
      | (.error e, s') => (.error e, s') := by
  show run _ (.done (s.updateProfile resolverId (·.withReputation bps at_)).1 >>= f)
    (s.updateProfile resolverId (·.withReputation bps at_)).2 = _
  rcases s.updateProfile resolverId (·.withReputation bps at_) with ⟨_ | _, _⟩ <;> rfl

theorem run_when {condition : Prop} [Decidable condition] (body : Resolving Unit) :
    run (resolverHandler js) (Resolving.when condition body) s =
      if condition then run (resolverHandler js) body s else (.ok (), s) := by
  unfold Resolving.when
  split_ifs <;> rfl

theorem run_whenSome {β : Type} (value : Option β) (body : β → Resolving Unit) :
    run (resolverHandler js) (Resolving.whenSome value body) s =
      value.elim (.ok (), s) fun b => run (resolverHandler js) (body b) s := by
  cases value <;> rfl

theorem run_forEach_cons {β : Type} (body : β → Resolving Unit) (b : β) (rest : List β) :
    run (resolverHandler js) (Resolving.forEach body (b :: rest)) s =
      match run (resolverHandler js) (body b) s with
      | (.ok _, s') => run (resolverHandler js) (Resolving.forEach body rest) s'
      | (.error e, s') => (.error e, s') := by
  show run _ (body b >>= fun _ => Resolving.forEach body rest) s = _
  rw [Program.run_bind]
  rcases run (resolverHandler js) (body b) s with ⟨_ | _, _⟩ <;> rfl

/-- A condition for every round of a loop, each on the store in which the round begins. -/
def Resolving.EachRound {β : Type} (js : Runtime) (condition : ResolverStore → β → Prop)
    (body : β → Resolving Unit) : ResolverStore → List β → Prop
  | _, [] => True
  | s, b :: rest => condition s b ∧ ∀ s', run (resolverHandler js) (body b) s = (.ok (), s') →
      Resolving.EachRound js condition body s' rest

/-- What every round keeps, a loop keeps. -/
theorem forEach_preserves {β : Type} {condition : ResolverStore → β → Prop}
    {body : β → Resolving Unit} {P : ResolverStore → Prop}
    (hround : ∀ s b, P s → condition s b → P (run (resolverHandler js) (body b) s).2)
    {bs : List β} (hs : P s) (h : Resolving.EachRound js condition body s bs) :
    P (run (resolverHandler js) (Resolving.forEach body bs) s).2 := by
  induction bs generalizing s with
  | nil => exact hs
  | cons b rest ih =>
    have hb := hround s b hs h.1
    rw [run_forEach_cons]
    rcases hrun : run (resolverHandler js) (body b) s with ⟨result, s'⟩
    rw [hrun] at hb
    cases result with
    | error e => exact hb
    | ok u => exact ih hb (h.2 s' hrun)

/-- What the round of every element keeps, a loop keeps. -/
theorem forEach_preserves_mem {β : Type} {body : β → Resolving Unit} {P : ResolverStore → Prop}
    {bs : List β} (hround : ∀ b ∈ bs, ∀ s, P s → P (run (resolverHandler js) (body b) s).2)
    (hs : P s) : P (run (resolverHandler js) (Resolving.forEach body bs) s).2 := by
  induction bs generalizing s with
  | nil => exact hs
  | cons b rest ih =>
    have hb := hround b List.mem_cons_self s hs
    rw [run_forEach_cons]
    rcases hrun : run (resolverHandler js) (body b) s with ⟨result, s'⟩
    rw [hrun] at hb
    cases result with
    | error e => exact hb
    | ok u => exact ih (fun c hc => hround c (List.mem_cons_of_mem b hc)) hb

end Running

/-! ## Registration -/

def onboardedEntry (profile : ResolverRegistryProfile) : ResolverBondLedgerEntry where
  entryId := "dotcast:e13:resolver-onboarded:" ++ profile.resolverId ++ ":" ++
    dateText js profile.createdAt
  resolverId := profile.resolverId
  assignmentId := none
  panelId := none
  eventType := .resolverOnboarded
  deltaMinorUnits := 0
  balanceAfterMinorUnits := 0
  createdAt := profile.createdAt

def depositEntry (profile : ResolverRegistryProfile) : ResolverBondLedgerEntry where
  entryId := "dotcast:e13:bond-deposit:" ++ profile.resolverId ++ ":" ++
    dateText js profile.createdAt
  resolverId := profile.resolverId
  assignmentId := none
  panelId := none
  eventType := .bondDeposited
  deltaMinorUnits := profile.bondAvailableMinorUnits
  balanceAfterMinorUnits := profile.bondAvailableMinorUnits
  createdAt := profile.createdAt

def adjustmentEntry (existing profile : ResolverRegistryProfile) : ResolverBondLedgerEntry :=
  let deltaMinorUnits := js.arithmetic.integer
    (profile.bondAvailableMinorUnits - existing.bondAvailableMinorUnits)
  { entryId := "dotcast:e13:bond-adjustment:" ++ profile.resolverId ++ ":" ++
      dateText js profile.updatedAt
    resolverId := profile.resolverId
    assignmentId := none
    panelId := none
    eventType := if deltaMinorUnits > 0 then .bondDeposited else .manualAdjustment
    deltaMinorUnits := deltaMinorUnits
    balanceAfterMinorUnits := profile.bondAvailableMinorUnits
    createdAt := profile.updatedAt }

/-- A profile is stored, with entries for its bond. -/
def upsertResolverProfile (profile : ResolverRegistryProfile) : Resolving Unit := do
  let existing ← Resolving.getResolverProfile profile.resolverId
  Resolving.updateResolverProfile profile
  match existing with
  | none =>
    Resolving.insertResolverBondLedgerEntry (onboardedEntry js profile)
    Resolving.when (profile.bondAvailableMinorUnits > 0)
      (Resolving.insertResolverBondLedgerEntry (depositEntry js profile))
  | some existing =>
    Resolving.when (existing.bondAvailableMinorUnits ≠ profile.bondAvailableMinorUnits)
      (Resolving.insertResolverBondLedgerEntry (adjustmentEntry js existing profile))

/-! ## Administration -/

/-- What an administrator does. -/
inductive ResolverAdminAction
  | activate
  | suspend
  | archive
  | adjustBond
  | adjustReputation
  deriving DecidableEq, Repr

structure ApplyResolverAdminActionInput where
  profile : ResolverRegistryProfile
  action : ResolverAdminAction
  bondDeltaMinorUnits : Option Number
  reputationDeltaBps : Option Number
  now : Option String

structure ResolverAdminActionResult where
  profile : ResolverRegistryProfile
  bondLedgerEntry : Option ResolverBondLedgerEntry
  reputationEvent : Option ResolverReputationEvent

def requireSignedInteger (value : Option Number) (label : String) : Except Fault ℤ :=
  match value.bind (JavaScript.safeInteger? js.arithmetic) with
  | some n => if n ≠ 0 then .ok n else .error (signedIntegerFault label)
  | none => .error (signedIntegerFault label)
where
  signedIntegerFault (label : String) : Fault :=
    ⟨label ++ " must be a non-zero integer", some "INVALID_RESOLVER_ADMIN_ACTION", some 400⟩

def clampBps (value : ℤ) : ℤ := max 0 (min 10000 value)

def adminBondEntry (resolverId : String) (deltaMinorUnits balanceAfterMinorUnits : ℤ)
    (now : String) : ResolverBondLedgerEntry where
  entryId := "dotcast:e13:admin-bond:" ++ resolverId ++ ":" ++ dateText js now
  resolverId := resolverId
  assignmentId := none
  panelId := none
  eventType := .manualAdjustment
  deltaMinorUnits := deltaMinorUnits
  balanceAfterMinorUnits := balanceAfterMinorUnits
  createdAt := now

/-- An action on a profile. -/
def applyDotCastResolverAdminAction (clock : String) (input : ApplyResolverAdminActionInput) :
    Except Fault ResolverAdminActionResult := do
  let now := input.now.getD clock
  let profile := { input.profile with updatedAt := now }
  match input.action with
  | .activate => return ⟨{ profile with status := .active }, none, none⟩
  | .suspend => return ⟨{ profile with status := .suspended }, none, none⟩
  | .archive => return ⟨{ profile with status := .archived }, none, none⟩
  | .adjustBond =>
    let deltaMinorUnits ← requireSignedInteger js input.bondDeltaMinorUnits "bondDeltaMinorUnits"
    let balanceAfterMinorUnits :=
      js.arithmetic.integer (profile.bondAvailableMinorUnits + deltaMinorUnits)
    throwIf (balanceAfterMinorUnits < 0)
      ⟨"manual resolver bond adjustment cannot make available bond negative",
        some "RESOLVER_BOND_INSUFFICIENT", some 409⟩
    return ⟨{ profile with bondAvailableMinorUnits := balanceAfterMinorUnits },
      some (adminBondEntry js profile.resolverId deltaMinorUnits balanceAfterMinorUnits now),
      none⟩
  | .adjustReputation =>
    let deltaBps ← requireSignedInteger js input.reputationDeltaBps "reputationDeltaBps"
    let newReputationBps := clampBps (js.arithmetic.integer (profile.reputationBps + deltaBps))
    return ⟨{ profile with reputationBps := newReputationBps }, none,
      some {
        eventId := "dotcast:e13:admin-reputation:" ++ profile.resolverId ++ ":" ++
          dateText js now
        resolverId := profile.resolverId
        assignmentId := none
        panelId := none
        previousReputationBps := input.profile.reputationBps
        newReputationBps := newReputationBps
        deltaBps := deltaBps
        reason := .manualAdjustment
        createdAt := now }⟩

/-- What `applyDotCastResolverAdminActionRoute` does with a parsed request. -/
structure ResolverAdminRequest where
  resolverId : String
  action : ResolverAdminAction
  bondDeltaMinorUnits : Option Number
  reputationDeltaBps : Option Number
  now : Option String

/-- An action on a stored profile. -/
def applyResolverAdminAction (clock : String) (request : ResolverAdminRequest) :
    Resolving Unit := do
  match ← Resolving.getResolverProfile request.resolverId with
  | none => Resolving.fail "RESOLVER_PROFILE_NOT_FOUND" "E13 resolver profile was not found" 404
  | some profile =>
    let result ← .done (applyDotCastResolverAdminAction js clock
      { profile := profile
        action := request.action
        bondDeltaMinorUnits := request.bondDeltaMinorUnits
        reputationDeltaBps := request.reputationDeltaBps
        now := request.now })
    Resolving.updateResolverProfile result.profile
    Resolving.whenSome result.bondLedgerEntry Resolving.insertResolverBondLedgerEntry
    Resolving.whenSome result.reputationEvent Resolving.insertResolverReputationEvent

/-! ## Bond movements of panels and payouts -/

/-- A ledger entry without the balance it leaves. -/
structure BondDelta where
  entryId : String
  resolverId : String
  assignmentId : String
  panelId : String
  eventType : BondLedgerEventType
  deltaMinorUnits : ℤ
  createdAt : String
  deriving DecidableEq

def BondDelta.entry (d : BondDelta) (balanceAfter : ℤ) : ResolverBondLedgerEntry where
  entryId := d.entryId
  resolverId := d.resolverId
  assignmentId := some d.assignmentId
  panelId := some d.panelId
  eventType := d.eventType
  deltaMinorUnits := d.deltaMinorUnits
  balanceAfterMinorUnits := balanceAfter
  createdAt := d.createdAt

/-- A change of a bond, once. -/
def applyResolverBondDelta (d : BondDelta) : Resolving Unit := do
  if ← Resolving.bondLedgerEntryExists d.entryId then return ()
  match ← Resolving.getResolverProfile d.resolverId with
  | none =>
    Resolving.fail "RESOLVER_PROFILE_NOT_FOUND"
      "resolver bond ledger requires a registered resolver profile" 404
  | some profile =>
    let balanceAfter :=
      js.arithmetic.integer (profile.bondAvailableMinorUnits + d.deltaMinorUnits)
    if balanceAfter < 0 then
      Resolving.fail "RESOLVER_BOND_INSUFFICIENT"
        "resolver does not have enough available bond for this E13 assignment" 409
    else
      Resolving.updateProfileBond d.resolverId balanceAfter d.createdAt
      Resolving.insertResolverBondLedgerEntry (d.entry balanceAfter)

/-- A change of a reputation, once. -/
def applyResolverReputationDelta (assignment : ResolverAssignment) (matchedConsensus : Bool)
    (now : String) : Resolving Unit := do
  let eventId := "dotcast:e13:reputation:" ++ assignment.assignmentId
  if ← Resolving.reputationEventExists eventId then return ()
  match ← Resolving.getResolverProfile assignment.resolverId with
  | none =>
    Resolving.fail "RESOLVER_PROFILE_NOT_FOUND"
      "resolver reputation accounting requires a registered resolver profile" 404
  | some profile =>
    let deltaBps := if matchedConsensus then RESOLVER_REPUTATION_CORRECT_DELTA_BPS
      else RESOLVER_REPUTATION_MISS_DELTA_BPS
    let newReputationBps := clampBps (js.arithmetic.integer (profile.reputationBps + deltaBps))
    Resolving.updateProfileReputation assignment.resolverId newReputationBps now
    Resolving.insertResolverReputationEvent {
      eventId := eventId
      resolverId := assignment.resolverId
      assignmentId := some assignment.assignmentId
      panelId := some assignment.panelId
      previousReputationBps := profile.reputationBps
      newReputationBps := newReputationBps
      deltaBps := deltaBps
      reason := if matchedConsensus then .settlementConsensusMatch else .settlementConsensusMiss
      createdAt := now }

/-! ## Panels -/

def assignedProfile (a : ResolverAssignment) : ResolverRegistryProfile where
  resolverId := a.resolverId
  identityHash := a.identityHash
  status := .active
  displayName := none
  reputationBps := a.reputationBps
  bondAvailableMinorUnits := a.bondMinorUnits
  stakeHeldPoolIds := []
  createdAt := a.assignedAt
  updatedAt := a.assignedAt

/-- A resolver without a profile gets one. -/
def ensureResolverProfileForAssignment (a : ResolverAssignment) : Resolving Unit := do
  match ← Resolving.getResolverProfile a.resolverId with
  | some _ => pure ()
  | none => upsertResolverProfile js (assignedProfile a)

/-- The bond that a seat locks. -/
def lockDelta (a : ResolverAssignment) : BondDelta where
  entryId := "dotcast:e13:bond-lock:" ++ a.assignmentId
  resolverId := a.resolverId
  assignmentId := a.assignmentId
  panelId := a.panelId
  eventType := .assignmentLocked
  deltaMinorUnits := -a.bondMinorUnits
  createdAt := a.assignedAt

/-- The body of the loop over a panel's assignments. -/
def insertPanelAssignment (a : ResolverAssignment) : Resolving Unit := do
  Resolving.insertAssignment a
  ensureResolverProfileForAssignment js a
  applyResolverBondDelta js (lockDelta a)

/-- A panel is stored and its bonds locked. -/
def insertResolverPanel (panel : ResolverPanel) : Resolving Unit := do
  Resolving.insertPanelRow panel.toResolverPanelRow
  Resolving.forEach (insertPanelAssignment js) panel.assignments

/-! ## Commits and reveals -/

def insertResolverCommit (commit : ResolverCommit) : Resolving Unit := do
  Resolving.insertCommitRow commit
  Resolving.updateResolverAssignmentStatus commit.assignmentId .committed

def insertResolverReveal (reveal : ResolverReveal) : Resolving Unit := do
  Resolving.insertRevealRow reveal
  Resolving.updateResolverAssignmentStatus reveal.assignmentId .revealed

/-! ## Payouts -/

def payoutDelta (p : ResolverPayout) (key : String) (eventType : BondLedgerEventType)
    (deltaMinorUnits : ℤ) : BondDelta where
  entryId := key ++ p.assignmentId
  resolverId := p.resolverId
  assignmentId := p.assignmentId
  panelId := p.panelId
  eventType := eventType
  deltaMinorUnits := deltaMinorUnits
  createdAt := p.createdAt

/-- The bond that a payout returns. -/
def releaseDelta (p : ResolverPayout) : BondDelta :=
  payoutDelta p "dotcast:e13:bond-release:" .bondReleased p.bondReturnedMinorUnits

/-- The fee that a payout credits. -/
def feeDelta (p : ResolverPayout) : BondDelta :=
  payoutDelta p "dotcast:e13:fee-credit:" .feeCredited p.feePaidMinorUnits

/-- The entry for a bond that is kept. -/
def slashDelta (p : ResolverPayout) : BondDelta :=
  payoutDelta p "dotcast:e13:bond-slash:" .bondSlashed 0

/-- Bond, fee and slash of a payout. -/
def applyResolverPayoutDeltas (p : ResolverPayout) : Resolving Unit :=
  if p.matchedConsensus then do
    Resolving.when (p.bondReturnedMinorUnits > 0) (applyResolverBondDelta js (releaseDelta p))
    Resolving.when (p.feePaidMinorUnits > 0) (applyResolverBondDelta js (feeDelta p))
  else applyResolverBondDelta js (slashDelta p)

/-- A payout moves bond and reputation. -/
def applyResolverPayoutAccounting (p : ResolverPayout) : Resolving Unit := do
  match ← Resolving.getResolverAssignment p.assignmentId with
  | none =>
    Resolving.fail "RESOLVER_ASSIGNMENT_NOT_FOUND"
      "resolver payout accounting requires the persisted assignment" 404
  | some assignment =>
    applyResolverPayoutDeltas js p
    applyResolverReputationDelta js assignment p.matchedConsensus p.createdAt

/-- The body of the loop over payouts. -/
def insertResolverPayout (p : ResolverPayout) : Resolving Unit := do
  if ← Resolving.resolverPayoutExists p.assignmentId p.panelId then return ()
  Resolving.insertPayoutRow p
  Resolving.updateResolverAssignmentStatus p.assignmentId
    (if p.matchedConsensus then .paid else .slashed)
  applyResolverPayoutAccounting js p

/-- Payouts, one after the other. -/
def insertResolverPayouts (payouts : List ResolverPayout) : Resolving Unit :=
  Resolving.forEach (insertResolverPayout js) payouts

end Yevow.DotCast
