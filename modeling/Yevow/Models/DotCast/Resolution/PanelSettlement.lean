import Yevow.Models.DotCast.Resolution.Resolvers

/-!
# Commit, reveal, timeout and settlement of a panel

Resolvers commit to a hashed outcome and reveal it later. A timeout slashes the assignments
that missed a phase. The settlement weighs the reveals by reputation, splits the fee pool
among those who revealed the heaviest outcome and slashes the others.
-/

namespace Yevow.DotCast

open Except (throwIf)
open JavaScript (Runtime)

variable (js : Runtime)

/-! ## Commits and reveals -/

def PoolOutcome.text : PoolOutcome → String
  | .side .yes => "yes"
  | .side .no => "no"
  | .invalid => "invalid"

/-- `resolverCommitHash` over the host's digest of a text. -/
def resolverCommitHash (digest : String → String) (outcome : PoolOutcome) (salt : String) :
    Except Fault String := do
  throwIf (salt = "") ⟨"resolver commit salt is required", some "RESOLVER_SALT_REQUIRED", some 400⟩
  return digest (outcome.text ++ ":" ++ salt)

/-- The hash of a vote and its salt. -/
def createDotCastResolverCommit (digest : String → String) (assignment : ResolverAssignment)
    (outcome : PoolOutcome) (salt now : String) : Except Fault ResolverCommit := do
  return {
    assignmentId := assignment.assignmentId
    panelId := assignment.panelId
    resolverId := assignment.resolverId
    commitHash := ← resolverCommitHash digest outcome salt
    committedAt := now }

/-- A vote must match its hash. -/
def revealDotCastResolverCommit (digest : String → String) (commit : ResolverCommit)
    (outcome : PoolOutcome) (salt now : String) : Except Fault ResolverReveal := do
  let expected ← resolverCommitHash digest outcome salt
  throwIf (expected ≠ commit.commitHash)
    ⟨"resolver reveal does not match the committed hash", some "RESOLVER_REVEAL_MISMATCH",
      some 409⟩
  return {
    assignmentId := commit.assignmentId
    panelId := commit.panelId
    resolverId := commit.resolverId
    outcome := outcome
    salt := salt
    revealedAt := now }

/-! ## Settlement -/

/-- `revealsByAssignment.get(assignmentId)`: of several reveals the last one counts. -/
def revealOf (reveals : List ResolverReveal) (assignmentId : String) : Option ResolverReveal :=
  reveals.reverse.find? (·.assignmentId = assignmentId)

/-- The votes for each outcome. -/
structure OutcomeWeights where
  yes : ℤ
  no : ℤ
  invalid : ℤ
  deriving DecidableEq

namespace OutcomeWeights

def get (w : OutcomeWeights) : PoolOutcome → ℤ
  | .side .yes => w.yes
  | .side .no => w.no
  | .invalid => w.invalid

def add (w : OutcomeWeights) (outcome : PoolOutcome) (weight : ℤ) : OutcomeWeights :=
  match outcome with
  | .side .yes => { w with yes := js.arithmetic.integer (w.yes + weight) }
  | .side .no => { w with no := js.arithmetic.integer (w.no + weight) }
  | .invalid => { w with invalid := js.arithmetic.integer (w.invalid + weight) }

/-- `Object.entries(weights)`. -/
def entries (w : OutcomeWeights) : List (PoolOutcome × ℤ) :=
  [(.side .yes, w.yes), (.side .no, w.no), (.invalid, w.invalid)]

end OutcomeWeights

/-- The revealed outcomes, weighed by reputation. -/
def revealWeights (reveals : List ResolverReveal) (assignments : List ResolverAssignment) :
    OutcomeWeights :=
  assignments.foldl (fun weights assignment =>
    match revealOf reveals assignment.assignmentId with
    | some reveal => weights.add js reveal.outcome (max 1 assignment.reputationBps)
    | none => weights) ⟨0, 0, 0⟩

/-- Heavier outcomes first, equal ones by name. -/
def compareWeights (a b : PoolOutcome × ℤ) : ℤ :=
  let difference := js.arithmetic.integer (b.2 - a.2)
  if difference ≠ 0 then difference else js.localeCompare.compare a.1.text b.1.text

/-- The outcome with the most weight. -/
def consensusOutcome (weights : OutcomeWeights) : PoolOutcome :=
  ((Sorting.sortBy (compareWeights js) weights.entries).head?.map Prod.fst).getD .invalid

/-- The assignments that revealed the outcome. -/
def correctAssignments (reveals : List ResolverReveal) (outcome : PoolOutcome)
    (assignments : List ResolverAssignment) : List ResolverAssignment :=
  assignments.filter fun a => (revealOf reveals a.assignmentId).map (·.outcome) = some outcome

/-- `Math.floor(n / d)`. -/
def floorQuotient (n d : ℤ) : ℤ := ⌊js.arithmetic.fraction ((n : ℚ) / d)⌋

/-- What became of a panel. -/
structure PanelSettlement where
  consensusOutcome : PoolOutcome
  totalWeight : ℤ
  consensusWeight : ℤ
  payouts : List ResolverPayout
  deriving DecidableEq

/-- The payout of an assignment that matched the consensus with a fee, or did not. -/
def settledPayout (a : ResolverAssignment) (matched : Bool) (feePaid : ℤ) (now : String) :
    ResolverPayout where
  assignmentId := a.assignmentId
  panelId := a.panelId
  resolverId := a.resolverId
  matchedConsensus := matched
  bondReturnedMinorUnits := if matched then a.bondMinorUnits else 0
  feePaidMinorUnits := if matched then feePaid else 0
  slashedBondMinorUnits := if matched then 0 else a.bondMinorUnits
  createdAt := now

/-- The votes of a panel are counted and paid. -/
def settleDotCastResolverPanel (panel : ResolverPanel) (reveals : List ResolverReveal)
    (now : String) : Except Fault PanelSettlement := do
  let weights := revealWeights js reveals panel.assignments
  let consensus := consensusOutcome js weights
  let totalWeight :=
    js.arithmetic.integer (js.arithmetic.integer (weights.yes + weights.no) + weights.invalid)
  throwIf (totalWeight ≤ 0)
    ⟨"resolver panel cannot settle without at least one valid reveal",
      some "RESOLVER_PANEL_NO_REVEALS", some 409⟩
  let correct := correctAssignments reveals consensus panel.assignments
  let feePool := floorQuotient js
    (js.arithmetic.integer (panel.estimatedStakeMinorUnits * panel.resolverFeeBps)) 10000
  let feePerCorrect :=
    if panel.resolverFeeBps > 0 ∧ 0 < correct.length then floorQuotient js feePool correct.length
    else 0
  return {
    consensusOutcome := consensus
    totalWeight := totalWeight
    consensusWeight := weights.get consensus
    payouts := panel.assignments.map fun a => settledPayout a
      ((revealOf reveals a.assignmentId).map (·.outcome) == some consensus) feePerCorrect now }

/-! ## Timeouts -/

/-- What a resolver was late for. -/
inductive TimeoutPhase
  | commit
  | reveal
  deriving DecidableEq, Repr

/-- A resolver was paid or slashed. -/
def AssignmentStatus.Final (status : AssignmentStatus) : Prop :=
  status = .paid ∨ status = .slashed

instance (status : AssignmentStatus) : Decidable status.Final :=
  inferInstanceAs (Decidable (_ ∨ _))

/-- The phase ended with nothing from the assignment. -/
def TimeoutPhase.Missed (phase : TimeoutPhase) (commits : List ResolverCommit)
    (reveals : List ResolverReveal) (assignmentId : String) : Prop :=
  match phase with
  | .commit => ∀ c ∈ commits, c.assignmentId ≠ assignmentId
  | .reveal => ∀ r ∈ reveals, r.assignmentId ≠ assignmentId

instance (phase : TimeoutPhase) (commits : List ResolverCommit) (reveals : List ResolverReveal)
    (assignmentId : String) : Decidable (phase.Missed commits reveals assignmentId) :=
  match phase with
  | .commit => inferInstanceAs (Decidable (∀ c ∈ commits, _))
  | .reveal => inferInstanceAs (Decidable (∀ r ∈ reveals, _))

/-- The resolvers who were late. -/
def timedOutAssignments (phase : TimeoutPhase) (commits : List ResolverCommit)
    (reveals : List ResolverReveal) (assignments : List ResolverAssignment) :
    List ResolverAssignment :=
  assignments.filter fun a => ¬a.status.Final ∧ phase.Missed commits reveals a.assignmentId

/-- The payouts of `evaluateDotCastResolverPanelTimeout`. -/
def evaluateDotCastResolverPanelTimeout (panel : ResolverPanel) (phase : TimeoutPhase)
    (commits : List ResolverCommit) (reveals : List ResolverReveal) (now : String) :
    List ResolverPayout :=
  (timedOutAssignments phase commits reveals panel.assignments).map fun a =>
    settledPayout a false 0 now

/-! ## Requests -/

namespace Resolving

abbrev getPanelRow (panelId : String) : Resolving (Option ResolverPanelRow) :=
  Program.perform (ResolverOp.getPanelRow panelId)

abbrev listAssignments (panelId : String) : Resolving (List ResolverAssignment) :=
  Program.perform (ResolverOp.listAssignments panelId)

abbrev getResolverCommit (assignmentId : String) : Resolving (Option ResolverCommit) :=
  Program.perform (ResolverOp.getResolverCommit assignmentId)

abbrev listResolverCommits (panelId : String) : Resolving (List ResolverCommit) :=
  Program.perform (ResolverOp.listResolverCommits panelId)

abbrev listResolverReveals (panelId : String) : Resolving (List ResolverReveal) :=
  Program.perform (ResolverOp.listResolverReveals panelId)

end Resolving

section Running

open Program (run)

variable {js} {α : Type} {s : ResolverStore}

theorem run_getPanelRow_bind (panelId : String) (f : Option ResolverPanelRow → Resolving α) :
    run (resolverHandler js) (Resolving.getPanelRow panelId >>= f) s =
      match (resolverHandler js (.getPanelRow panelId) s).1 with
      | .ok answer => run (resolverHandler js) (f answer) s
      | .error e => (.error e, s) := by
  show run _ (.done (resolverHandler js (.getPanelRow panelId) s).1 >>= f) s = _
  cases (resolverHandler js (.getPanelRow panelId) s).1 <;> rfl

theorem run_listAssignments_bind (panelId : String) (f : List ResolverAssignment → Resolving α) :
    run (resolverHandler js) (Resolving.listAssignments panelId >>= f) s =
      match (resolverHandler js (.listAssignments panelId) s).1 with
      | .ok answer => run (resolverHandler js) (f answer) s
      | .error e => (.error e, s) := by
  show run _ (.done (resolverHandler js (.listAssignments panelId) s).1 >>= f) s = _
  cases (resolverHandler js (.listAssignments panelId) s).1 <;> rfl

theorem run_getResolverCommit_bind (assignmentId : String)
    (f : Option ResolverCommit → Resolving α) :
    run (resolverHandler js) (Resolving.getResolverCommit assignmentId >>= f) s =
      match (resolverHandler js (.getResolverCommit assignmentId) s).1 with
      | .ok answer => run (resolverHandler js) (f answer) s
      | .error e => (.error e, s) := by
  show run _ (.done (resolverHandler js (.getResolverCommit assignmentId) s).1 >>= f) s = _
  cases (resolverHandler js (.getResolverCommit assignmentId) s).1 <;> rfl

theorem run_listResolverCommits_bind (panelId : String) (f : List ResolverCommit → Resolving α) :
    run (resolverHandler js) (Resolving.listResolverCommits panelId >>= f) s =
      match (resolverHandler js (.listResolverCommits panelId) s).1 with
      | .ok answer => run (resolverHandler js) (f answer) s
      | .error e => (.error e, s) := by
  show run _ (.done (resolverHandler js (.listResolverCommits panelId) s).1 >>= f) s = _
  cases (resolverHandler js (.listResolverCommits panelId) s).1 <;> rfl

theorem run_listResolverReveals_bind (panelId : String) (f : List ResolverReveal → Resolving α) :
    run (resolverHandler js) (Resolving.listResolverReveals panelId >>= f) s =
      match (resolverHandler js (.listResolverReveals panelId) s).1 with
      | .ok answer => run (resolverHandler js) (f answer) s
      | .error e => (.error e, s) := by
  show run _ (.done (resolverHandler js (.listResolverReveals panelId) s).1 >>= f) s = _
  cases (resolverHandler js (.listResolverReveals panelId) s).1 <;> rfl

end Running

/-- The panel must be stored. -/
def requireResolverPanel (panelId : String) : Resolving ResolverPanel := do
  match ← Resolving.getPanelRow panelId with
  | none => Resolving.fail "RESOLVER_PANEL_NOT_FOUND" "E13 resolver panel was not found" 404
  | some row =>
    let assignments ← Resolving.listAssignments panelId
    return { row with assignments := assignments }

/-- The seat must be stored. -/
def requireResolverAssignment (assignmentId : String) : Resolving ResolverAssignment := do
  match ← Resolving.getResolverAssignment assignmentId with
  | none =>
    Resolving.fail "RESOLVER_ASSIGNMENT_NOT_FOUND" "E13 resolver assignment was not found" 404
  | some assignment => return assignment

/-- The committed vote must be stored. -/
def requireResolverCommit (assignmentId : String) : Resolving ResolverCommit := do
  match ← Resolving.getResolverCommit assignmentId with
  | none => Resolving.fail "RESOLVER_COMMIT_NOT_FOUND" "E13 resolver commit was not found" 404
  | some commit => return commit

/-- The gateway's requests against a stored panel. What else a settlement consults before it
pays out, the route and its challenges, either lets it pass or throws. -/
inductive PanelRequest
  | commit (assignmentId : String) (outcome : PoolOutcome) (salt now : String)
  | reveal (assignmentId : String) (outcome : PoolOutcome) (salt now : String)
  | timeout (panelId : String) (phase : TimeoutPhase) (now : String)
  | settle (panelId : String) (preflight : Except Fault Unit) (now : String)

/-- A vote is committed. -/
def commitDotCastResolverRoute (digest : String → String) (assignmentId : String)
    (outcome : PoolOutcome) (salt now : String) : Resolving Unit := do
  let assignment ← requireResolverAssignment assignmentId
  let commit ← .done (createDotCastResolverCommit digest assignment outcome salt now)
  insertResolverCommit commit

/-- A vote is revealed. -/
def revealDotCastResolverRoute (digest : String → String) (assignmentId : String)
    (outcome : PoolOutcome) (salt now : String) : Resolving Unit := do
  let commit ← requireResolverCommit assignmentId
  let reveal ← .done (revealDotCastResolverCommit digest commit outcome salt now)
  insertResolverReveal reveal

/-- Late resolvers are timed out. -/
def applyDotCastResolverPanelTimeoutRoute (panelId : String) (phase : TimeoutPhase)
    (now : String) : Resolving Unit := do
  let panel ← requireResolverPanel panelId
  let commits ← Resolving.listResolverCommits panel.panelId
  let reveals ← Resolving.listResolverReveals panel.panelId
  insertResolverPayouts js (evaluateDotCastResolverPanelTimeout panel phase commits reveals now)

/-- A panel is settled and stored. -/
def settleDotCastResolverPanelRoute (panelId : String) (preflight : Except Fault Unit)
    (now : String) : Resolving Unit := do
  let panel ← requireResolverPanel panelId
  let reveals ← Resolving.listResolverReveals panelId
  let settlement ← .done (settleDotCastResolverPanel js panel reveals now)
  .done preflight
  insertResolverPayouts js settlement.payouts

/-- The function that a request starts. -/
def PanelRequest.program (digest : String → String) : PanelRequest → Resolving Unit
  | .commit assignmentId outcome salt now =>
    commitDotCastResolverRoute digest assignmentId outcome salt now
  | .reveal assignmentId outcome salt now =>
    revealDotCastResolverRoute digest assignmentId outcome salt now
  | .timeout panelId phase now => applyDotCastResolverPanelTimeoutRoute js panelId phase now
  | .settle panelId preflight now => settleDotCastResolverPanelRoute js panelId preflight now

end Yevow.DotCast
