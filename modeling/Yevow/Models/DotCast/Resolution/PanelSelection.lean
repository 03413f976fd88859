import Yevow.Core.Collection.Leaders
import Yevow.Core.JavaScript.Reference
import Yevow.Core.Text.CodeUnits
import Yevow.Models.DotCast.Resolution.Challenges

/-!
# Selecting a resolver panel

Of each identity the profile of the highest reputation is kept, and only what is kept is then
checked for stakes and bonds. Who is left is put into the order of a hash of the panel id.
-/

namespace Yevow.DotCast

open JavaScript (Runtime)
open Except (throwIf)

/-- A candidate for a panel. -/
structure ResolverProfile where
  resolverId : String
  identityHash : String
  reputationBps : ℤ
  bondAvailableMinorUnits : ℤ
  stakeHeldPoolIds : List String
  deriving DecidableEq

/-- The variables a panel depends on. -/
structure ResolutionRouterEnv where
  resolutionHighStakesThresholdMinorUnits : Option String
  resolverBasePanelSize : Option String
  resolverHighStakesPanelSize : Option String
  resolverMinBondMinorUnits : Option String
  resolverHighStakesMinBondMinorUnits : Option String
  resolverFeeBps : Option String

/-- The part of the router's status that a panel depends on. -/
structure ResolutionRouterStatus where
  highStakesThresholdMinorUnits : ℤ
  basePanelSize : ℤ
  highStakesPanelSize : ℤ
  resolverMinBondMinorUnits : ℤ
  resolverHighStakesMinBondMinorUnits : ℤ
  resolverFeeBps : ℤ
  deriving DecidableEq

/-- A panel that is to be selected. -/
structure SelectDotCastResolverPanelInput where
  poolId : String
  route : DotCastResolutionRoute
  candidates : List ResolverProfile
  positionUserIds : Option (List String)
  estimatedStakeMinorUnits : Option ℤ
  panelId : Option String
  now : Option String

variable (js : Runtime)

/-! ## Configuration -/

def readNonNegativeInteger (value : Option String) (fallback : ℤ) : ℤ :=
  match value with
  | none => fallback
  | some text =>
    if JavaScript.trim text = "" then fallback
    else
      match JavaScript.safeInteger? js.arithmetic (js.toNumber text) with
      | some parsed => if parsed ≥ 0 then parsed else fallback
      | none => fallback

def readBps (value : Option String) (fallback : ℤ) : ℤ :=
  max 0 (min 10000 (readNonNegativeInteger js value fallback))

/-- The next odd size. -/
def oddPanelSize (value : ℤ) : ℤ :=
  let minimum := max 1 value
  if minimum % 2 = 1 then minimum else minimum + 1

def readDotCastResolutionRouterStatus (env : ResolutionRouterEnv) : ResolutionRouterStatus where
  highStakesThresholdMinorUnits :=
    readNonNegativeInteger js env.resolutionHighStakesThresholdMinorUnits 5000000
  basePanelSize := oddPanelSize (readNonNegativeInteger js env.resolverBasePanelSize 3)
  highStakesPanelSize := oddPanelSize (readNonNegativeInteger js env.resolverHighStakesPanelSize 7)
  resolverMinBondMinorUnits := readNonNegativeInteger js env.resolverMinBondMinorUnits 50000
  resolverHighStakesMinBondMinorUnits :=
    readNonNegativeInteger js env.resolverHighStakesMinBondMinorUnits 250000
  resolverFeeBps := readBps js env.resolverFeeBps 200

/-- High stakes take their own size of panel. -/
def panelSizeForStake (status : ResolutionRouterStatus) (estimatedStakeMinorUnits : ℤ) : ℤ :=
  if estimatedStakeMinorUnits ≥ status.highStakesThresholdMinorUnits then status.highStakesPanelSize
  else status.basePanelSize

/-- High stakes take their own bond. -/
def bondForStake (status : ResolutionRouterStatus) (estimatedStakeMinorUnits : ℤ) : ℤ :=
  if estimatedStakeMinorUnits ≥ status.highStakesThresholdMinorUnits then
    status.resolverHighStakesMinBondMinorUnits
  else status.resolverMinBondMinorUnits

/-! ## Candidates -/

/-- One candidate for each identity. -/
def uniqueIdentityCandidates (candidates : List ResolverProfile) : List ResolverProfile :=
  (Rows.leaders ResolverProfile.identityHash ResolverProfile.reputationBps candidates).rows

/-- A hash of a text. -/
def stableScore (value : String) : ℕ :=
  (Text.codeUnits value).foldl (fun hash unit => ((hash ^^^ unit) * 16777619) % 2 ^ 32) 2166136261

/-- The score of a candidate under a seed. -/
def resolverScore (seed : String) (candidate : ResolverProfile) : ℤ :=
  stableScore (seed ++ ":" ++ candidate.resolverId ++ ":" ++ candidate.identityHash)

/-- The order of the candidates. -/
def compareResolvers (seed : String) (a b : ResolverProfile) : ℤ :=
  if resolverScore seed a - resolverScore seed b ≠ 0 then
    resolverScore seed a - resolverScore seed b
  else b.reputationBps - a.reputationBps

/-- The candidates in an order that the seed gives. -/
def deterministicResolverShuffle (candidates : List ResolverProfile) (seed : String) :
    List ResolverProfile :=
  Sorting.sortBy (compareResolvers seed) candidates

/-! ## The panel -/

namespace SelectDotCastResolverPanelInput

variable (env : ResolutionRouterEnv) (clock : String) (input : SelectDotCastResolverPanelInput)

def stake : ℤ := input.estimatedStakeMinorUnits.getD 0

def panelSize : ℤ := panelSizeForStake (readDotCastResolutionRouterStatus js env) input.stake

def bondMinorUnits : ℤ := bondForStake (readDotCastResolutionRouterStatus js env) input.stake

def selectedPanelId : String :=
  input.panelId.getD ("dotcast:e13:panel:" ++ input.poolId ++ ":" ++ input.route.routeId ++ ":" ++
    dateText js (input.now.getD clock))

def stakeExcluded : List String := input.positionUserIds.getD []

/-- A profile that none of the three filters drops. -/
def Qualified (candidate : ResolverProfile) : Prop :=
  candidate.resolverId ∉ input.stakeExcluded ∧ input.poolId ∉ candidate.stakeHeldPoolIds ∧
    candidate.bondAvailableMinorUnits ≥ input.bondMinorUnits js env

instance (candidate : ResolverProfile) : Decidable (input.Qualified js env candidate) :=
  inferInstanceAs (Decidable (_ ∧ _ ∧ _))

def uniqueCandidates : List ResolverProfile :=
  (uniqueIdentityCandidates input.candidates).filter fun c => input.Qualified js env c

/-- The members of the panel. -/
def selected : List ResolverProfile :=
  (deterministicResolverShuffle (input.uniqueCandidates js env)
    (input.selectedPanelId js clock)).take (input.panelSize js env).toNat

/-- The assignment of the candidate at an index. -/
def assignment (index : ℕ) (candidate : ResolverProfile) : ResolverAssignment where
  assignmentId := input.selectedPanelId js clock ++ ":assignment:" ++ toString (index + 1)
  panelId := input.selectedPanelId js clock
  poolId := input.poolId
  routeId := input.route.routeId
  resolverId := candidate.resolverId
  identityHash := candidate.identityHash
  reputationBps := candidate.reputationBps
  bondMinorUnits := input.bondMinorUnits js env
  status := .assigned
  assignedAt := input.now.getD clock

end SelectDotCastResolverPanelInput

/-- A panel is selected. -/
def selectDotCastResolverPanel (env : ResolutionRouterEnv) (clock : String)
    (input : SelectDotCastResolverPanelInput) : Except Fault ResolverPanel := do
  let selected := input.selected js env clock
  throwIf ((selected.length : ℤ) < input.panelSize js env)
    ⟨"not enough stake-excluded, bonded, unique-identity resolvers for the required panel",
      some "RESOLVER_PANEL_INSUFFICIENT", some 409⟩
  return {
    panelId := input.selectedPanelId js clock
    poolId := input.poolId
    routeId := input.route.routeId
    tier := input.route.tier
    panelSize := input.panelSize js env
    estimatedStakeMinorUnits := input.stake
    resolverFeeBps :=
      if input.route.tier = .optimisticBonded ∨ input.route.tier = .humanJury then
        (readDotCastResolutionRouterStatus js env).resolverFeeBps
      else 0
    assignments := selected.mapIdx (input.assignment js env clock)
    createdAt := input.now.getD clock }

end Yevow.DotCast
