import Yevow.Core.JavaScript.Timestamp
import Yevow.Core.Number.Extended

/-!
# Where the engine runs

The engine derives its location from the placement it observes. Outside the golden regions
that the configuration or the environment names, its orders are limited to a part of the
configured size.
-/

namespace Yevow.Engine

open JavaScript (Runtime)

/-- Why a location counts as near or far. -/
inductive LocationReason
  | goldenRegion
  | nonGoldenRegion
  | unknownColo
  | targetColoUnobserved
  | targetColoAssumed
  deriving DecidableEq, Repr

/-- Where the engine runs. -/
structure EngineLocation where
  colo : Option String
  placement : Option String
  country : Option String
  city : Option String
  region : Option String
  timezone : Option String
  latitude : Option String
  longitude : Option String
  lastSeenAt : Option String
  isGoldenRegion : Bool
  latencyRiskMultiplier : Number
  positionSizeMultiplier : Number
  observedLatencyMs : Option Number
  reason : LocationReason
  deriving DecidableEq

/-- The location is not known. -/
def defaultEngineLocation : EngineLocation where
  colo := none
  placement := none
  country := none
  city := none
  region := none
  timezone := none
  latitude := none
  longitude := none
  lastSeenAt := none
  isGoldenRegion := true
  latencyRiskMultiplier := .finite 1
  positionSizeMultiplier := .finite 1
  observedLatencyMs := none
  reason := .unknownColo

/-- What the location is derived from. -/
structure EdgeTopology where
  colo : Option String
  placement : Option String
  observedAt : String
  deriving DecidableEq

/-- The settings of placement. -/
structure PlacementEnv where
  PLACEMENT_TARGET_COLO : Option String
  GOLDEN_COLOS : Option String
  HIGH_LATENCY_COLO_RISK_MULTIPLIER : Option String
  deriving DecidableEq

/-! ## Names of places -/

/-- What follows a label, in whichever case the label is written. -/
def afterLabel (label cs : List Char) : Option (List Char) :=
  if (cs.take label.length).map Char.toLower = label then some (cs.drop label.length) else none

/-- `[a-z0-9]{3,4}`, ignoring case. -/
def isColoCode (cs : List Char) : Bool :=
  (cs.length = 3 ∨ cs.length = 4) ∧ cs.all Char.isAlphanum

/-- The code in `remote-<code>` or `local-<code>`. -/
def placementCode (placement : Option String) : Option String :=
  let cs := (placement.getD "").toList
  ((afterLabel "remote-".toList cs <|> afterLabel "local-".toList cs).filter isColoCode).map
    fun code => (String.ofList code).toUpper

/-- The configured location, if it is one. -/
def configuredPlacementColoFromValue (value : Option String) : Option String :=
  (value.map fun text => (JavaScript.trim text).toUpper).filter fun configured =>
    isColoCode configured.toList ∧ configured.toList.all fun c => ¬c.isLower

/-- The name of a location. -/
def normalizeColo (value : String) : String :=
  let raw := JavaScript.trim value
  if raw = "" then "UNKNOWN"
  else if '-' ∈ raw.toList then
    (String.ofList ((raw.toList.splitOn '-').getLast?.getD [])).toUpper
  else raw.toUpper

/-- The locations of a list. -/
def parseColoSet (value : Option String) : List String :=
  (((value.getD "").toList.splitOn ',').map fun colo => normalizeColo (String.ofList colo)).filter
    (· ≠ "UNKNOWN")

/-! ## The location -/

variable (js : Runtime)

/-- A number rounded to some decimals. -/
def roundMetric (value : Number) (decimals : ℕ) : Number :=
  let round := js.arithmetic.fraction
  let factor := Number.finite (10 ^ decimals)
  Number.div round (Number.mul round (Number.add round value .epsilon) factor).mathRound factor

def DEFAULT_HIGH_LATENCY_COLO_RISK_MULTIPLIER : Number := .finite (1 / 2)

/-- The multiplier of a far location. -/
def resolveRiskMultiplier (value : Option String) : Number :=
  let parsed := value.elim .nan js.toNumber
  if ¬parsed.isPositive ∨ Number.lt (.finite 1) parsed then
    DEFAULT_HIGH_LATENCY_COLO_RISK_MULTIPLIER
  else roundMetric js parsed 4

/-- Whether the engine is near, and what that does to its risk. -/
def resolveEngineLocation (topology : EdgeTopology) (previous : EngineLocation)
    (env : PlacementEnv) (goldenColos : String) (observedLatencyMs : Option Number) :
    EngineLocation :=
  let targetColo := configuredPlacementColoFromValue env.PLACEMENT_TARGET_COLO
  let colo :=
    (placementCode topology.placement <|> topology.colo <|> targetColo).map String.toUpper
  let goldenSet :=
    parseColoSet (if goldenColos ≠ "" then some goldenColos else env.GOLDEN_COLOS)
  let isGoldenRegion := goldenSet.isEmpty || colo.any (· ∈ goldenSet)
  let latencyRiskMultiplier :=
    if isGoldenRegion then .finite 1
    else resolveRiskMultiplier js env.HIGH_LATENCY_COLO_RISK_MULTIPLIER
  { colo
    placement := topology.placement <|> previous.placement
    country := none
    city := none
    region := none
    timezone := none
    latitude := none
    longitude := none
    lastSeenAt := some topology.observedAt
    isGoldenRegion
    latencyRiskMultiplier
    positionSizeMultiplier := latencyRiskMultiplier
    observedLatencyMs
    reason :=
      if colo = none then .unknownColo
      else if placementCode topology.placement = none ∧ topology.colo.all (· = "") ∧
          targetColo = colo then .targetColoAssumed
      else if isGoldenRegion then .goldenRegion
      else .nonGoldenRegion }

end Yevow.Engine
