import Yevow.Core.Effect.Concurrency
import Yevow.Models.DotCast.Funding.BondFunding
import Yevow.Models.DotCast.Pool.Lifecycle
import Yevow.Models.DotCast.Resolution.Reading

/-!
# Resolution challenges

A challenge to a resolution is opened with a bond on its challenger's settlement balance and
decided later. The bond lives in the funding store, the challenge in the resolver store; a
request writes first the one and then the other.
-/

namespace Yevow.DotCast

open Except (throwIf)
open JavaScript (Runtime)

/-! ## Challenges and routes -/

/-- What became of a challenge. -/
inductive ChallengeStatus
  | open
  | accepted
  | rejected
  | expired
  | withdrawn
  deriving DecidableEq, Repr

/-- A challenge of a route. -/
structure DotCastResolutionChallenge where
  challengeId : String
  routeId : String
  poolId : Option String
  marketId : String
  challengerId : String
  status : ChallengeStatus
  reason : String
  bondMinorUnits : ℤ
  openedAt : String
  challengeWindowClosesAt : String
  decidedAt : Option String
  decisionBy : Option String
  deriving DecidableEq

/-- What a challenge takes from its route. -/
structure DotCastResolutionRoute extends ResolutionRoute where
  tier : ResolutionTier
  bondMinorUnits : ℤ
  createdAt : String
  deriving DecidableEq

/-- A challenge that is to be opened. -/
structure OpenDotCastResolutionChallengeInput where
  route : DotCastResolutionRoute
  challengerId : String
  reason : String
  bondMinorUnits : Option ℤ
  challengeId : Option String
  windowSeconds : Option ℤ
  now : Option String

/-- How a challenge is decided. -/
inductive ChallengeDecisionAction
  | accept
  | reject
  | expire
  deriving DecidableEq, Repr

structure DecideDotCastResolutionChallengeInput where
  challenge : DotCastResolutionChallenge
  action : ChallengeDecisionAction
  decisionBy : Option String
  now : Option String

/-- The router's errors. -/
def routerFault (code message : String) (status : ℕ) : Fault := ⟨message, some code, some status⟩

variable (js : Runtime)

def DEFAULT_RESOLUTION_CHALLENGE_WINDOW_SECONDS : ℤ := 900

def requireNonEmptyInput (value label : String) : Except Fault String :=
  if JavaScript.trim value = "" then
    .error (routerFault "INVALID_RESOLVER_PROFILE" (label ++ " is required") 400)
  else .ok (JavaScript.trim value)

def ResolutionRouter.assertNonNegativeInteger (value : ℤ) (label : String) : Except Fault Unit :=
  throwIf (js.arithmetic.isSafeInteger value = false ∨ value < 0)
    (routerFault "INVALID_RESOLVER_PROFILE" (label ++ " must be a non-negative integer") 400)

/-- When the route's challenge window closes. -/
def routeWindowClosesAtMs (route : DotCastResolutionRoute) (windowSeconds openedAtMs : ℤ) : ℤ :=
  let window := js.arithmetic.integer (windowSeconds * 1000)
  match js.dateParse route.createdAt with
  | some createdAtMs =>
    if createdAtMs > 0 then js.arithmetic.integer (createdAtMs + window)
    else js.arithmetic.integer (openedAtMs + window)
  | none => js.arithmetic.integer (openedAtMs + window)

/-- `openDotCastResolutionChallenge` over the host's `Date.prototype.toISOString`. -/
def openDotCastResolutionChallenge (toISOString : ℤ → Except Fault String) (clock : String)
    (input : OpenDotCastResolutionChallengeInput) : Except Fault DotCastResolutionChallenge := do
  let now := input.now.getD clock
  let windowSeconds :=
    max 60 (input.windowSeconds.getD DEFAULT_RESOLUTION_CHALLENGE_WINDOW_SECONDS)
  match js.dateParse now with
  | none =>
    throw (routerFault "RESOLUTION_CHALLENGE_TIME_INVALID" "challenge timestamp is invalid" 422)
  | some openedAtMs =>
    throwIf (input.route.tier ≠ .optimisticBonded)
      (routerFault "RESOLUTION_CHALLENGE_ROUTE_INELIGIBLE"
        "only optimistic bonded E13 routes can be challenged" 409)
    throwIf (input.route.status = .blocked ∨ input.route.status = .pointsOnly)
      (routerFault "RESOLUTION_CHALLENGE_ROUTE_CLOSED"
        "blocked or points-only E13 routes cannot be challenged" 409)
    let closesAtMs := routeWindowClosesAtMs js input.route windowSeconds openedAtMs
    throwIf (openedAtMs > closesAtMs)
      (routerFault "RESOLUTION_CHALLENGE_WINDOW_CLOSED"
        "the E13 optimistic challenge window has closed" 409)
    let challengeWindowClosesAt ← toISOString closesAtMs
    let challengerId ← requireNonEmptyInput input.challengerId "challengerId"
    let reason ← requireNonEmptyInput input.reason "reason"
    let bondMinorUnits := input.bondMinorUnits.getD (max 0 input.route.bondMinorUnits)
    ResolutionRouter.assertNonNegativeInteger js bondMinorUnits "bondMinorUnits"
    return {
      challengeId := input.challengeId.getD ("dotcast:e13:challenge:" ++ input.route.routeId ++
        ":" ++ challengerId ++ ":" ++ dateText js now)
      routeId := input.route.routeId
      poolId := input.route.poolId
      marketId := input.route.marketId
      challengerId := challengerId
      status := .open
      reason := reason
      bondMinorUnits := bondMinorUnits
      openedAt := now
      challengeWindowClosesAt := challengeWindowClosesAt
      decidedAt := none
      decisionBy := none }

/-- The status after a decision. -/
def challengeStatusForDecision : ChallengeDecisionAction → ChallengeStatus
  | .accept => .accepted
  | .reject => .rejected
  | .expire => .expired

/-- `nowMs > closesAtMs` where both are numbers. -/
def windowPassed (now closesAt : String) : Bool :=
  match js.dateParse now, js.dateParse closesAt with
  | some nowMs, some closesAtMs => closesAtMs < nowMs
  | _, _ => false

/-- A challenge is decided. -/
def decideDotCastResolutionChallenge (clock : String)
    (input : DecideDotCastResolutionChallengeInput) :
    Except Fault DotCastResolutionChallenge := do
  let now := input.now.getD clock
  throwIf (input.challenge.status ≠ .open)
    (routerFault "RESOLUTION_CHALLENGE_ALREADY_DECIDED"
      "only open E13 challenges can be decided" 409)
  throwIf (input.action ≠ .expire ∧
      windowPassed js now input.challenge.challengeWindowClosesAt = true)
    (routerFault "RESOLUTION_CHALLENGE_WINDOW_CLOSED"
      "E13 challenge decisions after the window must use expire" 409)
  return { input.challenge with
    status := challengeStatusForDecision input.action
    decidedAt := some now
    decisionBy := nullableText (input.decisionBy.map JavaScript.trim) }

/-! ## The two stores -/

/-- The challenges and the funding of their bonds. -/
structure ChallengeStore where
  challenges : Rows String DotCastResolutionChallenge
  funding : FundingStore
  challenges_ok : ∀ id c, challenges.get? id = some c →
    c.challengeId = id ∧ 0 ≤ c.bondMinorUnits

/-- The calls of the challenge routes. -/
inductive ChallengeOp
  | funding (op : FundingOp)
  | getResolutionChallenge (challengeId : String)
  | insertResolutionChallenge (challenge : DotCastResolutionChallenge)
  | updateResolutionChallenge (challenge : DotCastResolutionChallenge)

/-- What a call returns. -/
abbrev ChallengeOp.Ret : ChallengeOp → Type
  | funding op => FundingOp.Ret op
  | getResolutionChallenge _ => Option DotCastResolutionChallenge
  | _ => Unit

/-- A function of the challenge routes. -/
abbrev Challenging (α : Type) : Type := Program ChallengeOp ChallengeOp.Ret Fault α

/-- A challenge as it is read. -/
def challengeFromRow (row : DotCastResolutionChallenge) :
    Except Fault DotCastResolutionChallenge := do
  return {
    challengeId := ← rowText row.challengeId "challenge_id"
    routeId := ← rowText row.routeId "route_id"
    poolId := nullableText row.poolId
    marketId := ← rowText row.marketId "market_id"
    challengerId := ← rowText row.challengerId "challenger_id"
    status := row.status
    reason := ← rowText row.reason "reason"
    bondMinorUnits := ← rowInteger js row.bondMinorUnits "bond_minor_units"
    openedAt := ← rowText row.openedAt "opened_at"
    challengeWindowClosesAt :=
      ← rowText row.challengeWindowClosesAt "challenge_window_closes_at"
    decidedAt := nullableText row.decidedAt
    decisionBy := nullableText row.decisionBy }

namespace ChallengeStore

def withFunding (s : ChallengeStore) (funding : FundingStore) : ChallengeStore :=
  { s with funding := funding }

def put (s : ChallengeStore) (c : DotCastResolutionChallenge) (h : 0 ≤ c.bondMinorUnits) :
    ChallengeStore :=
  { s with
    challenges := s.challenges.set c.challengeId c
    challenges_ok := Rows.forall_set s.challenges_ok ⟨rfl, h⟩ }

/-- `INSERT OR IGNORE`. -/
def insertChallenge (s : ChallengeStore) (c : DotCastResolutionChallenge) : ChallengeStore :=
  if h : s.challenges.get? c.challengeId = none ∧ 0 ≤ c.bondMinorUnits then s.put c h.2 else s

/-- The columns an update sets. -/
def decided (row c : DotCastResolutionChallenge) : DotCastResolutionChallenge :=
  { row with status := c.status, decidedAt := c.decidedAt, decisionBy := c.decisionBy }

/-- A stored challenge is replaced. -/
def updateChallenge (s : ChallengeStore) (c : DotCastResolutionChallenge) : ChallengeStore :=
  match h : s.challenges.get? c.challengeId with
  | none => s
  | some row => s.put (decided row c) (s.challenges_ok _ _ h).2

end ChallengeStore

/-- What serves the calls. -/
def challengeHandler : Handler ChallengeOp ChallengeOp.Ret Fault ChallengeStore
  | .funding op, s =>
    ((fundingHandler op s.funding).1, s.withFunding (fundingHandler op s.funding).2)
  | .getResolutionChallenge id, s => (readRow (challengeFromRow js) (s.challenges.get? id), s)
  | .insertResolutionChallenge c, s => (.ok (), s.insertChallenge c)
  | .updateResolutionChallenge c, s => (.ok (), s.updateChallenge c)

/-! ## Requests -/

/-- Texts of a request body, absent where they are undefined or null. -/
def Gateway.parseRequiredString (value : Option String) (label : String) : Except Fault String :=
  match value with
  | some text =>
    if JavaScript.trim text ≠ "" then .ok (JavaScript.trim text)
    else .error (.plain (label ++ " is required"))
  | none => .error (.plain (label ++ " is required"))

def Gateway.parseOptionalString (value : Option String) (label : String) :
    Except Fault (Option String) :=
  match value with
  | some text =>
    if JavaScript.trim text ≠ "" then .ok (some (JavaScript.trim text))
    else .error (.plain (label ++ " must be a non-empty string"))
  | none => .ok none

/-- `parseMinorUnits(value, label, true)`. -/
def Gateway.parseMinorUnits (value : Number) (label : String) : Except Fault ℤ :=
  match JavaScript.safeInteger? js.arithmetic value with
  | some n =>
    if 0 ≤ n then .ok n
    else .error (.plain (label ++ " must be a non-negative integer minor-unit amount"))
  | none => .error (.plain (label ++ " must be a non-negative integer minor-unit amount"))

def Gateway.parseOptionalMinorUnits (value : Option Number) (label : String) :
    Except Fault (Option ℤ) :=
  match value with
  | some value => (Gateway.parseMinorUnits js value label).map some
  | none => .ok none

/-- A request to open a challenge of a route that was given or read. -/
structure OpenChallengeRequest where
  route : Except Fault DotCastResolutionRoute
  challengerId : Option String
  reason : Option String
  bondMinorUnits : Option Number
  challengeId : Option String
  windowSeconds : Except Fault (Option ℤ)
  now : Option String

structure DecideChallengeRequest where
  challengeId : Option String
  action : Except Fault ChallengeDecisionAction
  decisionBy : Option String
  now : Option String

/-- What is asked of the challenge routes. -/
inductive ChallengeRequest
  | open (request : OpenChallengeRequest)
  | decide (request : DecideChallengeRequest)

def usdcBondLockId (purpose id : String) : String :=
  "dotcast:e13:usdc-bond:" ++ purpose ++ ":" ++ id

/-- The challenge a request opens. -/
def OpenChallengeRequest.challenge (toISOString : ℤ → Except Fault String) (clock : String)
    (request : OpenChallengeRequest) : Except Fault DotCastResolutionChallenge := do
  let route ← request.route
  let challengerId ← Gateway.parseRequiredString request.challengerId "challengerId"
  let reason ← Gateway.parseRequiredString request.reason "reason"
  let bondMinorUnits ← Gateway.parseOptionalMinorUnits js request.bondMinorUnits "bondMinorUnits"
  let challengeId ← Gateway.parseOptionalString request.challengeId "challengeId"
  let windowSeconds ← request.windowSeconds
  let now ← Gateway.parseOptionalString request.now "now"
  openDotCastResolutionChallenge js toISOString clock
    { route := route
      challengerId := challengerId
      reason := reason
      bondMinorUnits := bondMinorUnits
      challengeId := challengeId
      windowSeconds := windowSeconds
      now := now }

/-- The bond of a challenge. -/
def challengeBond (challenge : DotCastResolutionChallenge) : ReserveUsdcBondInput where
  lockId := usdcBondLockId "challenge" challenge.challengeId
  purpose := .resolutionChallenge
  ownerId := challenge.challengerId
  amount := challenge.bondMinorUnits
  routeId := some challenge.routeId
  poolId := challenge.poolId
  panelId := none
  assignmentId := none
  challengeId := some challenge.challengeId
  now := some challenge.openedAt

/-- A rejected challenge loses its bond. -/
def ChallengeStatus.bondAction (status : ChallengeStatus) : BondAction :=
  if status = .rejected then .slash else .release

def ChallengeStatus.text : ChallengeStatus → String
  | .open => "open"
  | .accepted => "accepted"
  | .rejected => "rejected"
  | .expired => "expired"
  | .withdrawn => "withdrawn"

/-- How the bond of a challenge is settled. -/
def challengeBondSettlement (challenge : DotCastResolutionChallenge) : SettleUsdcBondInput where
  lockId := usdcBondLockId "challenge" challenge.challengeId
  action := challenge.status.bondAction
  reason := "challenge_" ++ challenge.status.text
  creditMinorUnits := none
  now := challenge.decidedAt
  allowMissing := true

namespace Challenging

/-- A program over the funding store. -/
abbrev funding {α : Type} (p : Funding α) : Challenging α :=
  Program.embed ChallengeOp.funding (fun _ answer => answer) p

abbrev getResolutionChallenge (challengeId : String) :
    Challenging (Option DotCastResolutionChallenge) :=
  Program.perform (ChallengeOp.getResolutionChallenge challengeId)

abbrev insertResolutionChallenge (challenge : DotCastResolutionChallenge) : Challenging Unit :=
  Program.perform (ChallengeOp.insertResolutionChallenge challenge)

abbrev updateResolutionChallenge (challenge : DotCastResolutionChallenge) : Challenging Unit :=
  Program.perform (ChallengeOp.updateResolutionChallenge challenge)

end Challenging

/-- A host with its configuration. -/
structure ChallengeHost where
  env : UsdcPoolFundingEnv
  clock : String
  toISOString : ℤ → Except Fault String

/-- A challenge is opened and its bond locked. -/
def openDotCastResolutionChallengeRoute (host : ChallengeHost) (request : OpenChallengeRequest) :
    Challenging Unit := do
  let challenge ← .done (request.challenge js host.toISOString host.clock)
  if challenge.bondMinorUnits > 0 then
    let _ ← Challenging.funding (reserveUsdcBond js host.env host.clock (challengeBond challenge))
    Challenging.insertResolutionChallenge challenge
  else Challenging.insertResolutionChallenge challenge

/-- A challenge is decided and its bond settled. -/
def decideDotCastResolutionChallengeRoute (host : ChallengeHost)
    (request : DecideChallengeRequest) : Challenging Unit := do
  let challengeId ← .done (Gateway.parseRequiredString request.challengeId "challengeId")
  match ← Challenging.getResolutionChallenge challengeId with
  | none => return ()
  | some existing =>
    let action ← .done request.action
    let decisionBy ← .done (Gateway.parseOptionalString request.decisionBy "decisionBy")
    let now ← .done (Gateway.parseOptionalString request.now "now")
    let challenge ← .done (decideDotCastResolutionChallenge js host.clock
      { challenge := existing, action := action, decisionBy := decisionBy, now := now })
    if challenge.bondMinorUnits > 0 then
      let _ ← Challenging.funding
        (settleUsdcBond js host.env host.clock (challengeBondSettlement challenge))
      Challenging.updateResolutionChallenge challenge
    else Challenging.updateResolutionChallenge challenge

/-- The function that a request starts. -/
def ChallengeRequest.program (host : ChallengeHost) : ChallengeRequest → Challenging Unit
  | .open request => openDotCastResolutionChallengeRoute js host request
  | .decide request => decideDotCastResolutionChallengeRoute js host request

end Yevow.DotCast
