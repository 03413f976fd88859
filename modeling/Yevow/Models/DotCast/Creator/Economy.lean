import Yevow.Models.DotCast.Creator.Store
import Yevow.Models.DotCast.Pool.Lifecycle

/-!
# The creator economy

A creator has what they earned of the rake of their pools paid out over the settlement rail. A
payout tops the creator's balance on the rail up to their earnings, withdraws from it and
debits the earnings.
-/

namespace Yevow.DotCast

open Except (throwIf)
open JavaScript (Runtime)

structure DotCastCreatorEconomyEnv extends SettlementRailEnv where
  creatorEconomyEnabled : Option String
  rakeShareCasualBps : Option String
  rakeShareVerifiedBps : Option String
  rakeSharePartnerBps : Option String
  payoutMinMinorUnits : Option String
  payoutMaxMinorUnits : Option String
  payoutSchedule : Option String
  minRetentionBps : Option String
  seedHandlingFeeBps : Option String
  deriving DecidableEq

/-- When earnings are paid out. -/
inductive CreatorPayoutSchedule
  | manual
  | weekly
  | onDemand
  deriving DecidableEq, Repr

/-- The share of each tier. -/
structure TierShares where
  casual : ℤ
  verified : ℤ
  partner : ℤ
  deriving DecidableEq

/-- The configuration as it is read. -/
structure DotCastCreatorEconomyStatus where
  enabled : Bool
  ready : Bool
  tierSharesBps : TierShares
  payoutMinMinorUnits : ℤ
  payoutMaxMinorUnits : ℤ
  payoutSchedule : CreatorPayoutSchedule
  minRetentionBps : ℤ
  seedHandlingFeeBps : ℤ
  guards : List String
  deriving DecidableEq

/-- A fault of the creator economy. -/
def creatorFault (code message : String) (status : ℕ) : Fault := ⟨message, some code, some status⟩

variable (js : Runtime)

/-! ## Configuration -/

namespace Creator

def parseBpsNumber (value : Number) (label : String) : Except Fault ℤ :=
  match JavaScript.safeInteger? js.arithmetic value with
  | some n =>
    if 0 ≤ n ∧ n ≤ 10000 then .ok n
    else .error (creatorFault "INVALID_CREATOR_BPS"
      (label ++ " must be an integer from 0 to 10000") 400)
  | none => .error (creatorFault "INVALID_CREATOR_BPS"
      (label ++ " must be an integer from 0 to 10000") 400)

def parseBps (value : Option String) (fallback : ℤ) (label : String) : Except Fault ℤ :=
  match value with
  | none => .ok fallback
  | some text =>
    if JavaScript.trim text = "" then .ok fallback
    else parseBpsNumber js (js.toNumber text) label

def parsePositiveInt (value : Option String) (fallback : ℤ) (label : String) : Except Fault ℤ :=
  configPositive js "INVALID_CREATOR_CONFIG" value fallback label

def parseNonNegativeInt (value : Option String) (fallback : ℤ) (label : String) :
    Except Fault ℤ :=
  configNonNegative js "INVALID_CREATOR_CONFIG" value fallback label

def parsePayoutSchedule : Option String → CreatorPayoutSchedule
  | some "weekly" => .weekly
  | some "on_demand" => .onDemand
  | _ => .manual

def parseMinorUnits (value : Number) (label : String) : Except Fault ℤ :=
  match JavaScript.safeInteger? js.arithmetic value with
  | some n =>
    if 0 < n then .ok n
    else .error (creatorFault "INVALID_CREATOR_AMOUNT"
      (label ++ " must be a positive integer minor-unit amount") 400)
  | none => .error (creatorFault "INVALID_CREATOR_AMOUNT"
      (label ++ " must be a positive integer minor-unit amount") 400)

end Creator

/-- What keeps payouts from being ready. -/
def creatorGuards (enabled hasDatabase railReady : Bool) (payoutMin payoutMax : ℤ) :
    List String :=
  (if enabled = false then ["creator economy disabled"] else []) ++
  (if hasDatabase = false then ["creator economy database not configured"] else []) ++
  (if railReady = false then ["creator payouts require the E5 devnet mock settlement rail"]
    else []) ++
  if payoutMin > payoutMax then ["creator payout minimum exceeds creator payout maximum"] else []

/-- The configuration is read. -/
def readDotCastCreatorEconomyStatus (env : DotCastCreatorEconomyEnv) (hasDatabase : Bool) :
    Except Fault DotCastCreatorEconomyStatus := do
  let enabled := env.creatorEconomyEnabled != some "false"
  let casual ← Creator.parseBps js env.rakeShareCasualBps 1000
    "DOTCAST_CREATOR_RAKE_SHARE_CASUAL_BPS"
  let verified ← Creator.parseBps js env.rakeShareVerifiedBps 2500
    "DOTCAST_CREATOR_RAKE_SHARE_VERIFIED_BPS"
  let partner ← Creator.parseBps js env.rakeSharePartnerBps 4000
    "DOTCAST_CREATOR_RAKE_SHARE_PARTNER_BPS"
  let payoutMin ← Creator.parseNonNegativeInt js env.payoutMinMinorUnits 500000
    "DOTCAST_CREATOR_PAYOUT_MIN_MINOR_UNITS"
  let payoutMax ← Creator.parsePositiveInt js env.payoutMaxMinorUnits 1000000
    "DOTCAST_CREATOR_PAYOUT_MAX_MINOR_UNITS"
  let minRetentionBps ← Creator.parseBps js env.minRetentionBps 2500
    "DOTCAST_CREATOR_MIN_RETENTION_BPS"
  let seedHandlingFeeBps ← Creator.parseBps js env.seedHandlingFeeBps 0
    "DOTCAST_CREATOR_SEED_HANDLING_FEE_BPS"
  let rail := readSolanaUsdcSettlementRailStatus js env.toSettlementRailEnv
  let guards := creatorGuards enabled hasDatabase rail.ready payoutMin payoutMax
  return {
    enabled := enabled
    ready := enabled && hasDatabase && rail.ready && guards.isEmpty
    tierSharesBps := ⟨casual, verified, partner⟩
    payoutMinMinorUnits := payoutMin
    payoutMaxMinorUnits := payoutMax
    payoutSchedule := Creator.parsePayoutSchedule env.payoutSchedule
    minRetentionBps := minRetentionBps
    seedHandlingFeeBps := seedHandlingFeeBps
    guards := guards }

/-- Payouts must be ready. -/
def assertCreatorEconomyReady (env : DotCastCreatorEconomyEnv) (hasDatabase : Bool) :
    Except Fault DotCastCreatorEconomyStatus := do
  let status ← readDotCastCreatorEconomyStatus js env hasDatabase
  throwIf (status.ready = false) (creatorFault "CREATOR_ECONOMY_NOT_READY"
    (if status.guards.isEmpty then "E11 creator economy is not ready"
      else "; ".intercalate status.guards) 503)
  return status

/-! ## Helpers -/

def creatorRailUserId (creatorId : String) : Except Fault String :=
  (Creator.requireText creatorId "creatorId").map ("creator:" ++ ·)

/-- An event of a creator. -/
def creatorEvent (eventType : String) (creator : DotCastCreatorProfile) (poolId : Option String)
    (unit : Option StakeUnit) (amount : Option ℤ) (createdAt : String) : DotCastCreatorEvent where
  eventId := "dotcast:e11:event:" ++ creator.creatorId ++ ":" ++ eventType ++ ":" ++
    poolId.getD "none" ++ ":" ++ dateText js createdAt ++ ":" ++ toString (amount.getD 0)
  creatorId := creator.creatorId
  poolId := poolId
  eventType := eventType
  unit := unit
  amount := amount
  createdAt := createdAt

/-- A creator who is active. -/
def requireActiveCreator (creatorId : String) : Crediting DotCastCreatorProfile := do
  let id ← .done (Creator.requireText creatorId "creatorId")
  let found ← Crediting.getCreator id
  match found.filter fun c => c.status = .active with
  | some creator => return creator
  | none => Crediting.fail (creatorFault "CREATOR_NOT_ACTIVE"
      "creator is not active or has not been onboarded" 409)

/-- The earnings of a creator. -/
def requireCreatorBalance (creatorId : String) (unit : StakeUnit) :
    Crediting DotCastCreatorEarningsBalance := do
  match ← Crediting.getBalance creatorId unit with
  | some balance => return balance
  | none => Crediting.fail (creatorFault "CREATOR_EARNINGS_BALANCE_NOT_FOUND"
      "creator earnings balance was not found" 404)

/-! ## Payouts -/

/-- A request for a payout. -/
structure RequestCreatorPayoutInput where
  creatorId : String
  amount : Number
  destination : Option String
  idempotencyKey : String
  operatorApproved : Option Bool
  now : Option String
  deriving DecidableEq

/-- A payout and what is left. -/
structure CreatorPayoutResult where
  idempotent : Bool
  payout : DotCastCreatorPayout
  balance : DotCastCreatorEarningsBalance
  status : DotCastCreatorEconomyStatus
  deriving DecidableEq

/-- What a payout requires of the creator and of the amount. -/
def checkPayout (status : DotCastCreatorEconomyStatus) (creator : DotCastCreatorProfile)
    (input : RequestCreatorPayoutInput) : Except Fault ℤ := do
  throwIf (creator.kycStatus ≠ .verified) (creatorFault "CREATOR_PAYOUT_REQUIRES_KYC"
    "creator payout requires a KYC-verified creator identity" 403)
  throwIf (status.payoutSchedule = .manual ∧ input.operatorApproved ≠ some true)
    (creatorFault "CREATOR_PAYOUT_REQUIRES_OPERATOR_APPROVAL"
      "manual creator payout schedule requires operator approval" 403)
  let amount ← Creator.parseMinorUnits js input.amount "amount"
  throwIf (amount < status.payoutMinMinorUnits) (creatorFault "CREATOR_PAYOUT_BELOW_MINIMUM"
    "creator payout amount is below the configured minimum" 400)
  throwIf (amount > status.payoutMaxMinorUnits) (creatorFault "CREATOR_PAYOUT_EXCEEDS_MAXIMUM"
    "creator payout amount exceeds the configured maximum" 400)
  return amount

/-- Where a payout goes. -/
def payoutDestination (input : RequestCreatorPayoutInput) (creator : DotCastCreatorProfile) :
    Except Fault String :=
  match input.destination <|> creator.payoutDestination with
  | some destination => .ok destination
  | none => .error (creatorFault "INVALID_CREATOR_INPUT" "creator payout destination missing" 400)

/-- Raise the balance on the rail to the earnings. -/
def topUpRail (railUserId : String) (available : ℤ) (now : String) : Funding Unit := do
  let railBalance ← readSettlementBalance railUserId now
  if railBalance.availableUsdc < available then
    Funding.saveBalance { railBalance with availableUsdc := available, updatedAt := now }
  else return ()

/-- The payout of a transfer. -/
def newPayout (creatorId idempotencyKey destination : String) (amount : ℤ)
    (transfer : SettlementTransfer) (now : String) : DotCastCreatorPayout where
  payoutId := "dotcast:e11:payout:" ++ creatorId ++ ":" ++ idempotencyKey
  creatorId := creatorId
  unit := .usdc
  amount := amount
  status := .signed
  destination := destination
  idempotencyKey := idempotencyKey
  railTransferId := some transfer.transferId
  railTxRef := transfer.txRef
  mockSignature := transfer.mockSignature
  requestedAt := now
  updatedAt := now

/-- Earnings after a payout. -/
def debitedEarnings (balance : DotCastCreatorEarningsBalance) (amount : ℤ) (now : String) :
    DotCastCreatorEarningsBalance :=
  { balance with
    available := js.arithmetic.integer (balance.available - amount)
    pendingPayout := js.arithmetic.integer (balance.pendingPayout + amount)
    updatedAt := now }

/-- The payout of a creator whose earnings cover the amount. -/
def drawPayout (env : DotCastCreatorEconomyEnv) (status : DotCastCreatorEconomyStatus)
    (creator : DotCastCreatorProfile) (balance : DotCastCreatorEarningsBalance) (amount : ℤ)
    (input : RequestCreatorPayoutInput) (idempotencyKey clock now : String) :
    Crediting CreatorPayoutResult := do
  let destination ← .done (payoutDestination input creator)
  let railUserId ← .done (creatorRailUserId creator.creatorId)
  Crediting.rail (topUpRail railUserId balance.available now)
  let railResult ← Crediting.rail (requestDevnetWithdrawal js env.toSettlementRailEnv clock
    { userId := railUserId
      amount := amount
      destination := destination
      idempotencyKey := "creator:" ++ idempotencyKey
      now := some now })
  let payout :=
    newPayout creator.creatorId idempotencyKey destination amount railResult.transfer now
  let nextBalance := debitedEarnings js balance amount now
  Crediting.insertPayout payout nextBalance
    (creatorEvent js "CREATOR_PAYOUT_REQUESTED" creator none (some .usdc) (some amount) clock)
  return ⟨false, payout, nextBalance, status⟩

/-- The branch for a key without a payout. -/
def makePayout (env : DotCastCreatorEconomyEnv) (status : DotCastCreatorEconomyStatus)
    (input : RequestCreatorPayoutInput) (idempotencyKey clock now : String) :
    Crediting CreatorPayoutResult := do
  let creator ← requireActiveCreator input.creatorId
  let amount ← .done (checkPayout js status creator input)
  let balance ← requireCreatorBalance creator.creatorId .usdc
  if balance.available < amount then
    Crediting.fail (creatorFault "CREATOR_EARNINGS_BALANCE_INSUFFICIENT"
      "creator available USDC earnings are insufficient for payout" 409)
  else drawPayout js env status creator balance amount input idempotencyKey clock now

/-- The branch for a key with a payout. -/
def replayPayout (status : DotCastCreatorEconomyStatus) (existing : DotCastCreatorPayout) :
    Crediting CreatorPayoutResult := do
  let balance ← requireCreatorBalance existing.creatorId .usdc
  return ⟨true, existing, balance, status⟩

/-- A payout is sent and stored. -/
def requestDotCastCreatorPayout (env : DotCastCreatorEconomyEnv) (clock : String)
    (input : RequestCreatorPayoutInput) (hasDatabase : Bool) : Crediting CreatorPayoutResult := do
  let status ← .done (assertCreatorEconomyReady js env hasDatabase)
  let now := input.now.getD clock
  let idempotencyKey ← .done (Creator.requireText input.idempotencyKey "idempotencyKey")
  match ← Crediting.getPayoutByIdempotencyKey idempotencyKey with
  | some existing => replayPayout status existing
  | none => makePayout js env status input idempotencyKey clock now

end Yevow.DotCast
