import Mathlib.Data.Nat.Digits.Defs
import Yevow.Core.JavaScript.Value
import Yevow.Models.DotCast.Funding.Store

/-!
# The settlement rail

Deposits credited from the chain and withdrawals sent to it. Each operation first looks for
the transfer it would make: one that is already there is reported, not made again.
-/

namespace Yevow.DotCast

open Except (throwIf)
open JavaScript (Runtime)

/-- The network that is used. -/
inductive RailMode
  | disabled
  | devnet
  | mainnet
  deriving DecidableEq, Repr

/-- The settings of the rail. -/
structure SettlementRailEnv where
  settlementRailMode : Option String
  solanaCluster : Option String
  solanaUsdcMint : Option String
  settlementSignerMode : Option String
  operatorWithdrawalsApproved : Option String
  withdrawalMaxMinorUnits : Option String
  depositConfirmationsRequired : Option String
  deriving DecidableEq

/-- The settings as they are read. -/
structure SettlementRailStatus where
  mode : RailMode
  network : Network
  cluster : Cluster
  mint : String
  decimals : ℕ
  signerMode : SignerMode
  depositConfirmationsRequired : ℤ
  withdrawalMaxMinorUnits : ℤ
  operatorWithdrawalsApproved : Bool
  ready : Bool
  operational : Bool
  guards : List String
  deriving DecidableEq

/-- A deposit. -/
structure CreditDevnetDepositInput where
  userId : String
  amount : ℤ
  txRef : String
  confirmations : ℤ
  now : Option String
  deriving DecidableEq

/-- A request for a withdrawal. -/
structure RequestDevnetWithdrawalInput where
  userId : String
  amount : ℤ
  destination : String
  idempotencyKey : String
  now : Option String
  deriving DecidableEq

/-- A withdrawal that was sent. -/
structure ConfirmMockWithdrawalInput where
  transferId : String
  txRef : Option String
  now : Option String
  deriving DecidableEq

/-- The answer of a rail operation. -/
structure TransferResult where
  status : TransferStatus
  idempotent : Bool
  transfer : SettlementTransfer
  balance : SettlementBalance
  rail : SettlementRailStatus
  deriving DecidableEq

/-! ## The rail's status -/

def devnetUsdcMint : String := "4zMMC9srt5Ri5X14GAgXhaHii3GnPAEERYPJgZJDncDU"

def mainnetUsdcMint : String := "EPjFWdd5AufqSSqeM2qN1xzybapC8G4wEGGkZwyTDt1v"

/-- The configured network. -/
def parseRailMode : Option String → RailMode
  | some "devnet" => .devnet
  | some "mainnet" => .mainnet
  | _ => .disabled

def parseCluster (value : Option String) (mode : RailMode) : Cluster :=
  match value with
  | some "devnet" => .devnet
  | some "mainnet-beta" => .mainnetBeta
  | _ => if mode = .mainnet then .mainnetBeta else .devnet

def parseSignerMode (value : Option String) (mode : RailMode) : SignerMode :=
  match value with
  | some "mock" => .mock
  | some "external" => .external
  | _ => if mode = .devnet then .mock else .unknown

/-- A text that is absent or empty counts as none. -/
def nullableText (value : Option String) : Option String := value.filter (· ≠ "")

variable (js : Runtime)

def parsePositiveEnvInt (value : Option String) (fallback : ℤ) : ℤ :=
  match nullableText value with
  | none => fallback
  | some text =>
    match JavaScript.safeInteger? js.arithmetic (js.toNumber text) with
    | some parsed => if parsed > 0 then parsed else fallback
    | none => fallback

/-- What keeps the rail from being ready. -/
def railGuards (mode : RailMode) (cluster : Cluster) (signerMode : SignerMode) (mint : String) :
    List String :=
  (if mode = .disabled then ["settlement rail disabled"] else []) ++
  (if mode = .devnet ∧ cluster ≠ .devnet then ["devnet mode requires solana devnet cluster"]
    else []) ++
  (if mode = .devnet ∧ signerMode ≠ .mock then
    ["devnet settlement rail requires mock signer mode"] else []) ++
  (if mode = .mainnet then
    ["mainnet withdrawals require operator approval and live signer integration"] else []) ++
  if mint = "" then ["solana usdc mint is not configured"] else []

/-- The settings are read. -/
def readSolanaUsdcSettlementRailStatus (env : SettlementRailEnv) : SettlementRailStatus :=
  let mode := parseRailMode env.settlementRailMode
  let cluster := parseCluster env.solanaCluster mode
  let signerMode := parseSignerMode env.settlementSignerMode mode
  let mint := (nullableText (env.solanaUsdcMint.map JavaScript.trim)).getD
    (if cluster = .devnet then devnetUsdcMint else mainnetUsdcMint)
  let ready := decide (mode = .devnet ∧ cluster = .devnet ∧ signerMode = .mock ∧ mint ≠ "")
  { mode := mode
    network := if cluster = .devnet then .solanaDevnet else .solanaMainnetBeta
    cluster := cluster
    mint := mint
    decimals := 6
    signerMode := signerMode
    depositConfirmationsRequired := parsePositiveEnvInt js env.depositConfirmationsRequired 1
    withdrawalMaxMinorUnits := parsePositiveEnvInt js env.withdrawalMaxMinorUnits 1000000
    operatorWithdrawalsApproved := env.operatorWithdrawalsApproved == some "true"
    ready := ready
    operational := ready
    guards := railGuards mode cluster signerMode mint }

/-- The rail must be the test network. -/
def assertDevnetMockRail (env : SettlementRailEnv) : Except Fault SettlementRailStatus := do
  let rail := readSolanaUsdcSettlementRailStatus js env
  throwIf (rail.mode = .disabled)
    ⟨"E5 settlement rail is disabled", some "SETTLEMENT_RAIL_DISABLED", some 503⟩
  throwIf (rail.mode ≠ .devnet ∨ rail.cluster ≠ .devnet)
    ⟨"E5 only permits Solana USDC devnet mock-settlement operations; mainnet withdrawals require operator approval",
      some "MAINNET_WITHDRAWALS_BLOCKED", some 403⟩
  throwIf (rail.signerMode ≠ .mock)
    ⟨"E5 devnet settlement rail requires the mock signer", some "MOCK_SIGNER_REQUIRED", some 503⟩
  throwIf (rail.ready = false)
    ⟨rail.guards.head?.getD "E5 settlement rail is not ready", some "SETTLEMENT_RAIL_NOT_READY",
      some 503⟩
  return rail

/-! ## Checks and helpers -/

/-- A text input, trimmed; the code names the module that asks for it. -/
def requireText (code value label : String) : Except Fault String :=
  if JavaScript.trim value ≠ "" then .ok (JavaScript.trim value)
  else .error ⟨label ++ " is required", some code, some 400⟩

theorem requireText_eq_ok {code value label text : String} :
    requireText code value label = .ok text ↔
      JavaScript.trim value ≠ "" ∧ JavaScript.trim value = text := by
  unfold requireText
  split_ifs with h <;> simp [h]

def assertPositiveAmount (code : String) (value : ℤ) (label : String) : Except Fault Unit :=
  throwIf (js.arithmetic.isSafeInteger value = false ∨ value ≤ 0)
    ⟨label ++ " must be a positive integer minor-unit amount", some code, some 400⟩

def assertNonNegativeAmount (code : String) (value : ℤ) (message : String) : Except Fault Unit :=
  throwIf (js.arithmetic.isSafeInteger value = false ∨ value < 0) ⟨message, some code, some 400⟩

/-- A user without money. -/
def emptySettlementBalance (userId now : String) : SettlementBalance := ⟨userId, 0, 0, 0, 0, 0, now⟩

/-- The stored balance, or an empty one. -/
def readSettlementBalance (userId now : String) : Funding SettlementBalance := do
  let stored ← Funding.getBalance userId
  return stored.getD (emptySettlementBalance userId now)

/-- A text that may be an address. -/
def isLikelySolanaAddress (value : String) : Bool :=
  let base58 := "123456789ABCDEFGHJKLMNPQRSTUVWXYZabcdefghijkmnopqrstuvwxyz".toList
  let chars := value.toList
  decide (32 ≤ chars.length ∧ chars.length ≤ 44) && chars.all fun c => base58.contains c

/-- The UTF-16 code units of a text. -/
def utf16Units (s : String) : List ℕ :=
  s.toList.flatMap fun c =>
    if c.toNat < 0x10000 then [c.toNat]
    else [0xD800 + (c.toNat - 0x10000) / 0x400, 0xDC00 + (c.toNat - 0x10000) % 0x400]

/-- A hash of a text. -/
def hashText (value : String) : String :=
  let hash := (utf16Units value).foldl (fun hash unit => ((hash ^^^ unit) * 0x01000193) % 2 ^ 32)
    0x811c9dc5
  let hex := Nat.toDigits 16 hash
  String.ofList (List.replicate (8 - hex.length) '0' ++ hex)

def mockSolanaSignature (seed : String) : String := "mock-solana-devnet-" ++ hashText seed

/-- What happened to a transfer. -/
inductive RailEventType
  | depositObserved
  | depositCredited
  | withdrawalRequested
  | withdrawalSigned
  | withdrawalConfirmed

def RailEventType.text : RailEventType → String
  | .depositObserved => "DEPOSIT_OBSERVED"
  | .depositCredited => "DEPOSIT_CREDITED"
  | .withdrawalRequested => "WITHDRAWAL_REQUESTED"
  | .withdrawalSigned => "WITHDRAWAL_SIGNED"
  | .withdrawalConfirmed => "WITHDRAWAL_CONFIRMED"

def RailEventType.lower : RailEventType → String
  | .depositObserved => "deposit_observed"
  | .depositCredited => "deposit_credited"
  | .withdrawalRequested => "withdrawal_requested"
  | .withdrawalSigned => "withdrawal_signed"
  | .withdrawalConfirmed => "withdrawal_confirmed"

/-- An event of a transfer. -/
def transferEvent (transfer : SettlementTransfer) (eventType : RailEventType) (createdAt : String) :
    FundingEvent :=
  ⟨.rail, transfer.transferId ++ ":" ++ eventType.lower, transfer.userId, eventType.text,
    transfer.amount, createdAt⟩

/-! ## Deposits -/

def depositId (txRef : String) : String := "dotcast:e5:deposit:" ++ txRef

/-- The balance when an observed deposit is credited. -/
def creditedBalance (balance : SettlementBalance) (amount : ℤ) (now : String) :
    SettlementBalance :=
  { balance with
    availableUsdc := js.arithmetic.integer (balance.availableUsdc + amount)
    pendingDepositUsdc := max 0 (js.arithmetic.integer (balance.pendingDepositUsdc - amount))
    updatedAt := now }

/-- The balance after a deposit first seen with a status. -/
def depositedBalance (balance : SettlementBalance) (status : TransferStatus) (amount : ℤ)
    (now : String) : SettlementBalance :=
  if status = .credited then
    { balance with
      availableUsdc := js.arithmetic.integer (balance.availableUsdc + amount)
      updatedAt := now }
  else
    { balance with
      pendingDepositUsdc := js.arithmetic.integer (balance.pendingDepositUsdc + amount)
      updatedAt := now }

/-- A deposit that is seen for the first time. -/
def newDeposit (rail : SettlementRailStatus) (userId txRef : String) (amount confirmations : ℤ)
    (now : String) : SettlementTransfer where
  transferId := depositId txRef
  userId := userId
  kind := .deposit
  status := if confirmations ≥ rail.depositConfirmationsRequired then .credited else .observed
  network := rail.network
  cluster := rail.cluster
  mint := rail.mint
  amount := amount
  txRef := some txRef
  destination := none
  signerMode := rail.signerMode
  mockSignature := none
  requestedAt := now
  updatedAt := now

/-- The branch for a reference that is already stored. -/
def creditExistingDeposit (rail : SettlementRailStatus) (existing : SettlementTransfer)
    (userId : String) (amount confirmations : ℤ) (now : String) : Funding TransferResult :=
  if existing.kind ≠ .deposit ∨ existing.userId ≠ userId ∨ existing.amount ≠ amount then
    Funding.fail ⟨"deposit txRef already belongs to a different transfer",
      some "DEPOSIT_TX_REF_CONFLICT", some 409⟩
  else if existing.status = .credited then do
    let balance ← readSettlementBalance userId now
    return ⟨.credited, true, existing, balance, rail⟩
  else if confirmations < rail.depositConfirmationsRequired then do
    let balance ← readSettlementBalance userId now
    return ⟨.observed, true, existing, balance, rail⟩
  else do
    let credited := { existing with status := .credited, updatedAt := now }
    let balance ← readSettlementBalance userId now
    let nextBalance := creditedBalance js balance amount now
    Funding.updateTransfer credited
    Funding.saveBalance nextBalance
    Funding.appendEvent (transferEvent credited .depositCredited now)
    return ⟨.credited, false, credited, nextBalance, rail⟩

/-- The branch for a reference that is new. -/
def recordDeposit (rail : SettlementRailStatus) (userId txRef : String)
    (amount confirmations : ℤ) (now : String) : Funding TransferResult := do
  let transfer := newDeposit rail userId txRef amount confirmations now
  let balance ← readSettlementBalance userId now
  let nextBalance := depositedBalance js balance transfer.status amount now
  Funding.insertTransfer transfer
  Funding.saveBalance nextBalance
  Funding.appendEvent (transferEvent transfer .depositObserved now)
  if transfer.status = .credited then
    Funding.appendEvent (transferEvent transfer .depositCredited now)
  return ⟨if transfer.status = .credited then .credited else .observed, false, transfer,
    nextBalance, rail⟩

/-- A deposit whose fields were checked. -/
structure CheckedDeposit where
  rail : SettlementRailStatus
  userId : String
  txRef : String

/-- The checks before a deposit. -/
def checkDeposit (env : SettlementRailEnv) (input : CreditDevnetDepositInput) :
    Except Fault CheckedDeposit := do
  let rail ← assertDevnetMockRail js env
  let userId ← requireText "INVALID_SETTLEMENT_INPUT" input.userId "userId"
  let txRef ← requireText "INVALID_SETTLEMENT_INPUT" input.txRef "txRef"
  assertPositiveAmount js "INVALID_SETTLEMENT_AMOUNT" input.amount "amount"
  assertNonNegativeAmount js "INVALID_SETTLEMENT_INTEGER" input.confirmations
    "confirmations must be a non-negative integer"
  return ⟨rail, userId, txRef⟩

/-- A deposit is credited once. -/
def creditDevnetDeposit (env : SettlementRailEnv) (clock : String)
    (input : CreditDevnetDepositInput) : Funding TransferResult := do
  let now := input.now.getD clock
  let checked ← Funding.check (checkDeposit js env input)
  match ← Funding.getTransferByTxRef checked.txRef with
  | some existing =>
    creditExistingDeposit js checked.rail existing checked.userId input.amount
      input.confirmations now
  | none =>
    recordDeposit js checked.rail checked.userId checked.txRef input.amount input.confirmations now

/-! ## Withdrawals -/

def withdrawalId (userId idempotencyKey : String) : String :=
  "dotcast:e5:withdrawal:" ++ userId ++ ":" ++ idempotencyKey

/-- A balance after a withdrawal. -/
def withdrawnBalance (balance : SettlementBalance) (amount : ℤ) (now : String) :
    SettlementBalance :=
  { balance with
    availableUsdc := js.arithmetic.integer (balance.availableUsdc - amount)
    pendingWithdrawalUsdc := js.arithmetic.integer (balance.pendingWithdrawalUsdc + amount)
    updatedAt := now }

/-- A withdrawal as it is stored. -/
def newWithdrawal (rail : SettlementRailStatus) (transferId userId destination : String)
    (amount : ℤ) (now : String) : SettlementTransfer where
  transferId := transferId
  userId := userId
  kind := .withdrawal
  status := .signed
  network := rail.network
  cluster := rail.cluster
  mint := rail.mint
  amount := amount
  txRef := none
  destination := some destination
  signerMode := .mock
  mockSignature :=
    some (mockSolanaSignature (transferId ++ ":" ++ destination ++ ":" ++ toString amount))
  requestedAt := now
  updatedAt := now

/-- A withdrawal whose fields were checked. -/
structure CheckedWithdrawal where
  rail : SettlementRailStatus
  userId : String
  destination : String
  idempotencyKey : String

/-- The checks before a withdrawal. -/
def checkWithdrawal (env : SettlementRailEnv) (input : RequestDevnetWithdrawalInput) :
    Except Fault CheckedWithdrawal := do
  let rail ← assertDevnetMockRail js env
  let userId ← requireText "INVALID_SETTLEMENT_INPUT" input.userId "userId"
  let destination ← requireText "INVALID_SETTLEMENT_INPUT" input.destination "destination"
  let idempotencyKey ← requireText "INVALID_SETTLEMENT_INPUT" input.idempotencyKey "idempotencyKey"
  assertPositiveAmount js "INVALID_SETTLEMENT_AMOUNT" input.amount "amount"
  throwIf (isLikelySolanaAddress destination = false)
    ⟨"destination must look like a Solana address", some "INVALID_SOLANA_DESTINATION", some 400⟩
  throwIf (input.amount > rail.withdrawalMaxMinorUnits)
    ⟨"withdrawal amount exceeds the configured devnet limit",
      some "WITHDRAWAL_AMOUNT_EXCEEDS_DEVNET_LIMIT", some 400⟩
  return ⟨rail, userId, destination, idempotencyKey⟩

/-- The branch for a withdrawal that is not stored yet. -/
def signWithdrawal (checked : CheckedWithdrawal) (amount : ℤ) (now : String) :
    Funding TransferResult := do
  let transferId := withdrawalId checked.userId checked.idempotencyKey
  let balance ← readSettlementBalance checked.userId now
  if balance.availableUsdc < amount then
    Funding.fail ⟨"available USDC balance is insufficient for this devnet withdrawal",
      some "INSUFFICIENT_USDC_BALANCE", some 409⟩
  else
    let transfer := newWithdrawal checked.rail transferId checked.userId checked.destination amount
      now
    let nextBalance := withdrawnBalance js balance amount now
    Funding.insertTransfer transfer
    Funding.saveBalance nextBalance
    Funding.appendEvent (transferEvent transfer .withdrawalRequested now)
    Funding.appendEvent (transferEvent transfer .withdrawalSigned now)
    return ⟨.signed, false, transfer, nextBalance, checked.rail⟩

/-- A withdrawal is debited once. -/
def requestDevnetWithdrawal (env : SettlementRailEnv) (clock : String)
    (input : RequestDevnetWithdrawalInput) : Funding TransferResult := do
  let now := input.now.getD clock
  let checked ← Funding.check (checkWithdrawal js env input)
  match ← Funding.getTransfer (withdrawalId checked.userId checked.idempotencyKey) with
  | some existing => do
    let balance ← readSettlementBalance checked.userId now
    return ⟨.signed, true, existing, balance, checked.rail⟩
  | none => signWithdrawal js checked input.amount now

/-! ## Confirmations -/

/-- A balance after a confirmation. -/
def confirmedBalance (balance : SettlementBalance) (amount : ℤ) (now : String) :
    SettlementBalance :=
  { balance with
    pendingWithdrawalUsdc := max 0 (js.arithmetic.integer (balance.pendingWithdrawalUsdc - amount))
    updatedAt := now }

/-- A transfer after its confirmation. -/
def confirmedTransfer (transfer : SettlementTransfer) (txRef : Option String) (now : String) :
    SettlementTransfer :=
  { transfer with
    status := .confirmed
    txRef := some ((nullableText (txRef.map JavaScript.trim)).getD
      ("mock-confirm:" ++ transfer.mockSignature.getD transfer.transferId))
    updatedAt := now }

/-- The branch for a withdrawal that is found. -/
def confirmWithdrawal (rail : SettlementRailStatus) (transfer : SettlementTransfer)
    (txRef : Option String) (now : String) : Funding TransferResult :=
  if transfer.status = .confirmed then do
    let balance ← readSettlementBalance transfer.userId now
    return ⟨.confirmed, true, transfer, balance, rail⟩
  else if transfer.status ≠ .signed ∧ transfer.status ≠ .requested then
    Funding.fail ⟨"withdrawal is not in a confirmable state", some "WITHDRAWAL_NOT_CONFIRMABLE",
      some 409⟩
  else do
    let confirmed := confirmedTransfer transfer txRef now
    let balance ← readSettlementBalance transfer.userId now
    let nextBalance := confirmedBalance js balance transfer.amount now
    Funding.updateTransfer confirmed
    Funding.saveBalance nextBalance
    Funding.appendEvent (transferEvent confirmed .withdrawalConfirmed now)
    return ⟨.confirmed, false, confirmed, nextBalance, rail⟩

/-- A withdrawal is confirmed once. -/
def confirmMockWithdrawal (env : SettlementRailEnv) (clock : String)
    (input : ConfirmMockWithdrawalInput) : Funding TransferResult := do
  let now := input.now.getD clock
  let rail ← Funding.check (assertDevnetMockRail js env)
  let transferId ← Funding.check
    (requireText "INVALID_SETTLEMENT_INPUT" input.transferId "transferId")
  let found ← Funding.getTransfer transferId
  match found.filter fun t => t.kind = .withdrawal with
  | none => Funding.fail ⟨"withdrawal was not found", some "WITHDRAWAL_NOT_FOUND", some 404⟩
  | some transfer => confirmWithdrawal js rail transfer input.txRef now

end Yevow.DotCast
