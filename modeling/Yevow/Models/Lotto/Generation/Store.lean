import Yevow.Core.Collection.Rows
import Yevow.Core.Collection.Sorting
import Yevow.Models.Lotto.Scheduler

/-!
# The tables of a generation run

The configuration of one game, and the lease, the run, its tickets and its deliveries for one draw
date of that game. A batch of statements is one transaction: where a statement fails, none is
applied.
-/

namespace Yevow.Lotto

/-! ## Rows -/

/-- The configuration of a game. -/
structure GameAutomationConfigRow where
  selected : Bool
  ticketCount : ℤ
  generationWeekdays : String
  generationLocalTime : String
  drawSlot : DrawSlot
  playStyle : String
  jackpotCents : ℤ
  estimatedSales : ℤ
  popularityPpm : ℤ
  configVersion : ℤ
  deriving DecidableEq

/-- How far a run has come. -/
inductive RunStatus
  | running | failed | generated
  deriving DecidableEq, Repr

/-- The row of a run. -/
structure GenerationRow where
  runId : String
  drawSlot : DrawSlot
  scheduledFor : String
  seed : String
  status : RunStatus
  pipelineAttempts : ℕ
  nextRetryAt : Option String
  startedAt : String
  generatedAt : Option String
  observedThrough : Option String
  datasetDigest : Option String
  sourceStateJson : String
  ticketCount : ℕ
  distinctPairs : ℕ
  possiblePairs : ℕ
  coverageBasisPoints : ℕ
  evNetCents : Option ℤ
  evAssumption : Option String
  messageBody : Option String
  disclaimer : String
  error : Option String
  createdAt : String
  updatedAt : String
  deriving DecidableEq

/-- How many others may hold the ticket. -/
inductive SplitRiskLevel
  | low | moderate | high
  deriving DecidableEq, Repr

/-- A ticket as the picker returns it; its score passes the check of the table. -/
structure ScoredTicket where
  main : List ℤ
  bonus : List ℤ
  playStyle : String
  splitRiskBasisPoints : ℕ
  splitRiskLevel : SplitRiskLevel
  splitRiskNotes : List String
  score_le : splitRiskBasisPoints ≤ 10000
  deriving DecidableEq

/-- What a message announces. -/
inductive DeliveryKind
  | picks | alert
  deriving DecidableEq, Repr

/-- How far a message has come. -/
inductive DeliveryStatus
  | pending | leased | retry | sent | ambiguous | dead
  deriving DecidableEq, Repr

/-- Whom a message is sent to. -/
inductive TargetRole
  | primary | fallback
  deriving DecidableEq, Repr

/-- A message in the outbox. -/
structure DeliveryRow where
  runId : String
  deliveryKind : DeliveryKind
  targetRole : TargetRole
  messageBody : String
  status : DeliveryStatus
  nextAttemptAt : String
  createdAt : String
  updatedAt : String
  deriving DecidableEq

/-- The lease of a game. -/
structure GenerationLease where
  leaseToken : String
  leaseExpiresAt : String
  deriving DecidableEq

/-- Tickets are keyed by run and ordinal, deliveries by their id. -/
structure GenerationStore where
  config : Option GameAutomationConfigRow
  lease : Option GenerationLease
  run : Option GenerationRow
  tickets : Rows (String × ℕ) ScoredTicket
  outbox : Rows String DeliveryRow

/-! ## Batches -/

/-- What a worker writes when it has generated. -/
structure GenerationCommit where
  runId : String
  drawSlot : DrawSlot
  scheduledFor : String
  seed : String
  startedAt : String
  generatedAt : String
  observedThrough : String
  datasetDigest : String
  sourceStateJson : String
  tickets : List ScoredTicket
  distinctPairs : ℕ
  possiblePairs : ℕ
  coverageBasisPoints : ℕ
  evNetCents : ℤ
  evAssumption : String
  messageBody : String
  disclaimer : String
  lateAlert : Option String
  deriving DecidableEq

/-- What a worker writes when it has failed. -/
structure FailureRecord where
  runId : String
  drawSlot : DrawSlot
  scheduledFor : String
  seed : String
  attempts : ℕ
  nextRetryAt : Option String
  occurredAt : String
  disclaimer : String
  message : String
  alert : Option String
  deriving DecidableEq

namespace GenerationStore

variable (s : GenerationStore)

/-! ### The lease -/

/-- `INSERT … ON CONFLICT DO UPDATE … WHERE lease_expires_at <= ?`, and whether a row changed. -/
def acquireLease (leaseToken acquiredAt expiresAt : String) : Bool × GenerationStore :=
  let taken := (true, { s with lease := some ⟨leaseToken, expiresAt⟩ })
  match s.lease with
  | none => taken
  | some lease => if lease.leaseExpiresAt ≤ acquiredAt then taken else (false, s)

/-- A lease is released by its holder. -/
def releaseLease (leaseToken : String) : GenerationStore :=
  match s.lease with
  | none => s
  | some lease => if lease.leaseToken = leaseToken then { s with lease := none } else s

/-! ### Statements -/

/-- A row that refers to a run needs one of that id. -/
def requireRun (runId : String) : Except Fault Unit :=
  if s.run.map GenerationRow.runId = some runId then .ok ()
  else .error (.plain "D1_ERROR: FOREIGN KEY constraint failed")

/-- `INSERT … ON CONFLICT(game, draw_date) DO UPDATE … WHERE status <> 'generated'`. -/
def upsertGenerated (c : GenerationCommit) : GenerationStore :=
  let written (pipelineAttempts : ℕ) (startedAt createdAt : String) : GenerationRow :=
    { runId := c.runId
      drawSlot := c.drawSlot
      scheduledFor := c.scheduledFor
      seed := c.seed
      status := .generated
      pipelineAttempts
      nextRetryAt := none
      startedAt
      generatedAt := some c.generatedAt
      observedThrough := some c.observedThrough
      datasetDigest := some c.datasetDigest
      sourceStateJson := c.sourceStateJson
      ticketCount := c.tickets.length
      distinctPairs := c.distinctPairs
      possiblePairs := c.possiblePairs
      coverageBasisPoints := c.coverageBasisPoints
      evNetCents := some c.evNetCents
      evAssumption := some c.evAssumption
      messageBody := some c.messageBody
      disclaimer := c.disclaimer
      error := none
      createdAt
      updatedAt := c.generatedAt }
  match s.run with
  | none => { s with run := some (written 1 c.startedAt c.startedAt) }
  | some row =>
    if row.status = .generated then s
    else { s with run := some (written (row.pipelineAttempts + 1) row.startedAt row.createdAt) }

/-- `INSERT OR IGNORE` of a ticket. -/
def insertTicket (runId : String) (ordinal : ℕ) (ticket : ScoredTicket) :
    Except Fault GenerationStore := do
  if (s.tickets.get? (runId, ordinal)).isSome then return s
  s.requireRun runId
  return { s with tickets := s.tickets.set (runId, ordinal) ticket }

/-- The run has a delivery of the kind. -/
def HasDelivery (runId : String) (kind : DeliveryKind) : Prop :=
  ∃ entry ∈ s.outbox.entries, entry.2.runId = runId ∧ entry.2.deliveryKind = kind

instance (runId : String) (kind : DeliveryKind) : Decidable (s.HasDelivery runId kind) :=
  inferInstanceAs (Decidable (∃ entry ∈ s.outbox.entries, _))

/-- `INSERT OR IGNORE` of a delivery. -/
def insertDelivery (deliveryId : String) (row : DeliveryRow) : Except Fault GenerationStore := do
  if (s.outbox.get? deliveryId).isSome ∨ s.HasDelivery row.runId row.deliveryKind then return s
  s.requireRun row.runId
  return { s with outbox := s.outbox.set deliveryId row }

/-- `INSERT … ON CONFLICT(delivery_id) DO UPDATE … WHERE status IN ('pending', 'retry')`. -/
def upsertDelivery (deliveryId : String) (row : DeliveryRow) : Except Fault GenerationStore :=
  match s.outbox.get? deliveryId with
  | some stored =>
    if stored.status = .pending ∨ stored.status = .retry then
      .ok { s with
        outbox := s.outbox.set deliveryId { stored with
          messageBody := row.messageBody
          nextAttemptAt := row.nextAttemptAt
          updatedAt := row.updatedAt } }
    else .ok s
  | none =>
    if s.HasDelivery row.runId row.deliveryKind then
      .error (.plain "D1_ERROR: UNIQUE constraint failed")
    else do
      s.requireRun row.runId
      return { s with outbox := s.outbox.set deliveryId row }

/-- A message that is to be sent. -/
def pendingDelivery (runId : String) (kind : DeliveryKind) (role : TargetRole)
    (messageBody at_ : String) :
    DeliveryRow where
  runId
  deliveryKind := kind
  targetRole := role
  messageBody
  status := .pending
  nextAttemptAt := at_
  createdAt := at_
  updatedAt := at_

/-! ### The two batches -/

/-- Tickets under the ordinals that follow a number. -/
def insertTickets (runId : String) : ℕ → List ScoredTicket → GenerationStore →
    Except Fault GenerationStore
  | _, [], s => .ok s
  | index, ticket :: rest, s => do
    insertTickets runId (index + 1) rest (← s.insertTicket runId (index + 1) ticket)

/-- The id of the message with the picks. -/
def deliveryId (runId : String) : String := "delivery-" ++ runId

/-- The id of an alert. -/
def alertId (runId : String) : String := "alert-" ++ runId

/-- Tickets, run and message are stored together. -/
def commit (c : GenerationCommit) : Except Fault GenerationStore := do
  let s ← insertTickets c.runId 0 c.tickets (s.upsertGenerated c)
  let s ← s.insertDelivery (deliveryId c.runId)
    (pendingDelivery c.runId .picks .primary c.messageBody c.generatedAt)
  match c.lateAlert with
  | none => return s
  | some alert =>
    s.upsertDelivery (alertId c.runId)
      (pendingDelivery c.runId .alert .fallback alert c.generatedAt)

/-- `INSERT … ON CONFLICT(game, draw_date) DO UPDATE` with what a generated run keeps. -/
def upsertFailed (f : FailureRecord) : GenerationStore :=
  match s.run with
  | none =>
    { s with
      run := some {
        runId := f.runId
        drawSlot := f.drawSlot
        scheduledFor := f.scheduledFor
        seed := f.seed
        status := .failed
        pipelineAttempts := f.attempts
        nextRetryAt := f.nextRetryAt
        startedAt := f.occurredAt
        generatedAt := none
        observedThrough := none
        datasetDigest := none
        sourceStateJson := "[]"
        ticketCount := 0
        distinctPairs := 0
        possiblePairs := 0
        coverageBasisPoints := 0
        evNetCents := none
        evAssumption := none
        messageBody := none
        disclaimer := f.disclaimer
        error := some f.message
        createdAt := f.occurredAt
        updatedAt := f.occurredAt } }
  | some row =>
    if row.status = .generated then { s with run := some { row with updatedAt := f.occurredAt } }
    else
      { s with
        run := some { row with
          status := .failed
          pipelineAttempts := f.attempts
          nextRetryAt := f.nextRetryAt
          error := some f.message
          updatedAt := f.occurredAt } }

/-- A failed run and its alert are stored together. -/
def recordFailure (f : FailureRecord) : Except Fault GenerationStore :=
  match f.alert with
  | none => .ok (s.upsertFailed f)
  | some alert =>
    (s.upsertFailed f).insertDelivery (alertId f.runId)
      (pendingDelivery f.runId .alert .fallback alert f.occurredAt)

/-! ### Reads -/

/-- The run, once it is generated. -/
def generatedRow : Option GenerationRow :=
  s.run.filter fun row => row.status = .generated

/-- The tickets of a run with their ordinals, in order. -/
def ticketsOf (runId : String) : List (ℕ × ScoredTicket) :=
  Sorting.sortBy (fun a b => (a.1 : ℤ) - b.1)
    ((s.tickets.entries.filter fun entry => entry.1.1 = runId).map fun entry =>
      (entry.1.2, entry.2))

end GenerationStore

end Yevow.Lotto
