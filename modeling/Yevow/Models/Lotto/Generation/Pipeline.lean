import Yevow.Core.Effect.Asynchrony
import Yevow.Core.JavaScript.Json
import Yevow.Core.Text.CodeUnits
import Yevow.Models.Lotto.Generation.Store

/-!
# Generating the picks of a game

The worker that generates the picks of a game for a draw date, call by call. What it calls of other
tables only succeeds or throws here; what it learns there, and what its clock shows, is given with
it. The picker, the valuation and the rendering of the message are parameters.
-/

namespace Yevow.Lotto

open JavaScript (Json)

/-! ## Surroundings -/

/-- Chosen tickets and their coverage of pairs. -/
structure PickResult where
  tickets : List ScoredTicket
  distinctPairs : ℕ
  possiblePairs : ℕ
  coverageBasisPoints : ℕ

/-- What the sources were verified to hold. -/
structure Verification where
  observedThrough : String
  datasetDigest : String
  sourceStateJson : String

/-- What the workers share: the host, the salt and the code that picks, values and renders. -/
structure GenerationHost where
  texasClock : ℤ → TexasClock
  sha256 : String → String
  /-- The digest under a key. -/
  hmacSha256 : String → String → String
  jsonParse : String → Except Fault Json
  seedSalt : String
  generateTickets : (count : ℤ) → (seed playStyle : String) → Except Fault PickResult
  calculateEv : GameAutomationConfigRow → Except Fault ℤ
  evDescription : GameAutomationConfigRow → String × String
  formatMessage : (drawDate : String) → PickResult → (netEvCents : ℤ) →
    (observedThrough evBasis : String) → String

/-- What one worker observes outside the tables of the model. -/
structure Surroundings where
  now : ℤ
  leaseToken : String
  leaseAt : ℤ
  startAt : ℤ
  completedAt : ℤ
  commitAt : ℤ
  failedAt : ℤ
  /-- The official result of the draw is stored. -/
  officialResult : Bool
  verification : Except Fault Verification

/-! ## Calls -/

/-- Calls that touch other tables. -/
inductive OutsideCall
  | refreshSource (index : ℕ)
  | readOfficialResult
  | readSources
  | readIntegrity
  | captureShadowTrials
  | readSelectedConfigs
  | refreshDailySummary (statement : ℕ)
  deriving DecidableEq

/-- What a generation asks of its store and its sources. -/
inductive GenerationOp
  | configure (row : GameAutomationConfigRow)
  | readConfig
  | readGenerated
  | readTickets (runId : String)
  | acquireLease (leaseToken acquiredAt expiresAt : String)
  | releaseLease (leaseToken : String)
  | readAttempts
  | writeFailure (record : FailureRecord)
  | commit (batch : GenerationCommit)
  | outside (call : OutsideCall)

/-- What a call returns. -/
abbrev GenerationOp.Ret : GenerationOp → Type
  | readConfig => Option GameAutomationConfigRow
  | readGenerated => Option GenerationRow
  | readTickets _ => List (ℕ × ScoredTicket)
  | acquireLease _ _ _ => Bool
  | readAttempts => Option ℕ
  | configure _ | releaseLease _ | writeFailure _ | commit _ | outside _ => Unit

/-- A batch that fails leaves the tables alone. -/
def transact (s : GenerationStore) (batch : Except Fault GenerationStore) :
    Except Fault Unit × GenerationStore :=
  match batch with
  | .ok s' => (.ok (), s')
  | .error e => (.error e, s)

/-- How the database serves a call. -/
def generationHandler : Handler GenerationOp GenerationOp.Ret Fault GenerationStore
  | .configure row, s => (.ok (), { s with config := some row })
  | .readConfig, s => (.ok s.config, s)
  | .readGenerated, s => (.ok s.generatedRow, s)
  | .readTickets runId, s => (.ok (s.ticketsOf runId), s)
  | .acquireLease leaseToken acquiredAt expiresAt, s =>
    (.ok (s.acquireLease leaseToken acquiredAt expiresAt).1,
      (s.acquireLease leaseToken acquiredAt expiresAt).2)
  | .releaseLease leaseToken, s => (.ok (), s.releaseLease leaseToken)
  | .readAttempts, s => (.ok (s.run.map GenerationRow.pipelineAttempts), s)
  | .writeFailure record, s => transact s (s.recordFailure record)
  | .commit batch, s => transact s (s.commit batch)
  | .outside _, s => (.ok (), s)

/-- A function of the generation. -/
abbrev Generating : Type → Type := Program GenerationOp GenerationOp.Ret Fault

namespace Generating

/-- A call. -/
abbrev perform (op : GenerationOp) : Generating op.Ret := Program.perform op

/-- A computation that makes no call. -/
abbrev compute {α : Type} (result : Except Fault α) : Generating α := .done result

/-- A fault. -/
abbrev throw {α : Type} (fault : Fault) : Generating α := .done (.error fault)

/-- `try … finally`: what the clean-up throws replaces what came before. -/
def finallyDo {α : Type} (p : Generating α) (cleanUp : Generating Unit) : Generating α := do
  let result ← p.attempt
  cleanUp
  compute result

end Generating

open Generating

/-! ## The configuration -/

private def weekdayText : Weekday → String
  | .sun => "Sun"
  | .mon => "Mon"
  | .tue => "Tue"
  | .wed => "Wed"
  | .thu => "Thu"
  | .fri => "Fri"
  | .sat => "Sat"

private def weekdayOf? : Json → Option Weekday
  | .string text =>
    [Weekday.sun, .mon, .tue, .wed, .thu, .fri, .sat].find? fun weekday =>
      weekdayText weekday = text
  | _ => none

/-- The weekdays that a configuration names. -/
def parseWeekdays (host : GenerationHost) (raw : String) : Except Fault (List Weekday) := do
  match ← host.jsonParse raw with
  | .array items =>
    match items.mapM weekdayOf? with
    | some (first :: rest) => return (first :: rest).eraseDups
    | _ => throw (.range "generation weekdays must be a non-empty JSON weekday array")
  | _ => throw (.range "generation weekdays must be a non-empty JSON weekday array")

private def isSafeInteger (v : ℤ) : Bool := |v| ≤ 9007199254740991

private def rolloverGames : List GameCode := [.lotto, .twostep, .pb, .mm]

private def requireEvInput (game : GameCode) (field : String) (value : ℤ) : Except Fault Unit :=
  .throwIf (¬isSafeInteger value ∨ value < 0) (.plain s!"Invalid {field} EV input for {game.code}")

/-- A configuration is checked field by field. -/
def validateAutomationConfigRow (host : GenerationHost) (game : GameCode)
    (row : GameAutomationConfigRow) : Except Fault GameAutomationConfigRow := do
  Except.throwIf (¬isSafeInteger row.ticketCount ∨ row.ticketCount < 1 ∨ row.ticketCount > 50)
    (.plain s!"Invalid ticket count for {game.code}")
  requireEvInput game "jackpot_cents" row.jackpotCents
  requireEvInput game "estimated_sales" row.estimatedSales
  requireEvInput game "popularity_ppm" row.popularityPpm
  Except.throwIf (¬isSafeInteger row.configVersion ∨ row.configVersion < 1)
    (.plain s!"Invalid config version for {game.code}")
  Except.throwIf (game ∉ rolloverGames ∧ row.jackpotCents ≠ 0)
    (.plain s!"Jackpot EV input does not apply to {game.code}")
  Except.throwIf ((game = .p3 ∨ game = .d4) ∧
      (row.estimatedSales ≠ 0 ∨ row.popularityPpm ≠ 1000000))
    (.plain s!"Sales and popularity EV inputs do not apply to {game.code}")
  let weekdays ← parseWeekdays host row.generationWeekdays
  Except.throwIf (weekdays.length ≠ (drawWeekdays game).length ∨
      ∃ weekday ∈ weekdays, weekday ∉ drawWeekdays game)
    (.plain s!"Generation weekdays for {game.code} do not match its canonical schedule")
  let beforeDeadline ← isGenerationTimeBeforeDeadline row.generationLocalTime
  Except.throwIf (¬beforeDeadline)
    (.plain s!"Generation time for {game.code} must be before 09:00 America/Chicago")
  Except.throwIf (row.drawSlot ≠ drawSlot game)
    (.plain s!"Draw slot for {game.code} does not match its canonical schedule")
  Except.throwIf (row.playStyle ≠ "straight")
    (.plain (s!"Autonomous play style for {game.code} must be straight so one persisted " ++
      "per-ticket EV remains valid for every generated digit pattern"))
  return row

/-- The configuration of a game. -/
def automationConfig (host : GenerationHost) (game : GameCode) :
    Generating GameAutomationConfigRow := do
  match ← perform .readConfig with
  | none => throw (.plain s!"Autonomous configuration is missing for {game.code}")
  | some row => compute (validateAutomationConfigRow host game row)

/-! ## Reading a run back -/

/-- A finished run as it is shown. -/
structure PublicGenerationRun where
  runId : String
  drawSlot : DrawSlot
  scheduledFor : String
  generatedAt : String
  seed : String
  observedThrough : String
  datasetDigest : String
  distinctPairs : ℕ
  possiblePairs : ℕ
  coverageBasisPoints : ℕ
  evNetCents : ℤ
  evAssumption : String
  tickets : List (ℕ × ScoredTicket)
  disclaimer : String
  deriving DecidableEq

/-- A stored run with all its figures. -/
def publicRun (row : GenerationRow) (tickets : List (ℕ × ScoredTicket)) :
    Except Fault PublicGenerationRun :=
  match row.generatedAt, row.observedThrough, row.datasetDigest, row.evNetCents,
    row.evAssumption with
  | some generatedAt, some observedThrough, some datasetDigest, some evNetCents,
    some evAssumption =>
    .ok {
      runId := row.runId
      drawSlot := row.drawSlot
      scheduledFor := row.scheduledFor
      generatedAt
      seed := row.seed
      observedThrough
      datasetDigest
      distinctPairs := row.distinctPairs
      possiblePairs := row.possiblePairs
      coverageBasisPoints := row.coverageBasisPoints
      evNetCents
      evAssumption
      tickets
      disclaimer := row.disclaimer }
  | _, _, _, _, _ => .error (.plain s!"Generated run {row.runId} is incomplete")

/-- The tickets of a run do not add up. -/
def countMismatch (runId : String) : Fault :=
  .plain s!"Run {runId} ticket count does not reconcile"

/-- What is made of a run and the tickets read after it. -/
def reconciledRun (row : GenerationRow) (tickets : List (ℕ × ScoredTicket)) :
    Except Fault PublicGenerationRun := do
  Except.throwIf (tickets.length ≠ row.ticketCount) (countMismatch row.runId)
  publicRun row tickets

/-- The run that was generated before, if there is one. -/
def generatedRun : Generating (Option PublicGenerationRun) := do
  match ← perform .readGenerated with
  | none => return none
  | some row =>
    let tickets ← perform (.readTickets row.runId)
    return some (← compute (reconciledRun row tickets))

/-! ## Failures -/

/-- How a generation ends. -/
inductive AutomationOutcome
  | generated (run : PublicGenerationRun)
  | reused (run : PublicGenerationRun)
  | failed (attempts : ℕ) (terminal : Bool) (error : String)
  | idle
  deriving DecidableEq

/-- The characters of a text that fit into some UTF-16 code units. -/
private def takeUnits : ℕ → List Char → List Char
  | _, [] => []
  | units, c :: cs =>
    let width := if c.toNat < 0x10000 then 1 else 2
    if width ≤ units then c :: takeUnits (units - width) cs else []

/-- The text of a fault, cut off. -/
def boundedError (fault : Fault) : String :=
  String.ofList (takeUnits 2000 (fault.name ++ ": " ++ fault.message).toList)

/-- `MAX_PIPELINE_ATTEMPTS`. -/
def maxPipelineAttempts : ℕ := 3

/-- `PICKS_DISCLAIMER`. -/
def picksDisclaimer : String :=
  "Picks are optimized for coverage and lower split-risk patterns, not predicted. " ++
    "Lottery draws are random. Play responsibly."

def alertHeading : String := "🚨 RabbitHoleTX ALERT — "

/-- The sales cutoff was missed. -/
def missedCutoffAlert (game : GameCode) (drawDate : String) : String :=
  alertHeading ++ (game.name ++ (" missed the official sales cutoff for " ++ drawDate ++
    "; no Ticket Lab proposal was generated. " ++ picksDisclaimer))

/-- The last attempt has failed. -/
def generationFailedAlert (game : GameCode) (drawDate : String) (attempts : ℕ) : String :=
  alertHeading ++ ("generation failed for " ++ game.name ++ " (" ++ drawDate ++ ") after " ++
    toString attempts ++ " attempts. Needs attention. " ++ picksDisclaimer)

/-- The run was generated late. -/
def lateGenerationAlert (game : GameCode) (drawDate : String) : String :=
  alertHeading ++ (game.name ++ (" generation completed after 09:00 CT for " ++ drawDate ++
    ". Numbers were recovered and queued, but the timing needs attention. " ++ picksDisclaimer))

/-- When a run was due. -/
def scheduledFor (drawDate : String) (config : GameAutomationConfigRow) : String :=
  drawDate ++ " " ++ config.generationLocalTime ++ " America/Chicago"

/-- What is stored of a failed attempt. -/
def failureRecord (game : GameCode) (drawDate : String) (config : GameAutomationConfigRow)
    (runId seed : String) (error : Fault) (now : ℤ) (missedDeadline : Bool) (attempts : ℕ) :
    FailureRecord :=
  let terminal := missedDeadline || attempts ≥ maxPipelineAttempts
  { runId
    drawSlot := config.drawSlot
    scheduledFor := scheduledFor drawDate config
    seed
    attempts
    nextRetryAt := if terminal then none else some (JavaScript.Timestamp.isoText (now + 60000))
    occurredAt := JavaScript.Timestamp.isoText now
    disclaimer := picksDisclaimer
    message := boundedError error
    alert :=
      if terminal then
        some (if missedDeadline then missedCutoffAlert game drawDate
          else generationFailedAlert game drawDate attempts)
      else none }

/-- A failed attempt is counted, and the last one announced. -/
def recordFailure (game : GameCode) (drawDate : String) (config : GameAutomationConfigRow)
    (runId seed : String) (error : Fault) (now : ℤ) (missedDeadline : Bool) :
    Generating AutomationOutcome := do
  let prior ← perform .readAttempts
  let attempts := prior.getD 0 + 1
  perform (.writeFailure
    (failureRecord game drawDate config runId seed error now missedDeadline attempts))
  return .failed attempts (missedDeadline || attempts ≥ maxPipelineAttempts) (boundedError error)

/-- `selectedDueCount`, then the reads and the write of the day's summary. -/
def refreshDailySummary : Generating Unit := do
  perform (.outside .readSelectedConfigs)
  perform (.outside (.refreshDailySummary 0))
  perform (.outside (.refreshDailySummary 1))
  perform (.outside (.refreshDailySummary 2))
  perform (.outside (.refreshDailySummary 3))
  perform (.outside (.refreshDailySummary 4))

/-! ## Seeds -/

/-- The public part of a seed. -/
def deterministicDailySeed (game : GameCode) (drawDate : String) (slot : DrawSlot) :
    Except Fault String :=
  if (isoDateParts drawDate).isSome then
    .ok ("rabbitholetx:v1:" ++ game.code ++ ":" ++ drawDate ++ ":" ++ slot.text)
  else .error (.range "draw date must be ISO-8601")

/-- The seed of a draw, with the secret salt. -/
def deriveProtectedDailySeed (host : GenerationHost) (game : GameCode) (drawDate : String)
    (slot : DrawSlot) : Except Fault String := do
  let secret := JavaScript.trim host.seedSalt
  Except.throwIf ((Text.codeUnits secret).length < 32)
    (.plain "RABBITHOLETX_SEED_SALT must contain at least 32 characters")
  return host.hmacSha256 secret (← deterministicDailySeed game drawDate slot)

/-- The id under which every attempt writes. -/
def generationRunId (host : GenerationHost) (game : GameCode) (drawDate : String)
    (slot : DrawSlot) :
    Except Fault String := do
  let seedNamespace ← deterministicDailySeed game drawDate slot
  return "gen-" ++ String.ofList ((host.sha256 ("run-id\x00" ++ seedNamespace)).toList.take 32)

/-! ## The worker -/

section Worker

variable (host : GenerationHost) (game : GameCode) (w : Surroundings)
  (config : GameAutomationConfigRow) (runId seed : String)

/-- The draw date of a worker: the day it is in Texas. -/
def Surroundings.drawDate : String := (host.texasClock w.now).date

/-- Whether tickets are sold at some moment. -/
def salesWindowAt (at_ : ℤ) : Except Fault TicketSalesWindow :=
  ticketSalesWindow game (w.drawDate host) (ledgerSession game) (host.texasClock at_)

/-- Nothing is generated after the cutoff or where there is no draw: a failure is recorded. -/
def refuseOutsideWindow : Generating (Option AutomationOutcome) := do
  let window ← compute (salesWindowAt host game w w.startAt)
  if window.isDrawDay ∧ window.beforeCutoff then return none
  let reason :=
    if window.isDrawDay then
      s!"{game.name} sales closed at {window.cutoffLocalTime} for " ++ w.drawDate host
    else s!"{game.name} has no official draw on " ++ w.drawDate host
  let failure ← recordFailure game (w.drawDate host) config runId "unavailable" (.plain reason)
    w.startAt true
  refreshDailySummary
  return some failure

/-- `refreshSource` for the exports of a game, in order. -/
def refreshSources : ℕ → Generating Unit
  | 0 => return ()
  | n + 1 => do
    refreshSources n
    perform (.outside (.refreshSource n))

/-- The sources are read and verified. -/
def verificationState : Generating Verification := do
  perform (.outside .readSources)
  perform (.outside .readIntegrity)
  compute w.verification

/-- The batch of a worker that has its picks. -/
def generationCommit (verification : Verification) (picked : PickResult) (netEvCents : ℤ) :
    GenerationCommit :=
  let completionClock := host.texasClock w.completedAt
  let deadlineClock :=
    if completionClock.date = w.drawDate host then completionClock else host.texasClock w.now
  { runId
    drawSlot := config.drawSlot
    scheduledFor := scheduledFor (w.drawDate host) config
    seed
    startedAt := JavaScript.Timestamp.isoText w.now
    generatedAt := JavaScript.Timestamp.isoText w.completedAt
    observedThrough := verification.observedThrough
    datasetDigest := verification.datasetDigest
    sourceStateJson := verification.sourceStateJson
    tickets := picked.tickets
    distinctPairs := picked.distinctPairs
    possiblePairs := picked.possiblePairs
    coverageBasisPoints := picked.coverageBasisPoints
    evNetCents := netEvCents
    evAssumption := (host.evDescription config).1
    messageBody := host.formatMessage (w.drawDate host) picked netEvCents
      verification.observedThrough (host.evDescription config).2
    disclaimer := picksDisclaimer
    lateAlert :=
      if isPastGenerationDeadline deadlineClock then
        some (lateGenerationAlert game (w.drawDate host))
      else none }

/-- Ingest, generate, commit and read back. -/
def generateAndCommit : Generating AutomationOutcome := do
  refreshSources game.sourceCount
  perform (.outside .readOfficialResult)
  if w.officialResult then
    throw (.plain (s!"official {game.name} result already exists for " ++ w.drawDate host ++
      "; post-draw generation is forbidden"))
  let verification ← verificationState w
  let picked ← compute (host.generateTickets config.ticketCount seed config.playStyle)
  let netEvCents ← compute (host.calculateEv config)
  let completionWindow ← compute (salesWindowAt host game w w.completedAt)
  if !completionWindow.beforeCutoff then
    throw (.plain s!"{game.name} sales closed at {completionWindow.cutoffLocalTime} before generation completed")
  let commitWindow ← compute (salesWindowAt host game w w.commitAt)
  if !commitWindow.beforeCutoff then
    throw (.plain s!"{game.name} sales closed at {commitWindow.cutoffLocalTime} before the immutable ledger commit")
  perform (.commit (generationCommit host game w config runId seed verification picked netEvCents))
  let _ ← (perform (.outside .captureShadowTrials)).attempt
  refreshDailySummary
  match ← generatedRun with
  | none => throw (.plain s!"Generated run {runId} could not be read back")
  | some run => return .generated run

/-- The `catch` of the worker. -/
def recordLateFailure (error : Fault) : Generating AutomationOutcome := do
  let window ← compute (salesWindowAt host game w w.failedAt)
  let failure ← recordFailure game (w.drawDate host) config runId seed error w.failedAt
    (!window.beforeCutoff)
  refreshDailySummary
  return failure

/-- What the worker does under its lease. -/
def generateUnderLease : Generating AutomationOutcome := do
  match ← (refuseOutsideWindow host game w config runId).attempt with
  | .error e => recordLateFailure host game w config runId "unavailable" e
  | .ok (some failure) => return failure
  | .ok none =>
    match deriveProtectedDailySeed host game (w.drawDate host) config.drawSlot with
    | .error e => recordLateFailure host game w config runId "unavailable" e
    | .ok seed =>
      (generateAndCommit host game w config runId seed).tryCatch
        (recordLateFailure host game w config runId seed)

/-- One generation of a game. -/
def generateForGame : Generating AutomationOutcome := do
  let config ← automationConfig host game
  match ← generatedRun with
  | some run => return .reused run
  | none =>
    let runId ← compute (generationRunId host game (w.drawDate host) config.drawSlot)
    let acquired ← perform (.acquireLease w.leaseToken (JavaScript.Timestamp.isoText w.leaseAt)
      (JavaScript.Timestamp.isoText (w.leaseAt + 15 * 60000)))
    if !acquired then return .idle
    finallyDo (generateUnderLease host game w config runId) (perform (.releaseLease w.leaseToken))

end Worker

end Yevow.Lotto
