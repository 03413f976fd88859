import Yevow.Models.Ingest.DepthEvents

/-!
# A Binance stream and its provider sequence

The stream keeps the last update identifier it has taken. An event at or below it is skipped,
one that continues it is taken, and one beyond a gap replaces the book by a new snapshot. The
ticks of one message go to the engine together. What the stream does is recorded: the events
it receives, takes and drops, the ticks it forwards and the snapshots it applies. A snapshot
that a message needs is taken to arrive and to be applied.
-/

namespace Yevow.Ingest

open JavaScript (Runtime)

/-- The settings of a stream. -/
structure StreamSettings where
  clock : ClockSyncSettings
  maxAgeMs : ℚ

/-- How far a stream has come. -/
structure StreamState where
  clockOffsetMs : Option ℚ
  providerSequence : Option ℤ
  awaitingProviderBridge : Bool
  syntheticSequence : ℤ
  deriving DecidableEq

/-- What becomes of an event. -/
inductive SequenceDecision
  | process
  | skip
  | resync
  deriving DecidableEq

/-- The engine's answer to forwarded ticks. -/
inductive TickReply
  | processed
  | desync
  | failed
  deriving DecidableEq

/-- A message: its events, the sequence of the snapshot that a resync during it fetches, and
what the engine answers to its ticks. -/
structure StreamMessage where
  events : List DiffEvent
  snapshotSequence : ℤ
  reply : TickReply

/-- What a stream does, in the order in which it does it. -/
inductive StreamAction
  | receive (events : List DiffEvent)
  | process (event : DiffEvent)
  | drop (event : DiffEvent)
  | forward (ticks : List MarketTick)
  | snapshot (sequence : ℤ)
  deriving DecidableEq

variable (js : Runtime) (settings : StreamSettings)

/-- `syncEngineSnapshot`, once the snapshot is applied. -/
def StreamState.syncEngineSnapshot (state : StreamState) (sequence : ℤ) : StreamState :=
  { state with providerSequence := some sequence, awaitingProviderBridge := true }

/-- An event continues the sequence, is old, or leaves a gap. -/
def evaluateProviderSequence (snapshotSequence : ℤ) (state : StreamState) (event : DiffEvent) :
    SequenceDecision × StreamState :=
  match readBinanceSequenceWindow js event, state.providerSequence with
  | some window, some providerSequence =>
    if window.finalUpdateId ≤ providerSequence then (.skip, state)
    else
      let expectedNextUpdateId := providerSequence + 1
      if state.awaitingProviderBridge then
        if window.firstUpdateId ≤ expectedNextUpdateId ∧
            expectedNextUpdateId ≤ window.finalUpdateId then
          (.process, { state with
            providerSequence := some window.finalUpdateId, awaitingProviderBridge := false })
        else (.resync, state.syncEngineSnapshot snapshotSequence)
      else if expectedNextUpdateId < window.firstUpdateId then
        (.resync, state.syncEngineSnapshot snapshotSequence)
      else (.process, { state with providerSequence := some window.finalUpdateId })
  | _, _ => (.process, state)

/-- A tick gets the next number. -/
def sequenceTick (state : StreamState) (tick : MarketTick) : StreamState × MarketTick :=
  let syntheticSequence := state.syntheticSequence + 1
  ({ state with syntheticSequence := syntheticSequence },
    { tick with sequence := syntheticSequence, providerSequence := some tick.sequence })

/-- Number the ticks of an event and append those that are not stale to the batch. -/
def pushTicks : StreamState → List MarketTick → List MarketTick → StreamState × List MarketTick
  | state, batch, [] => (state, batch)
  | state, batch, tick :: ticks =>
    let (state, sequenced) := sequenceTick state tick
    if shouldDropStaleTick js settings.maxAgeMs sequenced then pushTicks state batch ticks
    else pushTicks state (batch ++ [sequenced]) ticks

/-- The loop over the events of a message. It gives the state, what was done, and the batch,
which a resync abandons with the events taken into it. -/
def processEvents (snapshotSequence : ℤ) : StreamState → List DiffEvent → List MarketTick →
    List DiffEvent → StreamState × List StreamAction × Option (List MarketTick)
  | state, _, batch, [] => (state, [], some batch)
  | state, taken, batch, event :: events =>
    match evaluateProviderSequence js snapshotSequence state event with
    | (.skip, state) => processEvents snapshotSequence state taken batch events
    | (.resync, state) => (state, taken.map .drop ++ [.snapshot snapshotSequence], none)
    | (.process, state) =>
      match normalizeBinanceData js settings.clock state.clockOffsetMs event with
      | (offset, .error _) =>
        let (state, actions, batch) := processEvents snapshotSequence
          { state with clockOffsetMs := offset } taken batch events
        (state, .process event :: .drop event :: actions, batch)
      | (offset, .ok ticks) =>
        let (state, batch) := pushTicks js settings { state with clockOffsetMs := offset } batch
          ticks
        let stale := ticks.any (shouldDropStaleTick js settings.maxAgeMs)
        let (state, actions, batch) := processEvents snapshotSequence state
          (if stale then taken else taken ++ [event]) batch events
        (state, .process event :: (if stale then .drop event :: actions else actions), batch)

/-- `forwardTicks`: a batch that the engine finds out of order is followed by a resync. -/
def forwardTicks (message : StreamMessage) (state : StreamState) (batch : List MarketTick) :
    StreamState × List StreamAction :=
  match message.reply with
  | .desync => (state.syncEngineSnapshot message.snapshotSequence,
      [.forward batch, .snapshot message.snapshotSequence])
  | .processed => (state, [.forward batch])
  | .failed => (state, [.forward batch])

/-- The events of a message, up to a gap. -/
def processMessage (state : StreamState) (message : StreamMessage) :
    StreamState × List StreamAction :=
  match processEvents js settings message.snapshotSequence state [] [] message.events with
  | (state, actions, none) => (state, .receive message.events :: actions)
  | (state, actions, some []) => (state, .receive message.events :: actions)
  | (state, actions, some batch) =>
    let (state, forwarded) := forwardTicks message state batch
    (state, .receive message.events :: (actions ++ forwarded))

/-- Messages handled one after another. -/
def processMessages : StreamState → List StreamMessage → StreamState × List StreamAction
  | state, [] => (state, [])
  | state, message :: messages =>
    let (state, actions) := processMessage js settings state message
    let (state, later) := processMessages state messages
    (state, actions ++ later)

end Yevow.Ingest
