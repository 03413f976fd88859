import Yevow.Core.JavaScript.Reference
import Yevow.Models.Ingest.StreamController

/-!
# What a stream hands on

Between two snapshots the level updates that a stream has forwarded are those of the events
it took, in the order of their update identifiers, and leave out none up to the provider
sequence, as long as every event it takes becomes ticks that are not stale.
-/

namespace Yevow.Ingest

open JavaScript (Runtime)

variable (js : Runtime) (settings : StreamSettings)

/-! ## The law -/

/-- The actions since the last snapshot and the sequence of that snapshot, after one more. -/
def StreamAction.extend (segment : ℤ × List StreamAction) :
    StreamAction → ℤ × List StreamAction
  | .snapshot sequence => (sequence, [])
  | action => (segment.1, segment.2 ++ [action])

/-- The sequence of the last snapshot and the actions since, where the actions start after a
snapshot. -/
def sinceSnapshot (sequence : ℤ) (actions : List StreamAction) : ℤ × List StreamAction :=
  actions.foldl StreamAction.extend (sequence, [])

/-- The action that takes a snapshot. -/
def StreamAction.isSnapshot : StreamAction → Bool
  | .snapshot _ => true
  | _ => false

/-- What happens before the next snapshot. -/
def untilSnapshot (actions : List StreamAction) : List StreamAction :=
  actions.takeWhile fun action => !action.isSnapshot

/-- The events that were received. -/
def receivedEvents (actions : List StreamAction) : List DiffEvent :=
  actions.flatMap fun action =>
    match action with
    | .receive events => events
    | _ => []

/-- The updates that were handed on. -/
def forwardedUpdates (actions : List StreamAction) : List LevelUpdate :=
  actions.flatMap fun action =>
    match action with
    | .forward ticks => ticks.map MarketTick.update
    | _ => []

/-- An update identifier lies in the window of an event. -/
def DiffEvent.Covers (event : DiffEvent) (id : ℤ) : Prop :=
  ∃ window, readBinanceSequenceWindow js event = some window ∧
    window.firstUpdateId ≤ id ∧ id ≤ window.finalUpdateId

/-- Some events are what was handed on since a snapshot: all their level updates were, in
order of update identifier, and every event received whose window lies above the snapshot and
not above the provider sequence is one of them, or repeats identifiers that they cover. -/
structure HandedInOrder (snapshotSequence providerSequence : ℤ) (actions : List StreamAction)
    (handed : List DiffEvent) : Prop where
  received : ∀ event ∈ handed, event ∈ receivedEvents actions
  forwarded : forwardedUpdates actions = handed.flatMap DiffEvent.levelUpdates
  ordered : (handed.filterMap (readBinanceSequenceWindow js)).Pairwise fun window later =>
    window.finalUpdateId < later.finalUpdateId
  complete : ∀ event ∈ receivedEvents actions, ∀ window,
    readBinanceSequenceWindow js event = some window →
    snapshotSequence < window.firstUpdateId → window.finalUpdateId ≤ providerSequence →
    event ∈ handed ∨ ∀ id, window.firstUpdateId ≤ id → id ≤ window.finalUpdateId →
      ∃ other ∈ handed, other.Covers js id

/-- A batch with all level updates of an event was forwarded. -/
def HandedOn (event : DiffEvent) (actions : List StreamAction) : Prop :=
  ∃ ticks, .forward ticks ∈ actions ∧ event.levelUpdates <:+: ticks.map MarketTick.update

/-- Before the next snapshot, an event that is taken is handed on or dropped, and after one
that is dropped no further one is taken. -/
def Settled : List StreamAction → Prop
  | [] => True
  | .process event :: rest =>
    (HandedOn event (untilSnapshot rest) ∨ .drop event ∈ untilSnapshot rest) ∧ Settled rest
  | .drop _ :: rest => (∀ later, .process later ∉ untilSnapshot rest) ∧ Settled rest
  | _ :: rest => Settled rest

/-- What a stream owes its engine after a run that started with a snapshot. -/
structure HandsOn (snapshotSequence : ℤ) (run : StreamState × List StreamAction) : Prop where
  handed : ∀ providerSequence, run.1.providerSequence = some providerSequence →
    ∃ handed, HandedInOrder js (sinceSnapshot snapshotSequence run.2).1 providerSequence
      (sinceSnapshot snapshotSequence run.2).2 handed
  settled : Settled run.2

/-! ## Runs that drop nothing -/

/-- Every event of a message that the sequence check lets through becomes ticks, none of them
stale. -/
def eventsTimely (snapshotSequence : ℤ) : StreamState → List DiffEvent → Bool
  | _, [] => true
  | state, event :: events =>
    match evaluateProviderSequence js snapshotSequence state event with
    | (.skip, state) => eventsTimely snapshotSequence state events
    | (.resync, _) => true
    | (.process, state) =>
      match normalizeBinanceData js settings.clock state.clockOffsetMs event with
      | (_, .error _) => false
      | (offset, .ok ticks) =>
        ticks.all (fun tick => !shouldDropStaleTick js settings.maxAgeMs tick) &&
          eventsTimely snapshotSequence { state with
            clockOffsetMs := offset
            syntheticSequence := state.syntheticSequence + ticks.length } events

/-- The same of every message of a run. -/
def messagesTimely : StreamState → List StreamMessage → Bool
  | _, [] => true
  | state, message :: messages =>
    eventsTimely js settings message.snapshotSequence state message.events &&
      messagesTimely (processMessage js settings state message).1 messages

/-! ## Taking events -/

/-- From one provider sequence to another, some of the events received were taken. -/
structure Takes (start stop : ℤ) (received taken : List DiffEvent) : Prop where
  le : start ≤ stop
  covers : ∀ id, start < id → id ≤ stop → ∃ event ∈ taken, event.Covers js id
  ordered : (taken.filterMap (readBinanceSequenceWindow js)).Pairwise fun window later =>
    window.finalUpdateId < later.finalUpdateId
  within : ∀ window ∈ taken.filterMap (readBinanceSequenceWindow js),
    start < window.finalUpdateId ∧ window.finalUpdateId ≤ stop
  subset : ∀ event ∈ taken, event ∈ received
  complete : ∀ event ∈ received, event ∈ taken ∨
    ∃ window, readBinanceSequenceWindow js event = some window ∧ window.finalUpdateId ≤ stop

variable {js}

namespace Takes

variable {start middle stop : ℤ} {received received' taken taken' : List DiffEvent}
  {event : DiffEvent} {window : BinanceSequenceWindow}

private theorem nothing (start : ℤ) : Takes js start start [] [] where
  le := le_rfl
  covers id h h' := by omega
  ordered := List.Pairwise.nil
  within w h := by cases h
  subset e h := by cases h
  complete e h := by cases h

/-- An event at or below the provider sequence is skipped. -/
theorem skip (hwindow : readBinanceSequenceWindow js event = some window)
    (hfinal : window.finalUpdateId ≤ start) : Takes js start start [event] [] where
  le := le_rfl
  covers id h h' := by omega
  ordered := List.Pairwise.nil
  within w h := by cases h
  subset e h := by cases h
  complete e h := by
    obtain rfl := List.mem_singleton.mp h
    exact Or.inr ⟨window, hwindow, hfinal⟩

/-- An event without a window is taken. -/
theorem windowless (hwindow : readBinanceSequenceWindow js event = none) :
    Takes js start start [event] [event] where
  le := le_rfl
  covers id h h' := by omega
  ordered := by simp [hwindow]
  within w h := by simp [hwindow] at h
  subset e h := h
  complete e h := Or.inl h

/-- An event that continues the provider sequence is taken. -/
theorem process (hwindow : readBinanceSequenceWindow js event = some window)
    (hfirst : window.firstUpdateId ≤ start + 1) (hfinal : start < window.finalUpdateId) :
    Takes js start window.finalUpdateId [event] [event] where
  le := hfinal.le
  covers id h h' :=
    ⟨event, List.mem_singleton_self event, window, hwindow, by omega, h'⟩
  ordered := by simp [hwindow]
  within w h := by
    obtain rfl : w = window := by simpa [hwindow] using h
    exact ⟨hfinal, le_rfl⟩
  subset e h := h
  complete e h := Or.inl h

private theorem append (h : Takes js start middle received taken)
    (h' : Takes js middle stop received' taken') :
    Takes js start stop (received ++ received') (taken ++ taken') where
  le := h.le.trans h'.le
  covers id hstart hstop := by
    rcases le_or_gt id middle with hid | hid
    · obtain ⟨e, he, hcovers⟩ := h.covers id hstart hid
      exact ⟨e, List.mem_append_left _ he, hcovers⟩
    · obtain ⟨e, he, hcovers⟩ := h'.covers id hid hstop
      exact ⟨e, List.mem_append_right _ he, hcovers⟩
  ordered := by
    rw [List.filterMap_append, List.pairwise_append]
    refine ⟨h.ordered, h'.ordered, ?_⟩
    intro w hw w' hw'
    have hbelow := (h.within w hw).2
    have habove := (h'.within w' hw').1
    omega
  within w hw := by
    rw [List.filterMap_append, List.mem_append] at hw
    have hle := h.le
    have hle' := h'.le
    rcases hw with hw | hw
    · have hin := h.within w hw
      omega
    · have hin := h'.within w hw
      omega
  subset e he := by
    rcases List.mem_append.mp he with he | he
    · exact List.mem_append_left _ (h.subset e he)
    · exact List.mem_append_right _ (h'.subset e he)
  complete e he := by
    rcases List.mem_append.mp he with he | he
    · rcases h.complete e he with htaken | ⟨w, hw, hfinal⟩
      · exact Or.inl (List.mem_append_left _ htaken)
      · exact Or.inr ⟨w, hw, hfinal.trans h'.le⟩
    · rcases h'.complete e he with htaken | hskipped
      · exact Or.inl (List.mem_append_right _ htaken)
      · exact Or.inr hskipped

/-- Events taken since a snapshot, all forwarded, were handed on in order. -/
theorem handedInOrder {actions : List StreamAction}
    (h : Takes js start stop (receivedEvents actions) taken)
    (hforwarded : forwardedUpdates actions = taken.flatMap DiffEvent.levelUpdates) :
    HandedInOrder js start stop actions taken where
  received := h.subset
  forwarded := hforwarded
  ordered := h.ordered
  complete e he w hw hfirst hfinal := by
    rcases h.complete e he with htaken | -
    · exact Or.inl htaken
    · right
      intro id hid hid'
      exact h.covers id (by omega) (by omega)

end Takes

/-- What the sequence check decides. -/
theorem evaluate_cases {state : StreamState} {providerSequence : ℤ}
    (hstate : state.providerSequence = some providerSequence) (snapshotSequence : ℤ)
    (event : DiffEvent) :
    (∃ window, readBinanceSequenceWindow js event = some window ∧
        window.finalUpdateId ≤ providerSequence ∧
        evaluateProviderSequence js snapshotSequence state event = (.skip, state)) ∨
      evaluateProviderSequence js snapshotSequence state event =
        (.resync, state.syncEngineSnapshot snapshotSequence) ∨
      ∃ next stop, evaluateProviderSequence js snapshotSequence state event = (.process, next) ∧
        next.providerSequence = some stop ∧ Takes js providerSequence stop [event] [event] := by
  unfold evaluateProviderSequence
  rw [hstate]
  cases hwindow : readBinanceSequenceWindow js event with
  | none => exact Or.inr (Or.inr ⟨state, providerSequence, rfl, hstate, .windowless hwindow⟩)
  | some window =>
    simp only
    split_ifs with hskip hbridge hbridges hgap
    · exact Or.inl ⟨window, rfl, hskip, rfl⟩
    · exact Or.inr (Or.inr ⟨_, _, rfl, rfl, .process hwindow hbridges.1 (by omega)⟩)
    · exact Or.inr (Or.inl rfl)
    · exact Or.inr (Or.inl rfl)
    · exact Or.inr (Or.inr ⟨_, _, rfl, rfl, .process hwindow (by omega) (by omega)⟩)

variable {settings : StreamSettings}

/-- Ticks that are not stale are numbered and all join the batch. -/
private theorem pushTicks_fresh {ticks : List MarketTick}
    (hfresh : ticks.all (fun tick => !shouldDropStaleTick js settings.maxAgeMs tick) = true)
    (state : StreamState) (batch : List MarketTick) :
    ∃ batch', pushTicks js settings state batch ticks =
        ({ state with syntheticSequence := state.syntheticSequence + ticks.length }, batch') ∧
      batch'.map MarketTick.update =
        batch.map MarketTick.update ++ ticks.map MarketTick.update := by
  induction ticks generalizing state batch with
  | nil => exact ⟨batch, by simp [pushTicks], by simp⟩
  | cons tick ticks ih =>
    rw [List.all_cons, Bool.and_eq_true] at hfresh
    obtain ⟨hhead, hrest⟩ := hfresh
    have hstale : shouldDropStaleTick js settings.maxAgeMs tick = false := by simpa using hhead
    -- Numbering leaves the times of a tick alone.
    have hnumbered : shouldDropStaleTick js settings.maxAgeMs (sequenceTick state tick).2 =
        false := hstale
    have hcount : state.syntheticSequence + 1 + (ticks.length : ℤ) =
        state.syntheticSequence + ((tick :: ticks).length : ℤ) := by
      rw [List.length_cons, Nat.cast_add, Nat.cast_one]
      omega
    obtain ⟨batch', hpush, hupdates⟩ :=
      ih hrest (sequenceTick state tick).1 (batch ++ [(sequenceTick state tick).2])
    refine ⟨batch', ?_, ?_⟩
    · rw [pushTicks]
      simp only [hnumbered, Bool.false_eq_true, if_false]
      rw [hpush, ← hcount]
      rfl
    · rw [hupdates]
      simp [sequenceTick, MarketTick.update]

/-- A timely message either takes events into the batch, or ends in a resync that drops what
was taken. -/
private theorem processEvents_timely {snapshotSequence : ℤ} {events : List DiffEvent}
    {state : StreamState} {start : ℤ}
    (htimely : eventsTimely js settings snapshotSequence state events = true)
    (hstate : state.providerSequence = some start) (earlier : List DiffEvent)
    (batch : List MarketTick) :
    ∃ taken next, (∃ stop batch', processEvents js settings snapshotSequence state earlier batch
          events = (next, taken.map .process, some batch') ∧
        next.providerSequence = some stop ∧ Takes js start stop events taken ∧
        (∀ event ∈ taken, event.levelUpdates ≠ []) ∧
        batch'.map MarketTick.update =
          batch.map MarketTick.update ++ taken.flatMap DiffEvent.levelUpdates) ∨
      (processEvents js settings snapshotSequence state earlier batch events =
          (next, taken.map .process ++ ((earlier ++ taken).map .drop ++
            [.snapshot snapshotSequence]), none) ∧
        next.providerSequence = some snapshotSequence) := by
  induction events generalizing state start earlier batch with
  | nil =>
    exact ⟨[], state, Or.inl ⟨start, batch, rfl, hstate, .nothing start, by simp, by simp⟩⟩
  | cons event events ih =>
    have hdecision := @evaluate_cases js state start hstate snapshotSequence event
    rcases hdecision with
      ⟨window, hwindow, hfinal, heval⟩ | heval | ⟨next, middle, heval, hnext, htakes⟩
    · simp only [eventsTimely, heval] at htimely
      simp only [processEvents, heval]
      obtain ⟨taken, last, ⟨stop, batch', hrun, hlast, hrest, hfilled, hbatch⟩ | hresync⟩ :=
        ih htimely hstate earlier batch
      · exact ⟨taken, last, Or.inl ⟨stop, batch', hrun, hlast,
          (Takes.skip hwindow hfinal).append hrest, hfilled, hbatch⟩⟩
      · exact ⟨taken, last, Or.inr hresync⟩
    · refine ⟨[], state.syncEngineSnapshot snapshotSequence, Or.inr ⟨?_, rfl⟩⟩
      simp only [processEvents, heval]
      simp
    · simp only [eventsTimely, heval] at htimely
      rcases hnormal : normalizeBinanceData js settings.clock next.clockOffsetMs event with
        ⟨offset, e | ticks⟩
      · simp [hnormal] at htimely
      · simp only [hnormal, Bool.and_eq_true] at htimely
        obtain ⟨hfresh, hrest⟩ := htimely
        have hstale : ticks.any (shouldDropStaleTick js settings.maxAgeMs) = false := by
          simpa using hfresh
        obtain ⟨hupdates, hticks⟩ := updates_of_normalize hnormal
        have hfilled : event.levelUpdates ≠ [] := by
          rw [← hupdates, ne_eq, List.map_eq_nil_iff]
          exact hticks
        obtain ⟨pushed, hpush, hpushed⟩ :=
          pushTicks_fresh hfresh { next with clockOffsetMs := offset } batch
        simp only [processEvents, heval, hnormal, hstale, Bool.false_eq_true, if_false, hpush]
        obtain ⟨taken, last, ⟨stop, batch', hrun, hlast, htaken, hall, hbatch⟩ | ⟨hrun, hlast⟩⟩ :=
          ih hrest hnext (earlier ++ [event]) pushed
        · refine ⟨event :: taken, last, Or.inl ⟨stop, batch', ?_, hlast, htakes.append htaken,
            List.forall_mem_cons.mpr ⟨hfilled, hall⟩, ?_⟩⟩
          · rw [hrun]
            rfl
          · rw [hbatch, hpushed, hupdates]
            simp
        · refine ⟨event :: taken, last, Or.inr ⟨?_, hlast⟩⟩
          rw [hrun]
          simp

/-! ## Segments of what a stream does -/

private theorem receivedEvents_append (actions later : List StreamAction) :
    receivedEvents (actions ++ later) = receivedEvents actions ++ receivedEvents later :=
  List.flatMap_append

private theorem forwardedUpdates_append (actions later : List StreamAction) :
    forwardedUpdates (actions ++ later) = forwardedUpdates actions ++ forwardedUpdates later :=
  List.flatMap_append

private theorem foldl_extend {actions : List StreamAction}
    (h : ∀ action ∈ actions, action.isSnapshot = false) (segment : ℤ × List StreamAction) :
    actions.foldl StreamAction.extend segment = (segment.1, segment.2 ++ actions) := by
  induction actions generalizing segment with
  | nil => simp
  | cons action actions ih =>
    have hhead := h action List.mem_cons_self
    have hextend : StreamAction.extend segment action = (segment.1, segment.2 ++ [action]) := by
      cases action with
      | snapshot sequence => cases hhead
      | receive events => rfl
      | process event => rfl
      | drop event => rfl
      | forward ticks => rfl
    rw [List.foldl_cons, hextend, ih fun a ha => h a (List.mem_cons_of_mem _ ha)]
    simp

private theorem untilSnapshot_append {actions : List StreamAction}
    (h : ∀ action ∈ actions, action.isSnapshot = false) (rest : List StreamAction) :
    untilSnapshot (actions ++ rest) = actions ++ untilSnapshot rest := by
  unfold untilSnapshot
  rw [List.takeWhile_append_of_pos]
  intro action haction
  simp [h action haction]

/-- What a message does: it takes events and forwards their updates, and a snapshot may end
it, at which the events of an abandoned batch are dropped. -/
inductive MessageEffect (js : Runtime) (start : ℤ) (events : List DiffEvent) :
    Option ℤ → List StreamAction → Prop
  | quiet {stop : ℤ} (htakes : Takes js start stop events []) :
    MessageEffect js start events (some stop) [.receive events]
  | forwarded {stop : ℤ} {taken : List DiffEvent} {batch : List MarketTick}
    (htakes : Takes js start stop events taken)
    (hbatch : batch.map MarketTick.update = taken.flatMap DiffEvent.levelUpdates) :
    MessageEffect js start events (some stop)
      (.receive events :: (taken.map .process ++ [.forward batch]))
  | desynchronized {sequence : ℤ} {taken : List DiffEvent} {batch : List MarketTick}
    (hbatch : batch.map MarketTick.update = taken.flatMap DiffEvent.levelUpdates) :
    MessageEffect js start events (some sequence)
      (.receive events :: (taken.map .process ++ [.forward batch, .snapshot sequence]))
  | abandoned {sequence : ℤ} {taken : List DiffEvent} :
    MessageEffect js start events (some sequence)
      (.receive events :: (taken.map .process ++ (taken.map .drop ++ [.snapshot sequence])))

private theorem processMessage_effect {state : StreamState} {start : ℤ}
    (hstate : state.providerSequence = some start) {message : StreamMessage}
    (htimely : eventsTimely js settings message.snapshotSequence state message.events = true) :
    MessageEffect js start message.events
      (processMessage js settings state message).1.providerSequence
      (processMessage js settings state message).2 := by
  obtain ⟨taken, next, ⟨stop, batch, hrun, hnext, htakes, hfilled, hbatch⟩ | ⟨hrun, hnext⟩⟩ :=
    processEvents_timely htimely hstate [] []
  · rw [List.map_nil, List.nil_append] at hbatch
    unfold processMessage
    rw [hrun]
    cases batch with
    | nil =>
      have hnone : taken = [] := by
        rw [List.map_nil, eq_comm, List.flatMap_eq_nil_iff] at hbatch
        exact List.eq_nil_iff_forall_not_mem.mpr fun e he => hfilled e he (hbatch e he)
      subst hnone
      simp only [hnext, List.map_nil]
      exact .quiet htakes
    | cons tick batch =>
      simp only [forwardTicks]
      cases message.reply with
      | desync => exact .desynchronized hbatch
      | processed =>
        simp only [hnext]
        exact .forwarded htakes hbatch
      | failed =>
        simp only [hnext]
        exact .forwarded htakes hbatch
  · unfold processMessage
    rw [hrun]
    simp only [hnext, List.nil_append]
    exact .abandoned

private theorem settled_process {taken : List DiffEvent} {rest : List StreamAction}
    (htaken : ∀ event ∈ taken,
      HandedOn event (untilSnapshot rest) ∨ .drop event ∈ untilSnapshot rest)
    (hrest : Settled rest) : Settled (taken.map .process ++ rest) := by
  induction taken with
  | nil => exact hrest
  | cons event taken ih =>
    have huntil : untilSnapshot (taken.map .process ++ rest) =
        taken.map .process ++ untilSnapshot rest := by
      apply untilSnapshot_append
      intro action haction
      obtain ⟨e, -, rfl⟩ := List.mem_map.mp haction
      rfl
    refine ⟨?_, ih fun e he => htaken e (List.mem_cons_of_mem _ he)⟩
    rw [List.append_eq, huntil]
    rcases htaken event List.mem_cons_self with ⟨ticks, hforward, hinfix⟩ | hdrop
    · exact Or.inl ⟨ticks, List.mem_append_right _ hforward, hinfix⟩
    · exact Or.inr (List.mem_append_right _ hdrop)

private theorem untilSnapshot_drops (taken : List DiffEvent) (sequence : ℤ)
    (rest : List StreamAction) :
    untilSnapshot (taken.map StreamAction.drop ++ .snapshot sequence :: rest) =
      taken.map StreamAction.drop := by
  rw [untilSnapshot_append]
  · exact List.append_nil _
  · intro action haction
    obtain ⟨e, -, rfl⟩ := List.mem_map.mp haction
    rfl

private theorem settled_drop {taken : List DiffEvent} {sequence : ℤ}
    {rest : List StreamAction} (hrest : Settled rest) :
    Settled (taken.map .drop ++ .snapshot sequence :: rest) := by
  induction taken with
  | nil => exact hrest
  | cons event taken ih =>
    refine ⟨fun later hlater => ?_, ih⟩
    have hdrops : (.process later : StreamAction) ∈ taken.map .drop := by
      rw [← untilSnapshot_drops taken sequence rest]
      exact hlater
    obtain ⟨e, -, heq⟩ := List.mem_map.mp hdrops
    cases heq

private theorem handedOn_of_mem {taken : List DiffEvent} {batch : List MarketTick}
    (hbatch : batch.map MarketTick.update = taken.flatMap DiffEvent.levelUpdates)
    {event : DiffEvent} (hevent : event ∈ taken) {actions : List StreamAction}
    (hforward : .forward batch ∈ actions) : HandedOn event actions := by
  obtain ⟨before, after, rfl⟩ := List.append_of_mem hevent
  refine ⟨batch, hforward, before.flatMap DiffEvent.levelUpdates,
    after.flatMap DiffEvent.levelUpdates, ?_⟩
  rw [hbatch]
  simp

namespace MessageEffect

variable {start : ℤ} {events : List DiffEvent} {providerSequence : Option ℤ}
  {actions : List StreamAction}

/-- A message settles every event it takes. -/
theorem settled (h : MessageEffect js start events providerSequence actions)
    {rest : List StreamAction} (hrest : Settled rest) : Settled (actions ++ rest) := by
  cases h with
  | quiet htakes => exact hrest
  | @forwarded stop taken batch htakes hbatch =>
    rw [List.cons_append, List.append_assoc]
    exact settled_process
      (fun e he => Or.inl (handedOn_of_mem hbatch he List.mem_cons_self)) hrest
  | @desynchronized sequence taken batch hbatch =>
    rw [List.cons_append, List.append_assoc]
    exact settled_process
      (fun e he => Or.inl (handedOn_of_mem hbatch he List.mem_cons_self)) hrest
  | @abandoned sequence taken =>
    rw [List.cons_append, List.append_assoc, List.append_assoc]
    refine settled_process (fun e he => Or.inr ?_) (settled_drop hrest)
    rw [List.singleton_append, untilSnapshot_drops]
    exact List.mem_map_of_mem he

end MessageEffect

/-- Everything taken since the last snapshot was forwarded. -/
def Tracked (js : Runtime) (segment : ℤ × List StreamAction) (providerSequence : Option ℤ) :
    Prop :=
  ∃ stop taken, providerSequence = some stop ∧
    Takes js segment.1 stop (receivedEvents segment.2) taken ∧
    forwardedUpdates segment.2 = taken.flatMap DiffEvent.levelUpdates

private theorem tracked_snapshot (sequence : ℤ) : Tracked js (sequence, []) (some sequence) :=
  ⟨sequence, [], rfl, .nothing sequence, rfl⟩

private theorem isSnapshot_process {taken : List DiffEvent} :
    ∀ action ∈ taken.map StreamAction.process, action.isSnapshot = false := by
  intro action haction
  obtain ⟨e, -, rfl⟩ := List.mem_map.mp haction
  rfl

private theorem receivedEvents_process (taken : List DiffEvent) :
    receivedEvents (taken.map StreamAction.process) = [] := by
  rw [receivedEvents, List.flatMap_map, List.flatMap_eq_nil_iff]
  intro e he
  rfl

private theorem forwardedUpdates_process (taken : List DiffEvent) :
    forwardedUpdates (taken.map StreamAction.process) = [] := by
  rw [forwardedUpdates, List.flatMap_map, List.flatMap_eq_nil_iff]
  intro e he
  rfl

/-- What is tracked before a message is tracked after it. -/
theorem MessageEffect.tracked {start : ℤ} {events : List DiffEvent}
    {providerSequence : Option ℤ} {actions : List StreamAction}
    (h : MessageEffect js start events providerSequence actions)
    {segment : ℤ × List StreamAction} (hsegment : Tracked js segment (some start)) :
    Tracked js (actions.foldl StreamAction.extend segment) providerSequence := by
  obtain ⟨stop, earlier, hstop, hearlier, hsent⟩ := hsegment
  obtain rfl := Option.some.inj hstop
  cases h with
  | @quiet stop htakes =>
    rw [foldl_extend (by simp [StreamAction.isSnapshot])]
    refine ⟨stop, earlier ++ [], rfl, ?_, ?_⟩
    · rw [receivedEvents_append]
      exact hearlier.append (by simpa [receivedEvents] using htakes)
    · rw [forwardedUpdates_append, hsent]
      simp [forwardedUpdates]
  | @forwarded stop taken batch htakes hbatch =>
    have hplain : ∀ action ∈ (.receive events :: (taken.map .process ++ [.forward batch]) :
        List StreamAction), action.isSnapshot = false := by
      intro action haction
      rcases List.mem_cons.mp haction with rfl | haction
      · rfl
      · rcases List.mem_append.mp haction with htaken | hforward
        · exact isSnapshot_process action htaken
        · obtain rfl := List.mem_singleton.mp hforward
          rfl
    rw [foldl_extend hplain]
    have hreceived : receivedEvents
        (.receive events :: (taken.map .process ++ [.forward batch])) = events := by
      rw [← List.singleton_append, receivedEvents_append, receivedEvents_append,
        receivedEvents_process]
      simp [receivedEvents]
    have hforwarded : forwardedUpdates
        (.receive events :: (taken.map .process ++ [.forward batch])) =
          taken.flatMap DiffEvent.levelUpdates := by
      rw [← List.singleton_append, forwardedUpdates_append, forwardedUpdates_append,
        forwardedUpdates_process, ← hbatch]
      simp [forwardedUpdates]
    refine ⟨stop, earlier ++ taken, rfl, ?_, ?_⟩
    · rw [receivedEvents_append, hreceived]
      exact hearlier.append htakes
    · rw [forwardedUpdates_append, hsent, hforwarded, List.flatMap_append]
  | @desynchronized sequence taken batch hbatch =>
    simp only [List.foldl_cons, List.foldl_append, List.foldl_nil, StreamAction.extend]
    exact tracked_snapshot sequence
  | @abandoned sequence taken =>
    simp only [List.foldl_cons, List.foldl_append, List.foldl_nil, StreamAction.extend]
    exact tracked_snapshot sequence

private theorem processMessages_timely {messages : List StreamMessage} {state : StreamState}
    {segment : ℤ × List StreamAction}
    (htimely : messagesTimely js settings state messages = true)
    (htracked : Tracked js segment state.providerSequence) :
    let run := processMessages js settings state messages
    Tracked js (run.2.foldl StreamAction.extend segment) run.1.providerSequence ∧
      Settled run.2 := by
  induction messages generalizing state segment with
  | nil => exact ⟨htracked, trivial⟩
  | cons message messages ih =>
    rw [messagesTimely, Bool.and_eq_true] at htimely
    obtain ⟨start, -, hstart, -⟩ := id htracked
    have heffect := processMessage_effect hstart htimely.1
    rw [hstart] at htracked
    obtain ⟨hafter, hsettled⟩ := ih htimely.2 (heffect.tracked htracked)
    intro run
    refine ⟨?_, heffect.settled hsettled⟩
    rw [show run.2 = (processMessage js settings state message).2 ++
      (processMessages js settings (processMessage js settings state message).1 messages).2 from
        rfl, List.foldl_append]
    exact hafter

/-- In a run in which every event that the sequence check lets through becomes ticks, none of
them stale, a stream hands on what it takes: between snapshots everything up to the provider
sequence, in order, and what a resync drops is replaced by its snapshot. -/
theorem timely_run_hands_on (js : Runtime) (settings : StreamSettings) (state : StreamState)
    (snapshotSequence : ℤ) (messages : List StreamMessage)
    (htimely : messagesTimely js settings (state.syncEngineSnapshot snapshotSequence) messages =
      true) :
    HandsOn js snapshotSequence
      (processMessages js settings (state.syncEngineSnapshot snapshotSequence) messages) := by
  obtain ⟨⟨stop, taken, hstop, htakes, hforwarded⟩, hsettled⟩ :=
    processMessages_timely htimely (tracked_snapshot snapshotSequence)
  refine ⟨fun providerSequence hsequence => ?_, hsettled⟩
  obtain rfl := Option.some.inj (hstop.symm.trans hsequence)
  exact ⟨taken, htakes.handedInOrder hforwarded⟩

/-- An event that bridges the snapshot, its repetition and the next one are handed on, and an
event beyond a gap leads to a resync. -/
theorem bridged_run_hands_on :
    let js := JavaScript.reference Arithmetic.double
    let settings : StreamSettings := ⟨⟨1 / 10, 10000⟩, 1000⟩
    let time : EventTime := .number 1700000000000
    let bridge : DiffEvent :=
      ⟨.finite 100, .finite 101, time, [(.finite 3, .finite 5)], [], 101, 1700000000050⟩
    let next : DiffEvent :=
      ⟨.finite 102, .finite 103, time, [], [(.finite 4, .finite 1)], 103, 1700000000060⟩
    let beyond : DiffEvent :=
      ⟨.finite 200, .finite 201, time, [(.finite 3, .finite 0)], [], 201, 1700000000070⟩
    let start : StreamState := ⟨none, none, false, 0⟩
    HandsOn js 100 (processMessages js settings (start.syncEngineSnapshot 100)
      [⟨[bridge, bridge, next], 0, .processed⟩, ⟨[beyond], 250, .processed⟩]) := by
  intro js settings time bridge next beyond start
  exact timely_run_hands_on js settings start 100 _ (by decide +kernel)

/-- An event that arrives twenty seconds late moves the provider sequence and is dropped as
stale, and the stream goes on with the next event, without a snapshot. -/
theorem stale_event_lost :
    let js := JavaScript.reference Arithmetic.double
    let settings : StreamSettings := ⟨⟨1 / 10, 10000⟩, 1000⟩
    let late : DiffEvent := ⟨.finite 101, .finite 101, .number 1700000000000,
      [(.finite 3, .finite 5)], [], 101, 1700000020000⟩
    let next : DiffEvent := ⟨.finite 102, .finite 102, .number 1700000020000,
      [(.finite 4, .finite 1)], [], 102, 1700000020050⟩
    let start : StreamState := ⟨none, none, false, 0⟩
    let run := processMessages js settings (start.syncEngineSnapshot 100)
      [⟨[late], 0, .processed⟩, ⟨[next], 0, .processed⟩]
    run.1.providerSequence = some 102 ∧ forwardedUpdates run.2 = [⟨.buy, 4, 1⟩] ∧
      ¬HandsOn js 100 run := by
  intro js settings late next start run
  have hsequence : run.1.providerSequence = some 102 := by decide +kernel
  refine ⟨hsequence, by decide +kernel, fun h => ?_⟩
  obtain ⟨handed, hhanded⟩ := h.handed 102 hsequence
  have hstart : (sinceSnapshot 100 run.2).1 = 100 := by decide +kernel
  have hreceived : receivedEvents (sinceSnapshot 100 run.2).2 = [late, next] := by
    decide +kernel
  have hforwarded : forwardedUpdates (sinceSnapshot 100 run.2).2 = [⟨.buy, 4, 1⟩] := by
    decide +kernel
  rw [hstart] at hhanded
  have hlate : late ∉ handed := by
    intro hmem
    have hupdate : (⟨.buy, 3, 5⟩ : LevelUpdate) ∈ handed.flatMap DiffEvent.levelUpdates :=
      List.mem_flatMap.mpr ⟨late, hmem, by decide +kernel⟩
    rw [← hhanded.forwarded, hforwarded] at hupdate
    revert hupdate
    decide +kernel
  have hmem : late ∈ receivedEvents (sinceSnapshot 100 run.2).2 := by
    rw [hreceived]
    exact List.mem_cons_self
  rcases hhanded.complete late hmem ⟨101, 101⟩ (by decide +kernel) (by norm_num) (by norm_num) with
    hin | hcovered
  · exact hlate hin
  · obtain ⟨other, hother, window, hwindow, hfirst, -⟩ := hcovered 101 le_rfl le_rfl
    have hone := hhanded.received other hother
    rw [hreceived, List.mem_cons, List.mem_singleton] at hone
    rcases hone with rfl | rfl
    · exact hlate hother
    · have hnext : readBinanceSequenceWindow js next = some ⟨102, 102⟩ := by decide +kernel
      obtain rfl := Option.some.inj (hnext.symm.trans hwindow)
      norm_num at hfirst

end Yevow.Ingest
