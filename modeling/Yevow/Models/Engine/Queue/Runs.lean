import Mathlib.Algebra.Order.Group.Multiset
import Mathlib.Logic.Relation
import Yevow.Core.Collection.Rows
import Yevow.Models.Engine.Queue.Storage

/-!
# Runs of the execution queue

Operations on the stored list follow one another: the read and the put of each run as a whole.
A drain hands its due intents over one by one; between any two dispatches other operations may
run, among them enqueues that a dispatch itself makes.
-/

namespace Yevow.Engine

variable {I : Type} (backoffMs : ℤ)

/-- A drain between its first dispatch and its end. -/
structure ActiveDrain (I : Type) where
  nowMs : ℤ
  /-- The due intents that it has not handed over yet. -/
  remaining : List (QueuedExecutionIntent I)
  nextWakeMs : Option ℤ
  /-- The queue without its due intents was stored. -/
  persisted : Bool

/-- The queue, the drains under way and, as history, what was handed over. -/
structure QueueRun (I : Type) where
  now : ℤ
  storage : ExecutionQueueStorage I
  drains : Rows ℕ (ActiveDrain I)
  handed : List (ℕ × QueuedExecutionIntent I)

/-- An event; `drain` names a drain, and `throws` says that its dispatch throws. -/
inductive QueueEvent (I : Type)
  | enqueue (input : EnqueueInput I) (calls : ExecutionQueueStorage.EnqueueCalls)
  | startDrain (drain : ℕ) (nowMs : ℤ) (read : Option StorageError) (put : StorageCall)
  | dispatch (drain : ℕ) (atMs : ℤ) (throws : Bool)
  | finishDrain (drain : ℕ) (atMs : ℤ) (alarm : StorageCall)

namespace QueueEvent

/-- The moment of an event. -/
def time : QueueEvent I → ℤ
  | enqueue input _ => input.nowMs
  | startDrain _ nowMs _ _ => nowMs
  | dispatch _ atMs _ => atMs
  | finishDrain _ atMs _ => atMs

/-- A new drain has a name of its own, a dispatch has an intent to hand over, and a drain
ends when it has none left. -/
def Enabled (run : QueueRun I) : QueueEvent I → Prop
  | enqueue _ _ => True
  | startDrain drain _ _ _ =>
    run.drains.get? drain = none ∧ drain ∉ run.handed.map Prod.fst
  | dispatch drain _ _ => ∃ active ∈ run.drains.get? drain, active.remaining ≠ []
  | finishDrain drain _ _ => ∃ active ∈ run.drains.get? drain, active.remaining = []

instance (run : QueueRun I) : (event : QueueEvent I) → Decidable (event.Enabled run)
  | enqueue _ _ => isTrue trivial
  | startDrain _ _ _ _ => inferInstanceAs (Decidable (_ ∧ _))
  | dispatch _ _ _ => inferInstanceAs (Decidable (∃ active ∈ _, _))
  | finishDrain _ _ _ => inferInstanceAs (Decidable (∃ active ∈ _, _))

/-- At most 1000 intents wait after the event. -/
def HasRoom (run : QueueRun I) : QueueEvent I → Prop
  | enqueue _ _ => run.storage.queue.length < 1000
  | _ => True

/-- The run after an event. A dispatch that throws ends its drain. -/
def apply (run : QueueRun I) : QueueEvent I → QueueRun I
  | enqueue input calls =>
    { run with
      now := input.nowMs
      storage := (run.storage.enqueueTradingExecutionIntent backoffMs input calls).2 }
  | startDrain drain nowMs read put =>
    let (plan, storage) := run.storage.startDrain backoffMs nowMs read put
    { run with
      now := nowMs
      storage := storage
      drains := match plan with
        | none => run.drains
        | some plan => run.drains.set drain
            ⟨nowMs, plan.due, plan.nextWakeMs, run.storage.guard.Stores put⟩ }
  | dispatch drain atMs throws =>
    match run.drains.get? drain with
    | some ⟨nowMs, item :: rest, nextWakeMs, persisted⟩ =>
      { run with
        now := atMs
        drains := if throws then run.drains.delete drain
          else run.drains.set drain ⟨nowMs, rest, nextWakeMs, persisted⟩
        handed := run.handed ++ [(drain, item)] }
    | _ => run
  | finishDrain drain atMs alarm =>
    match run.drains.get? drain with
    | some active =>
      { run with
        now := atMs
        storage := run.storage.finishDrain backoffMs active.nowMs active.nextWakeMs alarm
        drains := run.drains.delete drain }
    | none => run

end QueueEvent

/-- A dispatch takes the first intent of a drain and leaves the others, unless it throws. -/
theorem dispatch_apply (backoffMs : ℤ) {run : QueueRun I} {drain : ℕ} {atMs : ℤ} {throws : Bool}
    (henabled : (QueueEvent.dispatch drain atMs throws).Enabled run) :
    ∃ nowMs item rest nextWakeMs persisted,
      run.drains.get? drain = some ⟨nowMs, item :: rest, nextWakeMs, persisted⟩ ∧
      (QueueEvent.dispatch drain atMs throws).apply backoffMs run =
        { run with
          now := atMs
          drains := if throws then run.drains.delete drain
            else run.drains.set drain ⟨nowMs, rest, nextWakeMs, persisted⟩
          handed := run.handed ++ [(drain, item)] } := by
  obtain ⟨⟨nowMs, remaining, nextWakeMs, persisted⟩, hactive, hne⟩ := henabled
  rw [Option.mem_def] at hactive
  cases remaining with
  | nil => exact absurd rfl hne
  | cons item rest =>
    refine ⟨nowMs, item, rest, nextWakeMs, persisted, hactive, ?_⟩
    simp only [QueueEvent.apply, hactive]

/-- A step: an enabled event at a time that is not before the last one. -/
def QueueStep (meets : QueueRun I → QueueEvent I → Prop) (run next : QueueRun I) : Prop :=
  ∃ event : QueueEvent I, event.Enabled run ∧ run.now ≤ event.time ∧ meets run event ∧
    next = event.apply backoffMs run

/-! ## The stored queue after an operation -/

/-- What an enqueue leaves in the store, whether its put is stored or not. -/
theorem queue_enqueue (storage : ExecutionQueueStorage I) (input : EnqueueInput I)
    (calls : ExecutionQueueStorage.EnqueueCalls) :
    (storage.enqueueTradingExecutionIntent backoffMs input calls).2.queue =
      if (storage.readTradingExecutionQueue backoffMs calls.read).2.guard.Stores calls.put then
        (buildExecutionQueueEnqueuePlan
          (storage.readTradingExecutionQueue backoffMs calls.read).1 input none).queue
      else storage.queue := by
  obtain ⟨read, put, alarm⟩ := calls
  cases read with
  | none => rfl
  | some error => rfl

/-- An enqueue adds at most its own intent. -/
theorem queue_enqueue_le (backoffMs : ℤ) (storage : ExecutionQueueStorage I)
    (input : EnqueueInput I)
    (calls : ExecutionQueueStorage.EnqueueCalls) :
    ((storage.enqueueTradingExecutionIntent backoffMs input calls).2.queue :
      Multiset (QueuedExecutionIntent I)) ≤ input.item ::ₘ storage.queue := by
  rw [queue_enqueue]
  split
  · have hplan := Multiset.coe_le.mpr (subperm_enqueuePlan
      (storage.readTradingExecutionQueue backoffMs calls.read).1 input)
    refine hplan.trans ?_
    rw [← Multiset.coe_add, Multiset.coe_singleton, add_comm, Multiset.singleton_add]
    cases calls.read with
    | none => exact le_refl _
    | some error => exact Multiset.cons_le_cons _ (Multiset.zero_le _)
  · exact Multiset.le_cons_self _ _

/-- An enqueue without failures adds its intent. -/
theorem perm_queue_enqueue {storage : ExecutionQueueStorage I} {input : EnqueueInput I}
    {calls : ExecutionQueueStorage.EnqueueCalls} (hroom : storage.queue.length < 1000)
    (hread : calls.read = none) (hput : storage.guard.Stores calls.put) :
    (storage.enqueueTradingExecutionIntent backoffMs input calls).2.queue.Perm
      (storage.queue ++ [input.item]) := by
  rw [queue_enqueue, hread, ExecutionQueueStorage.readTradingExecutionQueue, if_pos hput]
  exact perm_enqueuePlan input hroom

/-- The two outcomes of a drain's start. -/
theorem startDrain_cases (backoffMs : ℤ) (storage : ExecutionQueueStorage I) (nowMs : ℤ)
    (read : Option StorageError) (put : StorageCall) :
    (read = none ∧ storage.startDrain backoffMs nowMs read put =
      (some (splitExecutionQueueForDrain storage.queue nowMs),
        storage.persistQueue backoffMs
          (splitExecutionQueueForDrain storage.queue nowMs).pending put)) ∨
    ∃ after : ExecutionQueueStorage I, storage.startDrain backoffMs nowMs read put = (none, after) ∧
      after.queue = storage.queue ∧ after.alarm = storage.alarm := by
  cases read with
  | some error => exact Or.inr ⟨_, rfl, rfl, rfl⟩
  | none =>
    by_cases hempty : storage.queue = []
    · refine Or.inr ⟨storage, ?_, rfl, rfl⟩
      simp only [ExecutionQueueStorage.startDrain, ExecutionQueueStorage.readTradingExecutionQueue,
        hempty, if_true]
    · refine Or.inl ⟨rfl, ?_⟩
      simp only [ExecutionQueueStorage.startDrain, ExecutionQueueStorage.readTradingExecutionQueue,
        hempty, if_false]

@[simp] theorem queue_finishDrain (storage : ExecutionQueueStorage I) (nowMs : ℤ)
    (nextWakeMs : Option ℤ) (alarm : StorageCall) :
    (storage.finishDrain backoffMs nowMs nextWakeMs alarm).queue = storage.queue := by
  unfold ExecutionQueueStorage.finishDrain
  split <;> rfl

/-! ## Runs given by their events -/

/-- Nothing is stored and nothing under way. -/
def emptyQueueRun : QueueRun I where
  now := 0
  storage := ⟨[], none, ⟨0, 0⟩⟩
  drains := Rows.empty
  handed := []

/-- A storage call that meets no error. -/
def goodCall (atMs : ℤ) : StorageCall := ⟨atMs, none⟩

namespace QueueRun

/-- Events, one after the other. -/
def applyAll (run : QueueRun I) (events : List (QueueEvent I)) : QueueRun I :=
  events.foldl (QueueEvent.apply backoffMs) run

/-- Each event of a list is enabled, in time and meets the condition. -/
def RunsThrough (meets : QueueRun I → QueueEvent I → Prop) :
    List (QueueEvent I) → QueueRun I → Prop
  | [], _ => True
  | event :: events, run =>
    (event.Enabled run ∧ run.now ≤ event.time) ∧ meets run event ∧
      RunsThrough meets events (event.apply backoffMs run)

theorem run_applyAll {meets : QueueRun I → QueueEvent I → Prop} {events : List (QueueEvent I)}
    {run : QueueRun I} (h : RunsThrough backoffMs meets events run) :
    Relation.ReflTransGen (QueueStep backoffMs meets) run (run.applyAll backoffMs events) := by
  induction events generalizing run with
  | nil => exact .refl
  | cons event events ih =>
    obtain ⟨⟨henabled, htime⟩, hmeets, hrest⟩ := h
    exact .head ⟨event, henabled, htime, hmeets, rfl⟩ (ih hrest)

end QueueRun

end Yevow.Engine
