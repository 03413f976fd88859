import Mathlib.Data.List.Infix
import Mathlib.Data.String.Basic
import Yevow.Core.Collection.Sorting

/-!
# The execution queue in storage

Deferred intents wait in one stored list, cancels before new orders and then by wake time.
Writes go through a guard that drops them while the backoff of an earlier failure lasts.
-/

namespace Yevow.Engine

/-! ## The write guard -/

/-- Writes pause after failures. -/
structure StorageWriteGuard where
  disabledUntil : ℤ
  failures : ℕ
  deriving DecidableEq

/-- A storage call has failed. -/
structure StorageError where
  message : String
  failedAtMs : ℤ
  deriving DecidableEq

/-- A storage call: when it is made, and the error it meets. -/
structure StorageCall where
  atMs : ℤ
  error : Option StorageError
  deriving DecidableEq

private def includes (text part : String) : Bool := part.toList <:+: text.toList

/-- `isQuota`: the failure is a limit that only time lifts. -/
def isQuotaMessage (message : String) : Bool :=
  includes message "Exceeded allowed rows written" || includes message.toLower "quota" ||
    includes message.toLower "limit"

namespace StorageWriteGuard

/-- A failure, with a longer pause. -/
def recordFailure (backoffMs : ℤ) (guard : StorageWriteGuard) (error : StorageError) :
    StorageWriteGuard where
  failures := guard.failures + 1
  disabledUntil := error.failedAtMs +
    if isQuotaMessage error.message then backoffMs
    else min backoffMs ((guard.failures + 1) * 5000)

/-- The write reaches storage and does not fail there. -/
def Stores (guard : StorageWriteGuard) (call : StorageCall) : Prop :=
  guard.disabledUntil ≤ call.atMs ∧ call.error = none

instance (guard : StorageWriteGuard) (call : StorageCall) : Decidable (guard.Stores call) :=
  inferInstanceAs (Decidable (_ ∧ _))

/-- The guard after a write, which it drops without a trace while it is disabled. -/
def afterWrite (backoffMs : ℤ) (guard : StorageWriteGuard) (call : StorageCall) :
    StorageWriteGuard :=
  if call.atMs < guard.disabledUntil then guard
  else match call.error with
  | none => { guard with failures := 0 }
  | some error => guard.recordFailure backoffMs error

end StorageWriteGuard

/-! ## The queue -/

/-- The priority of an intent. -/
inductive ExecutionQueuePriority
  | cancel
  | new
  deriving DecidableEq, Repr

/-- Cancels come before orders. -/
def priorityWeight : ExecutionQueuePriority → ℤ
  | .cancel => 0
  | .new => 1

/-- A deferred intent; `I` is the type of intents, times are in milliseconds. -/
structure QueuedExecutionIntent (I : Type) where
  intent : I
  priority : ExecutionQueuePriority
  runAfterMs : ℤ
  enqueuedAt : ℤ
  deriving DecidableEq

variable {I : Type}

/-- Priority first, then time. -/
def compareExecutionQueueItems (left right : QueuedExecutionIntent I) : ℤ :=
  let priorityDelta := priorityWeight left.priority - priorityWeight right.priority
  if priorityDelta ≠ 0 then priorityDelta else left.runAfterMs - right.runAfterMs

/-- The size of the queue. -/
def defaultMaxQueueSize : ℤ := 1000

def configAlarmIntervalMs : ℤ := 5000

/-- An intent that is to wait. -/
structure EnqueueInput (I : Type) where
  intent : I
  priority : ExecutionQueuePriority
  waitMs : ℤ
  nowMs : ℤ
  deriving DecidableEq

/-- `nowMs + Math.max(0, waitMs)`. -/
def EnqueueInput.runAfterMs (input : EnqueueInput I) : ℤ := input.nowMs + max 0 input.waitMs

/-- The intent as it is queued. -/
def EnqueueInput.item (input : EnqueueInput I) : QueuedExecutionIntent I :=
  ⟨input.intent, input.priority, input.runAfterMs, input.nowMs⟩

/-- The queue with a further intent. -/
structure ExecutionQueueEnqueuePlan (I : Type) where
  queue : List (QueuedExecutionIntent I)
  runAfterMs : ℤ
  queuedCount : ℕ

/-- An intent is put in its place. -/
def buildExecutionQueueEnqueuePlan (queue : List (QueuedExecutionIntent I))
    (input : EnqueueInput I) (maxQueueSize : Option ℤ) : ExecutionQueueEnqueuePlan I :=
  let kept := (Sorting.sortBy compareExecutionQueueItems (queue ++ [input.item])).take
    (max 0 (maxQueueSize.getD defaultMaxQueueSize)).toNat
  ⟨kept, input.runAfterMs, kept.length⟩

/-- What is due and what waits on. -/
structure ExecutionQueueDrainPlan (I : Type) where
  due : List (QueuedExecutionIntent I)
  pending : List (QueuedExecutionIntent I)
  nextWakeMs : Option ℤ

/-- The queue split at a moment. -/
def splitExecutionQueueForDrain (queue : List (QueuedExecutionIntent I)) (nowMs : ℤ) :
    ExecutionQueueDrainPlan I :=
  let pending := Sorting.sortBy compareExecutionQueueItems
    (queue.filter fun item => ¬item.runAfterMs ≤ nowMs)
  { due := Sorting.sortBy compareExecutionQueueItems
      (queue.filter fun item => item.runAfterMs ≤ nowMs)
    pending := pending
    nextWakeMs := pending.head?.map QueuedExecutionIntent.runAfterMs }

/-! ## Operations on storage -/

/-- What the queue operations touch; no stored queue counts as an empty one. -/
structure ExecutionQueueStorage (I : Type) where
  queue : List (QueuedExecutionIntent I)
  alarm : Option ℤ
  guard : StorageWriteGuard

variable (backoffMs : ℤ)

namespace ExecutionQueueStorage

variable (storage : ExecutionQueueStorage I)

/-- A read that fails yields an empty queue. -/
def readTradingExecutionQueue :
    Option StorageError → List (QueuedExecutionIntent I) × ExecutionQueueStorage I
  | none => (storage.queue, storage)
  | some error => ([], { storage with guard := storage.guard.recordFailure backoffMs error })

/-- The queue is stored. -/
def persistQueue (queue : List (QueuedExecutionIntent I)) (call : StorageCall) :
    ExecutionQueueStorage I where
  queue := if storage.guard.Stores call then queue else storage.queue
  alarm := storage.alarm
  guard := storage.guard.afterWrite backoffMs call

/-- The alarm is set. -/
def setAlarm (timestampMs : ℤ) (call : StorageCall) : ExecutionQueueStorage I where
  queue := storage.queue
  alarm := if storage.guard.Stores call then some timestampMs else storage.alarm
  guard := storage.guard.afterWrite backoffMs call

/-- The storage calls of an enqueue, in order. -/
structure EnqueueCalls where
  read : Option StorageError
  put : StorageCall
  alarm : StorageCall

/-- An intent is queued and the alarm set. -/
def enqueueTradingExecutionIntent (input : EnqueueInput I) (calls : EnqueueCalls) :
    ExecutionQueueEnqueuePlan I × ExecutionQueueStorage I :=
  let (queue, afterRead) := storage.readTradingExecutionQueue backoffMs calls.read
  let plan := buildExecutionQueueEnqueuePlan queue input none
  let afterPut := afterRead.persistQueue backoffMs plan.queue calls.put
  (plan, afterPut.setAlarm backoffMs
    (min plan.runAfterMs (input.nowMs + configAlarmIntervalMs)) calls.alarm)

/-- The first half of a drain, up to the first dispatch; nothing to do on an empty queue. -/
def startDrain (nowMs : ℤ) (read : Option StorageError) (put : StorageCall) :
    Option (ExecutionQueueDrainPlan I) × ExecutionQueueStorage I :=
  let (queue, afterRead) := storage.readTradingExecutionQueue backoffMs read
  if queue = [] then (none, afterRead)
  else
    let plan := splitExecutionQueueForDrain queue nowMs
    (some plan, afterRead.persistQueue backoffMs plan.pending put)

/-- The end of a drain, after its last dispatch. -/
def finishDrain (nowMs : ℤ) (nextWakeMs : Option ℤ) (alarm : StorageCall) :
    ExecutionQueueStorage I :=
  match nextWakeMs.filter (· ≠ 0) with
  | some wakeMs => storage.setAlarm backoffMs (min wakeMs (nowMs + configAlarmIntervalMs)) alarm
  | none => storage

end ExecutionQueueStorage

/-! ## What the plans hold -/

/-- An enqueue with room for one more keeps every intent. -/
theorem perm_enqueuePlan {queue : List (QueuedExecutionIntent I)} (input : EnqueueInput I)
    (hroom : queue.length < 1000) :
    (buildExecutionQueueEnqueuePlan queue input none).queue.Perm (queue ++ [input.item]) := by
  have hlength : (Sorting.sortBy compareExecutionQueueItems (queue ++ [input.item])).length ≤
      (max 0 defaultMaxQueueSize).toNat := by
    rw [Sorting.length_sortBy, List.length_append, List.length_singleton]
    have hsize : (max 0 defaultMaxQueueSize).toNat = 1000 := by decide
    omega
  unfold buildExecutionQueueEnqueuePlan
  rw [Option.getD_none, List.take_of_length_le hlength]
  exact Sorting.perm_sortBy _ _

/-- Whatever an enqueue stores was waiting or is the new intent. -/
theorem subperm_enqueuePlan (queue : List (QueuedExecutionIntent I)) (input : EnqueueInput I) :
    (buildExecutionQueueEnqueuePlan queue input none).queue.Subperm (queue ++ [input.item]) :=
  ((List.take_sublist _ _).subperm).trans (Sorting.perm_sortBy _ _).subperm

/-- A drain divides the queue into what is due and what waits on. -/
theorem perm_splitExecutionQueueForDrain (queue : List (QueuedExecutionIntent I)) (nowMs : ℤ) :
    ((splitExecutionQueueForDrain queue nowMs).pending ++
      (splitExecutionQueueForDrain queue nowMs).due).Perm queue := by
  have hdue := Sorting.perm_sortBy compareExecutionQueueItems
    (queue.filter fun item => item.runAfterMs ≤ nowMs)
  have hpending := Sorting.perm_sortBy compareExecutionQueueItems
    (queue.filter fun item => ¬item.runAfterMs ≤ nowMs)
  refine (hpending.append hdue).trans (List.perm_append_comm.trans ?_)
  have hsplit := List.filter_append_perm (fun item => decide (item.runAfterMs ≤ nowMs)) queue
  simpa only [decide_not] using hsplit

end Yevow.Engine
