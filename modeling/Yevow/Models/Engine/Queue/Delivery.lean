import Mathlib.Algebra.Order.BigOperators.Group.List
import Mathlib.Tactic.Abel
import Yevow.Models.Engine.Queue.Runs

/-!
# Delivery of queued intents

An enqueue and a drain read the stored list, and put a new one once the read is answered; other
operations run in between. An intent is lost where an enqueue's put is dropped, where a put
overwrites what its operation has not read, and where a dispatch throws before its drain's last
intent. It is handed over again where a drain's put is dropped, and where a put writes back what
has left the list. Nothing else loses or repeats an intent.
-/

namespace Yevow.Engine

open Relation (ReflTransGen)

variable {I : Type} (backoffMs : ℤ)

/-! ## Operations that overlap -/

/-- An operation between two of its awaited calls. -/
inductive QueueOperation (I : Type)
  /-- An enqueue that has read the queue. -/
  | enqueue (input : EnqueueInput I) (queue : List (QueuedExecutionIntent I))
  /-- An enqueue that has its alarm to set. -/
  | wake (timestampMs : ℤ)
  /-- A drain that has read a queue. -/
  | drain (nowMs : ℤ) (queue : List (QueuedExecutionIntent I))
  /-- A drain that hands over what is due. -/
  | handOver (active : ActiveDrain I)

/-- The intents that an operation is still to hand over. -/
def QueueOperation.remaining : QueueOperation I → Multiset (QueuedExecutionIntent I)
  | handOver active => active.remaining
  | _ => 0

/-- Those of them that its put has taken out of the stored queue. -/
def QueueOperation.owed : QueueOperation I → Multiset (QueuedExecutionIntent I)
  | handOver active => if active.persisted = true then active.remaining else 0
  | _ => 0

/-- The queue that an enqueue adds its intent to. -/
def QueueOperation.waiting : QueueOperation I → List (QueuedExecutionIntent I)
  | enqueue _ queue => queue
  | _ => []

/-- A put loses no stored intent: an enqueue's is stored, and it replaces only what was read. -/
def QueueOperation.KeepsStored (storage : ExecutionQueueStorage I) (call : StorageCall) :
    QueueOperation I → Prop
  | enqueue _ queue => storage.guard.Stores call ∧
    (storage.queue : Multiset (QueuedExecutionIntent I)) ≤ queue
  | drain _ queue => storage.guard.Stores call →
    (storage.queue : Multiset (QueuedExecutionIntent I)) ≤ queue
  | _ => True

/-- A put restores no intent: what was read is still stored, and a drain with an intent to hand
over has its put stored. -/
def QueueOperation.WritesNothingBack (storage : ExecutionQueueStorage I) (call : StorageCall) :
    QueueOperation I → Prop
  | enqueue _ queue => storage.guard.Stores call →
    (queue : Multiset (QueuedExecutionIntent I)) ≤ storage.queue
  | drain nowMs queue =>
    (storage.guard.Stores call → (queue : Multiset (QueuedExecutionIntent I)) ≤ storage.queue) ∧
      ((∃ item ∈ queue, item.runAfterMs ≤ nowMs) → storage.guard.Stores call)
  | _ => True

instance [DecidableEq I] (storage : ExecutionQueueStorage I) (call : StorageCall) :
    (operation : QueueOperation I) → Decidable (operation.KeepsStored storage call)
  | .enqueue _ _ => inferInstanceAs (Decidable (_ ∧ _))
  | .drain _ _ => inferInstanceAs (Decidable (_ → _))
  | .wake _ | .handOver _ => isTrue trivial

instance [DecidableEq I] (storage : ExecutionQueueStorage I) (call : StorageCall) :
    (operation : QueueOperation I) → Decidable (operation.WritesNothingBack storage call)
  | .enqueue _ _ => inferInstanceAs (Decidable (_ → _))
  | .drain _ _ => inferInstanceAs (Decidable (_ ∧ (_ → _)))
  | .wake _ | .handOver _ => isTrue trivial

/-- The queue, the operations under way and, as history, what was accepted and handed over. -/
structure QueueState (I : Type) where
  storage : ExecutionQueueStorage I
  operations : Rows ℕ (QueueOperation I)
  accepted : Multiset (QueuedExecutionIntent I)
  handed : List (ℕ × QueuedExecutionIntent I)

/-- A call of an operation is answered; `throws` says that the dispatch throws. -/
inductive QueueCall (I : Type)
  | readToEnqueue (operation : ℕ) (input : EnqueueInput I) (read : Option StorageError)
  | readToDrain (operation : ℕ) (nowMs : ℤ) (read : Option StorageError)
  | put (operation : ℕ) (call : StorageCall)
  | dispatch (operation : ℕ) (throws : Bool)
  | setAlarm (operation : ℕ) (call : StorageCall)

namespace QueueCall

/-- A new operation has a name of its own. -/
def Enabled (state : QueueState I) : QueueCall I → Prop
  | readToEnqueue operation _ _ | readToDrain operation _ _ =>
    state.operations.get? operation = none ∧ operation ∉ state.handed.map Prod.fst
  | _ => True

instance (state : QueueState I) : (call : QueueCall I) → Decidable (call.Enabled state)
  | readToEnqueue _ _ _ | readToDrain _ _ _ => inferInstanceAs (Decidable (_ ∧ _))
  | put _ _ | dispatch _ _ | setAlarm _ _ => isTrue trivial

/-- The state after a call; an operation that is not at this call does nothing. -/
def apply (state : QueueState I) : QueueCall I → QueueState I
  | readToEnqueue operation input read =>
    let (queue, storage) := state.storage.readTradingExecutionQueue backoffMs read
    { state with
      storage := storage
      operations := state.operations.set operation (.enqueue input queue) }
  | readToDrain operation nowMs read =>
    let (queue, storage) := state.storage.readTradingExecutionQueue backoffMs read
    { state with
      storage := storage
      operations := if queue = [] then state.operations
        else state.operations.set operation (.drain nowMs queue) }
  | put operation call =>
    match state.operations.get? operation with
    | some (.enqueue input queue) =>
      let plan := buildExecutionQueueEnqueuePlan queue input none
      { state with
        storage := state.storage.persistQueue backoffMs plan.queue call
        operations := state.operations.set operation
          (.wake (min plan.runAfterMs (input.nowMs + configAlarmIntervalMs)))
        accepted := input.item ::ₘ state.accepted }
    | some (.drain nowMs queue) =>
      let plan := splitExecutionQueueForDrain queue nowMs
      { state with
        storage := state.storage.persistQueue backoffMs plan.pending call
        operations := state.operations.set operation
          (.handOver ⟨nowMs, plan.due, plan.nextWakeMs, state.storage.guard.Stores call⟩) }
    | _ => state
  | dispatch operation throws =>
    match state.operations.get? operation with
    | some (.handOver ⟨nowMs, item :: rest, nextWakeMs, persisted⟩) =>
      { state with
        operations := if throws then state.operations.delete operation
          else state.operations.set operation (.handOver ⟨nowMs, rest, nextWakeMs, persisted⟩)
        handed := state.handed ++ [(operation, item)] }
    | _ => state
  | setAlarm operation call =>
    match state.operations.get? operation with
    | some (.wake timestampMs) =>
      { state with
        storage := state.storage.setAlarm backoffMs timestampMs call
        operations := state.operations.delete operation }
    | some (.handOver ⟨nowMs, [], nextWakeMs, _⟩) =>
      { state with
        storage := state.storage.finishDrain backoffMs nowMs nextWakeMs call
        operations := state.operations.delete operation }
    | _ => state

/-- At most 1000 intents wait after the call. -/
def HasRoom (state : QueueState I) : QueueCall I → Prop
  | put operation _ => ∀ current ∈ state.operations.get? operation, current.waiting.length < 1000
  | _ => True

instance (state : QueueState I) : (call : QueueCall I) → Decidable (call.HasRoom state)
  | put operation _ => inferInstanceAs (Decidable (∀ current ∈ state.operations.get? operation, _))
  | readToEnqueue _ _ _ | readToDrain _ _ _ | dispatch _ _ | setAlarm _ _ => isTrue trivial

/-- An enqueue's put is stored; no put that is stored overwrites an intent its operation has not
read; and a dispatch of a drain whose put was stored throws at most on the last intent. -/
def KeepsAccepted (state : QueueState I) : QueueCall I → Prop
  | put operation call =>
    ∀ current ∈ state.operations.get? operation, current.KeepsStored state.storage call
  | dispatch operation throws =>
    throws = true → ∀ current ∈ state.operations.get? operation, current.owed.card ≤ 1
  | _ => True

/-- No put that is stored writes back an intent that has left the queue since its operation read
it, and the put of a drain that has read a due intent is stored. -/
def HandsOnce (state : QueueState I) : QueueCall I → Prop
  | put operation call =>
    ∀ current ∈ state.operations.get? operation, current.WritesNothingBack state.storage call
  | _ => True

variable [DecidableEq I]

instance (state : QueueState I) : (call : QueueCall I) → Decidable (call.KeepsAccepted state)
  | put operation _ => inferInstanceAs (Decidable (∀ current ∈ state.operations.get? operation, _))
  | dispatch operation _ => inferInstanceAs
    (Decidable (_ → ∀ current ∈ state.operations.get? operation, _))
  | readToEnqueue _ _ _ | readToDrain _ _ _ | setAlarm _ _ => isTrue trivial

instance (state : QueueState I) : (call : QueueCall I) → Decidable (call.HandsOnce state)
  | put operation _ => inferInstanceAs (Decidable (∀ current ∈ state.operations.get? operation, _))
  | readToEnqueue _ _ _ | readToDrain _ _ _ | dispatch _ _ | setAlarm _ _ => isTrue trivial

end QueueCall

namespace QueueState

variable (state : QueueState I)

/-- The intents that drains are still to hand over. -/
def inFlight : Multiset (QueuedExecutionIntent I) := state.operations.total QueueOperation.remaining

/-- The intents in flight that a stored put has taken out of the queue. -/
def owed : Multiset (QueuedExecutionIntent I) := state.operations.total QueueOperation.owed

/-- The intents handed over so far, by any drain. -/
def handedItems : Multiset (QueuedExecutionIntent I) :=
  (state.handed.map Prod.snd : Multiset (QueuedExecutionIntent I))

/-- Nothing is under way, and what is stored is what was accepted. -/
def Initial : Prop :=
  state.operations = Rows.empty ∧ state.handed = [] ∧
    state.accepted = (state.storage.queue : Multiset (QueuedExecutionIntent I))

end QueueState

/-- A step: an enabled call that meets a condition. -/
def QueueCallStep (meets : QueueState I → QueueCall I → Prop) (state next : QueueState I) : Prop :=
  ∃ call : QueueCall I, call.Enabled state ∧ meets state call ∧ next = call.apply backoffMs state

variable {backoffMs} {state : QueueState I}

/-! ## Operations that nothing interrupts -/

/-- The calls of an enqueue, one after the other, are the enqueue as a whole. -/
theorem storage_apply_enqueue (state : QueueState I) (operation : ℕ) (input : EnqueueInput I)
    (calls : ExecutionQueueStorage.EnqueueCalls) :
    ([.readToEnqueue operation input calls.read, .put operation calls.put,
        .setAlarm operation calls.alarm].foldl (QueueCall.apply backoffMs) state).storage =
      (state.storage.enqueueTradingExecutionIntent backoffMs input calls).2 := by
  simp only [List.foldl_cons, List.foldl_nil, QueueCall.apply, Rows.get?_set_self,
    ExecutionQueueStorage.enqueueTradingExecutionIntent]

/-- The read and the put of a drain, one after the other, are its start as a whole. -/
theorem storage_apply_drain (state : QueueState I) {operation : ℕ} {nowMs : ℤ}
    {read : Option StorageError} {put : StorageCall}
    (henabled : (QueueCall.readToDrain operation nowMs read).Enabled state) :
    ([.readToDrain operation nowMs read, .put operation put].foldl
        (QueueCall.apply backoffMs) state).storage =
      (state.storage.startDrain backoffMs nowMs read put).2 := by
  simp only [List.foldl_cons, List.foldl_nil, QueueCall.apply, ExecutionQueueStorage.startDrain]
  by_cases hempty : (state.storage.readTradingExecutionQueue backoffMs read).1 = []
  · simp only [if_pos hempty, henabled.1]
  · simp only [if_neg hempty, Rows.get?_set_self]

/-! ## What a call changes -/

private theorem total_set_of_elim {f : QueueOperation I → Multiset (QueuedExecutionIntent I)}
    {operations : Rows ℕ (QueueOperation I)} {operation : ℕ}
    (h : (operations.get? operation).elim 0 f = 0) (value : QueueOperation I) :
    (operations.set operation value).total f = f value + operations.total f := by
  rw [Rows.total_set, Rows.total_eq_add_delete f operations operation, h, zero_add]

private theorem total_delete_of_elim {f : QueueOperation I → Multiset (QueuedExecutionIntent I)}
    {operations : Rows ℕ (QueueOperation I)} {operation : ℕ}
    (h : (operations.get? operation).elim 0 f = 0) :
    (operations.delete operation).total f = operations.total f := by
  rw [Rows.total_eq_add_delete f operations operation, h, zero_add]

private theorem QueueState.owed_le_inFlight (state : QueueState I) :
    state.owed ≤ state.inFlight := by
  unfold QueueState.owed QueueState.inFlight Rows.total
  apply List.sum_le_sum
  rintro ⟨name, operation⟩ -
  cases operation with
  | handOver active =>
    show (if _ then _ else _) ≤ (active.remaining : Multiset (QueuedExecutionIntent I))
    split
    · exact le_refl _
    · exact Multiset.zero_le _
  | _ => exact le_refl _

/-- No intent moves between the queue, the drains and the history. -/
private structure SameIntents (state next : QueueState I) : Prop where
  queue : next.storage.queue = state.storage.queue
  inFlight : next.inFlight = state.inFlight
  owed : next.owed = state.owed
  accepted : next.accepted = state.accepted
  handed : next.handed = state.handed

private theorem SameIntents.refl (state : QueueState I) : SameIntents state state :=
  ⟨rfl, rfl, rfl, rfl, rfl⟩

private theorem queue_read (backoffMs : ℤ) (storage : ExecutionQueueStorage I)
    (read : Option StorageError) :
    (storage.readTradingExecutionQueue backoffMs read).2.queue = storage.queue := by
  cases read <;> rfl

private theorem sameIntents_readToEnqueue {operation : ℕ} {input : EnqueueInput I}
    {read : Option StorageError}
    (henabled : (QueueCall.readToEnqueue operation input read).Enabled state) :
    SameIntents state ((QueueCall.readToEnqueue operation input read).apply backoffMs state) where
  queue := queue_read backoffMs state.storage read
  inFlight := (total_set_of_elim (by rw [henabled.1]; rfl) _).trans (zero_add _)
  owed := (total_set_of_elim (by rw [henabled.1]; rfl) _).trans (zero_add _)
  accepted := rfl
  handed := rfl

private theorem sameIntents_readToDrain {operation : ℕ} {nowMs : ℤ} {read : Option StorageError}
    (henabled : (QueueCall.readToDrain operation nowMs read).Enabled state) :
    SameIntents state ((QueueCall.readToDrain operation nowMs read).apply backoffMs state) := by
  have hkeep : ∀ f : QueueOperation I → Multiset (QueuedExecutionIntent I),
      (∀ queue, f (.drain nowMs queue) = 0) →
      ((QueueCall.readToDrain operation nowMs read).apply backoffMs state).operations.total f =
        state.operations.total f := by
    intro f hf
    simp only [QueueCall.apply]
    split
    · rfl
    · rw [total_set_of_elim (by rw [henabled.1]; rfl), hf, zero_add]
  exact ⟨queue_read backoffMs state.storage read, hkeep _ fun _ => rfl, hkeep _ fun _ =>
    rfl, rfl, rfl⟩

private theorem sameIntents_setAlarm (operation : ℕ) (call : StorageCall) :
    SameIntents state ((QueueCall.setAlarm operation call).apply backoffMs state) := by
  rcases hop : state.operations.get? operation with
    _ | ⟨_ | ⟨timestampMs⟩ | _ | ⟨⟨nowMs, _ | ⟨item, rest⟩, nextWakeMs, persisted⟩⟩⟩
  all_goals simp only [QueueCall.apply, hop]
  · exact SameIntents.refl state
  · exact SameIntents.refl state
  · exact ⟨rfl, total_delete_of_elim (by rw [hop]; rfl), total_delete_of_elim (by rw [hop]; rfl),
      rfl, rfl⟩
  · exact SameIntents.refl state
  · refine ⟨queue_finishDrain _ _ _ _ _, total_delete_of_elim (by rw [hop]; rfl),
      total_delete_of_elim ?_, rfl, rfl⟩
    rw [hop]
    exact ite_self _
  · exact SameIntents.refl state

/-- A dispatch takes the first intent of a drain and leaves the others, unless it throws. -/
private theorem dispatch_cases (backoffMs : ℤ) (state : QueueState I) (operation : ℕ)
    (throws : Bool) :
    (QueueCall.dispatch operation throws).apply backoffMs state = state ∨
    ∃ nowMs item rest nextWakeMs persisted,
      state.operations.get? operation =
        some (.handOver ⟨nowMs, item :: rest, nextWakeMs, persisted⟩) ∧
      (QueueCall.dispatch operation throws).apply backoffMs state =
        { state with
          operations := if throws then state.operations.delete operation
            else state.operations.set operation (.handOver ⟨nowMs, rest, nextWakeMs, persisted⟩)
          handed := state.handed ++ [(operation, item)] } := by
  rcases hop : state.operations.get? operation with
    _ | ⟨_ | _ | _ | ⟨⟨nowMs, _ | ⟨item, rest⟩, nextWakeMs, persisted⟩⟩⟩
  all_goals simp only [QueueCall.apply, hop]
  case some.handOver.cons =>
    exact Or.inr ⟨nowMs, item, rest, nextWakeMs, persisted, rfl, rfl⟩
  all_goals exact Or.inl trivial

private theorem handedItems_append (handed : List (ℕ × QueuedExecutionIntent I)) (operation : ℕ)
    (item : QueuedExecutionIntent I) :
    (((handed ++ [(operation, item)]).map Prod.snd : List (QueuedExecutionIntent I)) :
      Multiset (QueuedExecutionIntent I)) =
      ((handed.map Prod.snd : List (QueuedExecutionIntent I)) :
        Multiset (QueuedExecutionIntent I)) + {item} := by
  rw [List.map_append, ← Multiset.coe_add]
  rfl

/-- A plan for what was read and one more holds nothing else. -/
private theorem enqueuePlan_le (queue : List (QueuedExecutionIntent I)) (input : EnqueueInput I) :
    ((buildExecutionQueueEnqueuePlan queue input none).queue :
      Multiset (QueuedExecutionIntent I)) ≤ input.item ::ₘ queue := by
  refine (Multiset.coe_le.mpr (subperm_enqueuePlan queue input)).trans (le_of_eq ?_)
  rw [← Multiset.coe_add, Multiset.coe_singleton, add_comm, Multiset.singleton_add]

private theorem coe_enqueuePlan {queue : List (QueuedExecutionIntent I)} (input : EnqueueInput I)
    (hroom : queue.length < 1000) :
    ((buildExecutionQueueEnqueuePlan queue input none).queue :
      Multiset (QueuedExecutionIntent I)) = input.item ::ₘ queue := by
  rw [Multiset.coe_eq_coe.mpr (perm_enqueuePlan input hroom), ← Multiset.coe_add,
    Multiset.coe_singleton, add_comm, Multiset.singleton_add]

private theorem coe_splitExecutionQueueForDrain (queue : List (QueuedExecutionIntent I))
    (nowMs : ℤ) :
    ((splitExecutionQueueForDrain queue nowMs).pending : Multiset (QueuedExecutionIntent I)) +
      ((splitExecutionQueueForDrain queue nowMs).due : Multiset (QueuedExecutionIntent I)) =
        queue := by
  rw [Multiset.coe_add, Multiset.coe_eq_coe.mpr (perm_splitExecutionQueueForDrain queue nowMs)]

/-! ## Nothing is lost -/

namespace QueueState

/-- Every accepted intent is stored, owed by a drain, or was handed over. -/
def Kept (state : QueueState I) : Prop :=
  state.accepted ≤ state.storage.queue + state.owed + state.handedItems

private theorem Kept.of_sameIntents {next : QueueState I} (h : state.Kept)
    (hsame : SameIntents state next) : next.Kept := by
  unfold Kept handedItems
  rw [hsame.queue, hsame.owed, hsame.accepted, hsame.handed]
  exact h

private theorem Kept.put (h : state.Kept) {operation : ℕ} {call : StorageCall}
    (hroom : (QueueCall.put operation call).HasRoom state)
    (hkeeps : (QueueCall.put operation call).KeepsAccepted state) :
    ((QueueCall.put operation call).apply backoffMs state).Kept := by
  rcases hop : state.operations.get? operation with
    _ | ⟨⟨input, queue⟩ | _ | ⟨nowMs, queue⟩ | _⟩
  all_goals simp only [QueueCall.apply, hop]
  case some.enqueue =>
    obtain ⟨hstores, hread⟩ := hkeeps _ hop
    have hqueue : queue.length < 1000 := hroom _ hop
    unfold Kept owed
    simp only [ExecutionQueueStorage.persistQueue, if_pos hstores, coe_enqueuePlan input hqueue]
    rw [total_set_of_elim (by rw [hop]; rfl)]
    calc input.item ::ₘ state.accepted
        ≤ input.item ::ₘ (state.storage.queue + state.owed + state.handedItems) :=
          Multiset.cons_le_cons _ h
      _ ≤ input.item ::ₘ (queue + state.owed + state.handedItems) :=
          Multiset.cons_le_cons _ (add_le_add_left (add_le_add_left hread _) _)
      _ = input.item ::ₘ queue + (0 + state.owed) + state.handedItems := by
          rw [Multiset.cons_add, Multiset.cons_add, zero_add]
  case some.drain =>
    unfold Kept owed
    simp only [ExecutionQueueStorage.persistQueue]
    rw [total_set_of_elim (by rw [hop]; rfl)]
    by_cases hstores : state.storage.guard.Stores call
    · have hsplit := coe_splitExecutionQueueForDrain queue nowMs
      rw [if_pos hstores, QueueOperation.owed, if_pos (decide_eq_true hstores), ← add_assoc, hsplit]
      exact h.trans (add_le_add_left (add_le_add_left (hkeeps _ hop hstores) _) _)
    · rw [if_neg hstores, QueueOperation.owed, if_neg (by simpa using hstores), zero_add]
      exact h
  all_goals exact h

private theorem owed_dispatch {operation : ℕ} {throws : Bool} {nowMs : ℤ}
    {item : QueuedExecutionIntent I} {rest : List (QueuedExecutionIntent I)}
    {nextWakeMs : Option ℤ} {persisted : Bool}
    (hactive : state.operations.get? operation =
      some (.handOver ⟨nowMs, item :: rest, nextWakeMs, persisted⟩))
    (hlast : throws = true → persisted = true → rest = []) :
    state.owed ≤ (if throws then state.operations.delete operation
        else state.operations.set operation (.handOver ⟨nowMs, rest, nextWakeMs, persisted⟩)).total
      QueueOperation.owed + {item} := by
  unfold owed
  rw [Rows.total_eq_add_delete _ state.operations operation, hactive, Option.elim_some,
    QueueOperation.owed]
  cases persisted with
  | false =>
    rw [if_neg Bool.false_ne_true, zero_add]
    refine le_add_of_le_of_nonneg ?_ (Multiset.zero_le _)
    cases throws with
    | true => exact le_refl _
    | false =>
      rw [if_neg Bool.false_ne_true, Rows.total_set]
      exact le_add_of_nonneg_left (Multiset.zero_le _)
  | true =>
    rw [if_pos rfl, ← Multiset.cons_coe, ← Multiset.singleton_add]
    cases throws with
    | true => rw [hlast rfl rfl, Multiset.coe_nil, add_zero, if_pos rfl, add_comm]
    | false =>
      rw [if_neg Bool.false_ne_true, Rows.total_set, QueueOperation.owed, if_pos rfl]
      exact le_of_eq (by abel)

private theorem Kept.dispatch (h : state.Kept) {operation : ℕ} {throws : Bool}
    (hkeeps : (QueueCall.dispatch operation throws).KeepsAccepted state) :
    ((QueueCall.dispatch operation throws).apply backoffMs state).Kept := by
  rcases dispatch_cases backoffMs state operation throws with
    hsame | ⟨nowMs, item, rest, nextWakeMs, persisted, hactive, happly⟩
  · rwa [hsame]
  · have hlast : throws = true → persisted = true → rest = [] := by
      intro hthrows hpersisted
      have hlength := hkeeps hthrows _ hactive
      rw [QueueOperation.owed, if_pos hpersisted, Multiset.coe_card, List.length_cons] at hlength
      exact List.eq_nil_of_length_eq_zero (by omega)
    rw [happly]
    unfold Kept handedItems
    rw [handedItems_append]
    calc state.accepted
        ≤ state.storage.queue + state.owed + state.handedItems := h
      _ ≤ state.storage.queue + (_ + {item}) + state.handedItems :=
          add_le_add_left (add_le_add_right (owed_dispatch hactive hlast) _) _
      _ = _ := by
          unfold owed handedItems
          abel

/-- No call that meets its condition loses an intent. -/
private theorem Kept.apply (h : state.Kept) {call : QueueCall I} (henabled : call.Enabled state)
    (hroom : call.HasRoom state) (hkeeps : call.KeepsAccepted state) :
    (call.apply backoffMs state).Kept := by
  cases call with
  | readToEnqueue operation input read =>
    exact h.of_sameIntents (sameIntents_readToEnqueue henabled)
  | readToDrain operation nowMs read => exact h.of_sameIntents (sameIntents_readToDrain henabled)
  | put operation call => exact h.put hroom hkeeps
  | dispatch operation throws => exact h.dispatch hkeeps
  | setAlarm operation call => exact h.of_sameIntents (sameIntents_setAlarm operation call)

/-! ## Nothing is handed over twice -/

/-- No intent is stored, in flight or handed over more often than it was accepted. -/
def Single (state : QueueState I) : Prop :=
  state.storage.queue + state.inFlight + state.handedItems ≤ state.accepted

private theorem Single.of_sameIntents {next : QueueState I} (h : state.Single)
    (hsame : SameIntents state next) : next.Single := by
  unfold Single handedItems
  rw [hsame.queue, hsame.inFlight, hsame.accepted, hsame.handed]
  exact h

private theorem Single.put (h : state.Single) {operation : ℕ} {call : StorageCall}
    (honce : (QueueCall.put operation call).HandsOnce state) :
    ((QueueCall.put operation call).apply backoffMs state).Single := by
  rcases hop : state.operations.get? operation with
    _ | ⟨⟨input, queue⟩ | _ | ⟨nowMs, queue⟩ | _⟩
  all_goals simp only [QueueCall.apply, hop]
  case some.enqueue =>
    have hqueue : ((if state.storage.guard.Stores call then
          (buildExecutionQueueEnqueuePlan queue input none).queue else state.storage.queue :
        List (QueuedExecutionIntent I)) : Multiset (QueuedExecutionIntent I)) ≤
          input.item ::ₘ state.storage.queue := by
      split
      · rename_i hstores
        exact (enqueuePlan_le queue input).trans (Multiset.cons_le_cons _ (honce _ hop hstores))
      · exact Multiset.le_cons_self _ _
    unfold Single inFlight
    simp only [ExecutionQueueStorage.persistQueue]
    rw [total_set_of_elim (by rw [hop]; rfl)]
    calc _ ≤ input.item ::ₘ state.storage.queue + (0 + state.inFlight) + state.handedItems :=
          add_le_add_left (add_le_add_left hqueue _) _
      _ = input.item ::ₘ (state.storage.queue + state.inFlight + state.handedItems) := by
          rw [Multiset.cons_add, Multiset.cons_add, zero_add]
      _ ≤ input.item ::ₘ state.accepted := Multiset.cons_le_cons _ h
  case some.drain =>
    obtain ⟨hwritten, hdue⟩ := honce _ hop
    have hsplit := coe_splitExecutionQueueForDrain queue nowMs
    unfold Single inFlight
    simp only [ExecutionQueueStorage.persistQueue]
    rw [total_set_of_elim (by rw [hop]; rfl), QueueOperation.remaining, ← add_assoc]
    by_cases hstores : state.storage.guard.Stores call
    · rw [if_pos hstores, hsplit]
      exact (add_le_add_left (add_le_add_left (hwritten hstores) _) _).trans h
    · -- Nothing is due, so that the stored queue may stay as it is.
      have hnone : (splitExecutionQueueForDrain queue nowMs).due = [] := by
        rw [List.eq_nil_iff_forall_not_mem]
        intro item hitem
        have hmem := (Sorting.perm_sortBy _ _).mem_iff.mp hitem
        rw [List.mem_filter, decide_eq_true_eq] at hmem
        exact hstores (hdue ⟨item, hmem⟩)
      rw [if_neg hstores, hnone, Multiset.coe_nil, add_zero]
      exact h
  all_goals exact h

/-- After a dispatch no drain holds its intent in flight. -/
private theorem inFlight_dispatch {operation : ℕ} (throws : Bool) {nowMs : ℤ}
    {item : QueuedExecutionIntent I} {rest : List (QueuedExecutionIntent I)}
    {nextWakeMs : Option ℤ} {persisted : Bool}
    (hactive : state.operations.get? operation =
      some (.handOver ⟨nowMs, item :: rest, nextWakeMs, persisted⟩)) :
    (if throws then state.operations.delete operation
        else state.operations.set operation (.handOver ⟨nowMs, rest, nextWakeMs, persisted⟩)).total
      QueueOperation.remaining + {item} ≤ state.inFlight := by
  unfold inFlight
  rw [Rows.total_eq_add_delete _ state.operations operation, hactive, Option.elim_some,
    QueueOperation.remaining, ← Multiset.cons_coe, ← Multiset.singleton_add]
  cases throws with
  | true =>
    rw [if_pos rfl, add_comm]
    exact add_le_add_left (le_add_of_nonneg_right (Multiset.zero_le _)) _
  | false =>
    rw [if_neg Bool.false_ne_true, Rows.total_set, QueueOperation.remaining]
    exact le_of_eq (by abel)

private theorem Single.dispatch (h : state.Single) (operation : ℕ) (throws : Bool) :
    ((QueueCall.dispatch operation throws).apply backoffMs state).Single := by
  rcases dispatch_cases backoffMs state operation throws with
    hsame | ⟨nowMs, item, rest, nextWakeMs, persisted, hactive, happly⟩
  · rwa [hsame]
  · have hflight := inFlight_dispatch throws hactive
    rw [happly]
    unfold Single handedItems
    rw [handedItems_append]
    calc _ = state.storage.queue + (_ + {item}) + state.handedItems := by
          unfold inFlight handedItems
          abel
      _ ≤ state.storage.queue + state.inFlight + state.handedItems :=
          add_le_add_left (add_le_add_right hflight _) _
      _ ≤ state.accepted := h

/-- No call that meets its condition repeats an intent. -/
private theorem Single.apply (h : state.Single) {call : QueueCall I} (henabled : call.Enabled state)
    (honce : call.HandsOnce state) : (call.apply backoffMs state).Single := by
  cases call with
  | readToEnqueue operation input read =>
    exact h.of_sameIntents (sameIntents_readToEnqueue henabled)
  | readToDrain operation nowMs read => exact h.of_sameIntents (sameIntents_readToDrain henabled)
  | put operation call => exact h.put honce
  | dispatch operation throws => exact h.dispatch operation throws
  | setAlarm operation call => exact h.of_sameIntents (sameIntents_setAlarm operation call)

/-! ## Runs -/

variable {meets : QueueState I → QueueCall I → Prop} {initial : QueueState I}

private theorem Initial.kept_of_run (hinit : initial.Initial)
    (hmeets : ∀ state call, meets state call → call.HasRoom state ∧ call.KeepsAccepted state)
    (hrun : ReflTransGen (QueueCallStep backoffMs meets) initial state) : state.Kept := by
  induction hrun with
  | refl =>
    obtain ⟨-, -, haccepted⟩ := hinit
    unfold Kept
    rw [haccepted, add_assoc]
    exact le_add_of_nonneg_right (Multiset.zero_le _)
  | tail _ hstep ih =>
    obtain ⟨call, henabled, hcond, rfl⟩ := hstep
    obtain ⟨hroom, hkeeps⟩ := hmeets _ _ hcond
    exact ih.apply henabled hroom hkeeps

private theorem Initial.single_of_run (hinit : initial.Initial)
    (hmeets : ∀ state call, meets state call → call.HandsOnce state)
    (hrun : ReflTransGen (QueueCallStep backoffMs meets) initial state) : state.Single := by
  induction hrun with
  | refl =>
    obtain ⟨hoperations, hhanded, haccepted⟩ := hinit
    unfold Single inFlight handedItems
    rw [haccepted, hoperations, hhanded, Rows.total_empty]
    simp only [List.map_nil, Multiset.coe_nil, add_zero]
    exact le_refl _
  | tail _ hstep ih =>
    obtain ⟨call, henabled, hcond, rfl⟩ := hstep
    exact ih.apply henabled (hmeets _ _ hcond)

/-- Two drains that hand over one intent account for two acceptances of it. -/
private theorem pair_le_handedItems {first second : ℕ} {item : QueuedExecutionIntent I}
    (hfirst : (first, item) ∈ state.handed) (hsecond : (second, item) ∈ state.handed)
    (hne : first ≠ second) : {item, item} ≤ state.handedItems := by
  obtain ⟨before, after, hhanded⟩ := List.append_of_mem hfirst
  unfold handedItems
  rw [hhanded] at hsecond ⊢
  have hrest : (second, item) ∈ before ++ after := by
    rcases List.mem_append.mp hsecond with hbefore | hafter
    · exact List.mem_append_left _ hbefore
    · rcases List.mem_cons.mp hafter with hsame | hafter
      · exact absurd (congrArg Prod.fst hsame).symm hne
      · exact List.mem_append_right _ hafter
  have hperm : (before ++ (first, item) :: after).Perm ((first, item) :: (before ++ after)) :=
    List.perm_middle
  rw [Multiset.coe_eq_coe.mpr (hperm.map Prod.snd), List.map_cons, ← Multiset.cons_coe]
  refine Multiset.cons_le_cons _ (Multiset.singleton_le.mpr ?_)
  exact Multiset.mem_coe.mpr (List.mem_map_of_mem hrest)

end QueueState

/-- In a run whose enqueues are stored, whose puts overwrite nothing their operations have not
read and whose dispatches throw at most on their drain's last intent, every accepted intent is
stored, in flight or handed over; in a run whose drains store what they take and whose puts write
nothing back, no intent is handed over more often than it was accepted, so two drains hand it
over only if it was accepted twice. -/
theorem accepted_kept_and_handed_once {initial : QueueState I} (hinit : initial.Initial) :
    (∀ state, ReflTransGen (QueueCallStep backoffMs fun state call =>
        call.HasRoom state ∧ call.KeepsAccepted state) initial state →
      state.accepted ≤ state.storage.queue + state.inFlight + state.handedItems ∧
        (state.inFlight = 0 → state.accepted ≤ state.storage.queue + state.handedItems)) ∧
    ∀ state, ReflTransGen (QueueCallStep backoffMs fun state call => call.HandsOnce state)
        initial state →
      state.handedItems ≤ state.accepted ∧
        ∀ first second item, (first, item) ∈ state.handed → (second, item) ∈ state.handed →
          first ≠ second → {item, item} ≤ state.accepted := by
  constructor
  · intro state hrun
    have hkept := hinit.kept_of_run (fun _ _ h => h) hrun
    have hflight : state.accepted ≤ state.storage.queue + state.inFlight + state.handedItems :=
      hkept.trans (add_le_add_left (add_le_add_right state.owed_le_inFlight _) _)
    refine ⟨hflight, fun hnone => ?_⟩
    rw [hnone, add_zero] at hflight
    exact hflight
  · intro state hrun
    have hsingle := hinit.single_of_run (fun _ _ h => h) hrun
    have hhanded : state.handedItems ≤ state.accepted :=
      (le_add_of_nonneg_left (Multiset.zero_le _)).trans hsingle
    refine ⟨hhanded, fun first second item hfirst hsecond hne => ?_⟩
    exact (QueueState.pair_le_handedItems hfirst hsecond hne).trans hhanded

/-! ## Concrete runs -/

/-- Nothing is stored and nothing under way. -/
private def emptyQueueState : QueueState String where
  storage := ⟨[], none, ⟨0, 0⟩⟩
  operations := Rows.empty
  accepted := 0
  handed := []

private theorem emptyQueueState_initial : emptyQueueState.Initial := ⟨rfl, rfl, rfl⟩

private def afterCalls (calls : List (QueueCall String)) : QueueState String :=
  calls.foldl (QueueCall.apply 60000) emptyQueueState

/-- Each call of a list is enabled and meets the condition. -/
private def Runs (meets : QueueState String → QueueCall String → Prop) :
    List (QueueCall String) → QueueState String → Prop
  | [], _ => True
  | call :: calls, state =>
    call.Enabled state ∧ meets state call ∧ Runs meets calls (call.apply 60000 state)

private instance decidableRuns (meets : QueueState String → QueueCall String → Prop)
    [∀ state call, Decidable (meets state call)] :
    (calls : List (QueueCall String)) → (state : QueueState String) →
      Decidable (Runs meets calls state)
  | [], _ => isTrue trivial
  | _ :: calls, _ =>
    have := decidableRuns meets calls
    inferInstanceAs (Decidable (_ ∧ _ ∧ _))

private theorem Runs.reaches {meets : QueueState String → QueueCall String → Prop}
    {calls : List (QueueCall String)} {state : QueueState String} (h : Runs meets calls state) :
    ReflTransGen (QueueCallStep 60000 meets) state
      (calls.foldl (QueueCall.apply 60000) state) := by
  induction calls generalizing state with
  | nil => exact .refl
  | cons call calls ih => exact .head ⟨call, h.1, h.2.1, rfl⟩ (ih h.2.2)

private def dueAt (intent : String) (nowMs : ℤ) : EnqueueInput String := ⟨intent, .new, 0, nowMs⟩

/-- An enqueue that no other operation interrupts. -/
private def enqueueAt (operation : ℕ) (intent : String) (nowMs : ℤ) : List (QueueCall String) :=
  [.readToEnqueue operation (dueAt intent nowMs) none, .put operation (goodCall nowMs),
    .setAlarm operation (goodCall nowMs)]

/-- Two intents are due, and the dispatch of the first one throws. -/
private def throwingRun : List (QueueCall String) :=
  enqueueAt 0 "first" 1 ++ enqueueAt 1 "second" 1 ++
    [.readToDrain 2 2 none, .put 2 (goodCall 2), .dispatch 2 true]

/-- Two enqueues read the empty queue before either of them puts its own. -/
private def overlappingRun : List (QueueCall String) :=
  [.readToEnqueue 0 (dueAt "first" 1) none, .readToEnqueue 1 (dueAt "second" 1) none,
    .put 0 (goodCall 1), .put 1 (goodCall 1), .setAlarm 0 (goodCall 1), .setAlarm 1 (goodCall 1)]

/-- The put of the first drain fails, and a second drain reads the same queue. -/
private def repeatingRun : List (QueueCall String) :=
  enqueueAt 0 "first" 1 ++
    [.readToDrain 1 2 none, .put 1 ⟨2, some ⟨"disk failure", 2⟩⟩, .dispatch 1 false,
      .setAlarm 1 (goodCall 3), .readToDrain 2 9000 none, .put 2 (goodCall 9000),
      .dispatch 2 false]

/-- An enqueue has read the queue before a drain empties it, and puts it back with its own. -/
private def restoringRun : List (QueueCall String) :=
  enqueueAt 0 "first" 1 ++
    [.readToEnqueue 1 (dueAt "second" 2) none, .readToDrain 2 2 none, .put 2 (goodCall 2),
      .put 1 (goodCall 2), .dispatch 2 false, .setAlarm 1 (goodCall 2), .setAlarm 2 (goodCall 2),
      .readToDrain 3 3 none, .put 3 (goodCall 3), .dispatch 3 false]

private def itemNow (intent : String) (nowMs : ℤ) : QueuedExecutionIntent String :=
  ⟨intent, .new, nowMs, nowMs⟩

/-- An accepted intent that is neither stored nor in flight and was never handed over. -/
private def Loses (state : QueueState String) (item : QueuedExecutionIntent String) : Prop :=
  item ∈ state.accepted ∧ item ∉ state.storage.queue ∧ item ∉ state.inFlight ∧
    item ∉ state.handed.map Prod.snd

/-- Two drains hand over an intent that was accepted once. -/
private def Repeats (state : QueueState String) (item : QueuedExecutionIntent String) : Prop :=
  state.accepted.count item = 1 ∧ ∃ first second, first ≠ second ∧
    (first, item) ∈ state.handed ∧ (second, item) ∈ state.handed

/-- A dispatch that throws loses the due intent behind it, and two enqueues that overlap lose one
of theirs; a drain whose put fails hands its intent over a second time, and so does an enqueue
that overlaps with a drain. -/
theorem throwing_and_overlap_lose_and_failed_put_and_overlap_repeat :
    (∀ calls ∈ [throwingRun, overlappingRun, repeatingRun, restoringRun],
      ReflTransGen (QueueCallStep 60000 fun state call => call.HasRoom state) emptyQueueState
        (afterCalls calls)) ∧ emptyQueueState.Initial ∧
    Loses (afterCalls throwingRun) (itemNow "second" 1) ∧
    Loses (afterCalls overlappingRun) (itemNow "first" 1) ∧
    Repeats (afterCalls repeatingRun) (itemNow "first" 1) ∧
    Repeats (afterCalls restoringRun) (itemNow "first" 1) := by
  have hruns : ∀ calls ∈ [throwingRun, overlappingRun, repeatingRun, restoringRun],
      Runs (fun state call => call.HasRoom state) calls emptyQueueState := by decide +kernel
  refine ⟨fun calls hcalls => (hruns calls hcalls).reaches, emptyQueueState_initial, ?_, ?_,
    ⟨by decide +kernel, 1, 2, by decide, by decide +kernel, by decide +kernel⟩,
    ⟨by decide +kernel, 2, 3, by decide, by decide +kernel, by decide +kernel⟩⟩
  · exact ⟨by decide +kernel, by decide +kernel, by decide +kernel, by decide +kernel⟩
  · exact ⟨by decide +kernel, by decide +kernel, by decide +kernel, by decide +kernel⟩

/-- An enqueue begins while a drain hands over what two others have stored. -/
private def orderlyRun : List (QueueCall String) :=
  throwingRun.take 8 ++ [.dispatch 2 false, .readToEnqueue 3 (dueAt "third" 3) none,
    .dispatch 2 false, .put 3 (goodCall 3), .setAlarm 2 (goodCall 3), .setAlarm 3 (goodCall 3)]

/-- Its first two intents are handed over once each, and the third one waits. -/
theorem accepted_kept_and_handed_once_example :
    let state := afterCalls orderlyRun
    state.accepted ≤ state.storage.queue + state.handedItems ∧
      state.handedItems ≤ state.accepted ∧ state.accepted.card = 3 ∧ state.handed.length = 2 := by
  have hlaw := @accepted_kept_and_handed_once String 60000 _ emptyQueueState_initial
  have hkeeps : Runs (fun state call => call.HasRoom state ∧ call.KeepsAccepted state) orderlyRun
      emptyQueueState := by decide +kernel
  have honce : Runs (fun state call => call.HandsOnce state) orderlyRun emptyQueueState := by
    decide +kernel
  exact ⟨(hlaw.1 _ hkeeps.reaches).2 (by decide +kernel), (hlaw.2 _ honce.reaches).1,
    by decide +kernel, by decide +kernel⟩

end Yevow.Engine
