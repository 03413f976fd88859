import Yevow.Models.Engine.Queue.Runs

/-!
# Wake times of the execution queue

Each enqueue and each drain sets the one alarm from one intent: its own, or the first waiting
one, where a cancel comes before every new order. The alarm is in time for the whole queue
exactly as long as no intent waits that should run before the one it is set for.
-/

namespace Yevow.Engine

open Relation (ReflTransGen)

variable {I : Type} (backoffMs : ℤ)

/-- The alarm last set is not later than any waiting intent's time, or now where that has
passed, and not later than the alarm cap. -/
def QueueRun.AlarmInTime (run : QueueRun I) : Prop :=
  run.storage.queue ≠ [] → ∃ alarm, run.storage.alarm = some alarm ∧
    alarm ≤ run.now + configAlarmIntervalMs ∧
      ∀ item ∈ run.storage.queue, alarm ≤ max item.runAfterMs run.now

namespace QueueEvent

/-- No storage call fails or is dropped. -/
def WithoutFailures (run : QueueRun I) : QueueEvent I → Prop
  | enqueue _ calls =>
    calls.read = none ∧ run.storage.guard.Stores calls.put ∧ run.storage.guard.Stores calls.alarm
  | startDrain _ _ read put => read = none ∧ run.storage.guard.Stores put
  | dispatch _ _ _ => True
  | finishDrain _ _ alarm => run.storage.guard.Stores alarm

/-- No intent waits that should run before the one that the alarm is set for, unless the alarm
cap comes first or the time of the waiting one has passed. -/
def WakesInTime (run : QueueRun I) : QueueEvent I → Prop
  | enqueue input _ =>
    ∀ item ∈ run.storage.queue,
      min input.runAfterMs (input.nowMs + configAlarmIntervalMs) ≤
        max item.runAfterMs input.nowMs
  | finishDrain drain atMs _ =>
    ∀ active ∈ run.drains.get? drain, ∀ wakeMs ∈ active.nextWakeMs, wakeMs ≠ 0 →
      ∀ item ∈ run.storage.queue,
        min wakeMs (active.nowMs + configAlarmIntervalMs) ≤ max item.runAfterMs atMs
  | _ => True

end QueueEvent

variable {backoffMs}

/-! ## The alarm after an operation -/

private theorem stores_afterWrite {guard : StorageWriteGuard} {first second : StorageCall}
    (hfirst : guard.Stores first) (hsecond : guard.Stores second) :
    (guard.afterWrite backoffMs first).Stores second := by
  obtain ⟨htime, herror⟩ := hfirst
  unfold StorageWriteGuard.afterWrite
  rw [if_neg (by omega), herror]
  exact hsecond

private theorem alarm_enqueue {run : QueueRun I} {input : EnqueueInput I}
    {calls : ExecutionQueueStorage.EnqueueCalls}
    (h : (QueueEvent.enqueue input calls).WithoutFailures run) :
    (run.storage.enqueueTradingExecutionIntent backoffMs input calls).2.alarm =
      some (min input.runAfterMs (input.nowMs + configAlarmIntervalMs)) := by
  obtain ⟨hread, hput, halarm⟩ := h
  simp only [ExecutionQueueStorage.enqueueTradingExecutionIntent, hread,
    ExecutionQueueStorage.readTradingExecutionQueue, ExecutionQueueStorage.persistQueue,
    ExecutionQueueStorage.setAlarm, if_pos (stores_afterWrite hput halarm)]
  rfl

/-- An intent in the queue after an enqueue waited before, or is the new one. -/
private theorem mem_queue_enqueue {storage : ExecutionQueueStorage I} {input : EnqueueInput I}
    {calls : ExecutionQueueStorage.EnqueueCalls} {item : QueuedExecutionIntent I}
    (h : item ∈ (storage.enqueueTradingExecutionIntent backoffMs input calls).2.queue) :
    item = input.item ∨ item ∈ storage.queue := by
  have hmem := Multiset.mem_of_le (queue_enqueue_le backoffMs storage input calls)
    (Multiset.mem_coe.mpr h)
  rwa [Multiset.mem_cons, Multiset.mem_coe] at hmem

/-- The two ends of a drain: with a wake time it sets the alarm, without one it does nothing. -/
private theorem finishDrain_cases {storage : ExecutionQueueStorage I} {alarm : StorageCall}
    (hstores : storage.guard.Stores alarm) (nowMs : ℤ) (nextWakeMs : Option ℤ) :
    (∃ wakeMs, nextWakeMs = some wakeMs ∧ wakeMs ≠ 0 ∧
      (storage.finishDrain backoffMs nowMs nextWakeMs alarm).alarm =
        some (min wakeMs (nowMs + configAlarmIntervalMs))) ∨
    (∀ wakeMs, nextWakeMs = some wakeMs → wakeMs = 0) ∧
      storage.finishDrain backoffMs nowMs nextWakeMs alarm = storage := by
  unfold ExecutionQueueStorage.finishDrain
  cases nextWakeMs with
  | none => exact Or.inr ⟨fun _ hnone => (Option.some_ne_none _ hnone.symm).elim, rfl⟩
  | some wakeMs =>
    by_cases hzero : wakeMs = 0
    · subst hzero
      refine Or.inr ⟨fun _ hsome => (Option.some.inj hsome).symm, rfl⟩
    · refine Or.inl ⟨wakeMs, rfl, hzero, ?_⟩
      rw [Option.filter_some, if_pos (decide_eq_true hzero)]
      exact if_pos hstores

/-! ## Runs -/

/-- The alarm is in time, and no drain began after the present. -/
def QueueRun.Timely (run : QueueRun I) : Prop :=
  run.AlarmInTime ∧ ∀ drain active, run.drains.get? drain = some active → active.nowMs ≤ run.now

/-- Time that passes and intents that leave the queue keep the alarm in time. -/
private theorem AlarmInTime.mono {run next : QueueRun I} (h : run.AlarmInTime)
    (hqueue : ∀ item ∈ next.storage.queue, item ∈ run.storage.queue)
    (halarm : next.storage.alarm = run.storage.alarm) (htime : run.now ≤ next.now) :
    next.AlarmInTime := by
  intro hne
  obtain ⟨item, hitem⟩ := List.exists_mem_of_ne_nil _ hne
  obtain ⟨alarm, hset, hcap, hall⟩ := h (List.ne_nil_of_mem (hqueue item hitem))
  refine ⟨alarm, halarm.trans hset, by omega, fun other hother => ?_⟩
  have hother := hall other (hqueue other hother)
  omega

private theorem timely_enqueue {run : QueueRun I} (h : run.Timely) {input : EnqueueInput I}
    {calls : ExecutionQueueStorage.EnqueueCalls} (htime : run.now ≤ input.nowMs)
    (hfine : (QueueEvent.enqueue input calls).WithoutFailures run)
    (hwakes : (QueueEvent.enqueue input calls).WakesInTime run) :
    ((QueueEvent.enqueue input calls).apply backoffMs run).Timely := by
  refine ⟨fun _ => ⟨_, alarm_enqueue hfine, min_le_right _ _, fun item hitem => ?_⟩, ?_⟩
  · rcases mem_queue_enqueue hitem with rfl | hwaiting
    · exact (min_le_left _ _).trans (le_max_left _ _)
    · exact hwakes item hwaiting
  · intro drain active hactive
    exact (h.2 drain active hactive).trans htime

private theorem timely_startDrain {run : QueueRun I} (h : run.Timely) {drain : ℕ} {nowMs : ℤ}
    {read : Option StorageError} {put : StorageCall} (htime : run.now ≤ nowMs) :
    ((QueueEvent.startDrain drain nowMs read put).apply backoffMs run).Timely := by
  have holder : ∀ other active, run.drains.get? other = some active → active.nowMs ≤ nowMs :=
    fun other active hactive => (h.2 other active hactive).trans htime
  rcases startDrain_cases backoffMs run.storage nowMs read put with
    ⟨-, hstart⟩ | ⟨after, hstart, hqueue, halarm⟩
  · simp only [QueueEvent.apply, hstart]
    refine ⟨AlarmInTime.mono h.1 ?_ rfl htime, ?_⟩
    · intro item hitem
      simp only [ExecutionQueueStorage.persistQueue] at hitem
      split at hitem
      · exact (perm_splitExecutionQueueForDrain run.storage.queue nowMs).mem_iff.mp
          (List.mem_append_left _ hitem)
      · exact hitem
    · exact Rows.forall_set holder (le_refl nowMs)
  · simp only [QueueEvent.apply, hstart]
    exact ⟨AlarmInTime.mono h.1 (fun item hitem => hqueue ▸ hitem) halarm htime, holder⟩

private theorem timely_dispatch {run : QueueRun I} (h : run.Timely) {drain : ℕ} {atMs : ℤ}
    {throws : Bool} (henabled : (QueueEvent.dispatch drain atMs throws).Enabled run)
    (htime : run.now ≤ atMs) :
    ((QueueEvent.dispatch drain atMs throws).apply backoffMs run).Timely := by
  obtain ⟨nowMs, item, rest, nextWakeMs, persisted, hactive, happly⟩ :=
    dispatch_apply backoffMs henabled
  rw [happly]
  have holder : ∀ other active, run.drains.get? other = some active → active.nowMs ≤ atMs :=
    fun other active hother => (h.2 other active hother).trans htime
  refine ⟨AlarmInTime.mono h.1 (fun _ hitem => hitem) rfl htime, ?_⟩
  cases throws with
  | true => exact Rows.forall_delete holder drain
  | false =>
    have hbegan : nowMs ≤ atMs := holder drain _ hactive
    exact Rows.forall_set holder hbegan

private theorem timely_finishDrain {run : QueueRun I} (h : run.Timely) {drain : ℕ} {atMs : ℤ}
    {alarm : StorageCall} (henabled : (QueueEvent.finishDrain drain atMs alarm).Enabled run)
    (htime : run.now ≤ atMs) (hfine : (QueueEvent.finishDrain drain atMs alarm).WithoutFailures run)
    (hwakes : (QueueEvent.finishDrain drain atMs alarm).WakesInTime run) :
    ((QueueEvent.finishDrain drain atMs alarm).apply backoffMs run).Timely := by
  obtain ⟨active, hactive, -⟩ := henabled
  have holder : ∀ other active, run.drains.get? other = some active → active.nowMs ≤ atMs :=
    fun other active hother => (h.2 other active hother).trans htime
  have hbegan := holder drain active hactive
  rw [Option.mem_def] at hactive
  simp only [QueueEvent.apply, hactive]
  refine ⟨?_, Rows.forall_delete holder drain⟩
  rcases finishDrain_cases hfine active.nowMs active.nextWakeMs with
    ⟨wakeMs, hwake, hne, halarm⟩ | ⟨-, hsame⟩
  · intro _
    refine ⟨_, halarm, by dsimp only; omega, fun item hitem => ?_⟩
    rw [queue_finishDrain] at hitem
    exact hwakes active hactive wakeMs hwake hne item hitem
  · exact AlarmInTime.mono h.1 (fun item hitem => hsame ▸ hitem)
      (congrArg ExecutionQueueStorage.alarm hsame) htime

/-- One event that meets its condition keeps the alarm in time. -/
private theorem timely_apply {run : QueueRun I} (h : run.Timely) {event : QueueEvent I}
    (henabled : event.Enabled run) (htime : run.now ≤ event.time)
    (hfine : event.WithoutFailures run) (hwakes : event.WakesInTime run) :
    (event.apply backoffMs run).Timely := by
  cases event with
  | enqueue input calls => exact timely_enqueue h htime hfine hwakes
  | startDrain drain nowMs read put => exact timely_startDrain h htime
  | dispatch drain atMs throws => exact timely_dispatch h henabled htime
  | finishDrain drain atMs alarm => exact timely_finishDrain h henabled htime hfine hwakes

/-! ## Where the condition fails -/

/-- An event that leaves a waiting intent behind its alarm leaves the alarm late. -/
private theorem late_of_not_wakesInTime {run : QueueRun I} {event : QueueEvent I}
    (hfine : event.WithoutFailures run) (hroom : event.HasRoom run)
    (h : ¬event.WakesInTime run) : ¬(event.apply backoffMs run).AlarmInTime := by
  intro hintime
  apply h
  cases event with
  | enqueue input calls =>
    intro item hitem
    have hmem :
      item ∈ (run.storage.enqueueTradingExecutionIntent backoffMs input calls).2.queue := by
      obtain ⟨hread, hput, -⟩ := hfine
      exact (perm_queue_enqueue backoffMs hroom hread hput).mem_iff.mpr
        (List.mem_append_left _ hitem)
    obtain ⟨alarm, hset, -, hall⟩ := hintime (List.ne_nil_of_mem hmem)
    obtain rfl := Option.some.inj ((alarm_enqueue hfine).symm.trans hset)
    exact hall item hmem
  | finishDrain drain atMs alarm =>
    intro active hactive wakeMs hwake hne item hitem
    rw [Option.mem_def] at hactive hwake
    simp only [QueueEvent.apply, hactive] at hintime
    rcases finishDrain_cases hfine active.nowMs active.nextWakeMs with
      ⟨wakeMs', hwake', -, halarm⟩ | ⟨hzero, -⟩
    · obtain rfl := Option.some.inj (hwake.symm.trans hwake')
      have hmem : item ∈ (run.storage.finishDrain backoffMs active.nowMs active.nextWakeMs
          alarm).queue := by
        rw [queue_finishDrain]
        exact hitem
      obtain ⟨found, hset, -, hall⟩ := hintime (List.ne_nil_of_mem hmem)
      obtain rfl := Option.some.inj (halarm.symm.trans hset)
      exact hall item hmem
    · exact absurd (hzero wakeMs hwake) hne
  | startDrain drain nowMs read put => trivial
  | dispatch drain atMs throws => trivial

/-- Without storage failures the alarm is in time for every waiting intent in every run in
which no intent waits that should run before the one the alarm is set for; and an event that
does not meet this condition leaves the alarm late. -/
theorem alarm_in_time_for_queue {initial : QueueRun I} (hdrains : initial.drains = Rows.empty)
    (hinitial : initial.AlarmInTime) :
    (∀ run, ReflTransGen (QueueStep backoffMs fun run event =>
        event.WithoutFailures run ∧ event.WakesInTime run) initial run → run.AlarmInTime) ∧
    ∀ (run : QueueRun I) (event : QueueEvent I), event.WithoutFailures run → event.HasRoom run →
      ¬event.WakesInTime run → ¬(event.apply backoffMs run).AlarmInTime := by
  constructor
  · intro run hrun
    have htimely : run.Timely := by
      induction hrun with
      | refl =>
        refine ⟨hinitial, fun drain active hactive => ?_⟩
        rw [hdrains, Rows.get?_empty] at hactive
        cases hactive
      | tail _ hstep ih =>
        obtain ⟨event, henabled, htime, ⟨hfine, hwakes⟩, rfl⟩ := hstep
        exact timely_apply ih henabled htime hfine hwakes
    exact htimely.1
  · intro run event hfine hroom h
    exact late_of_not_wakesInTime hfine hroom h

/-! ## Concrete runs -/

private def waitFor (intent : String) (priority : ExecutionQueuePriority) (waitMs nowMs : ℤ) :
    QueueEvent String :=
  .enqueue ⟨intent, priority, waitMs, nowMs⟩ ⟨none, goodCall nowMs, goodCall nowMs⟩

/-- An order that may run after one second waits behind a cancel that may run after four. -/
private def cancelAheadOfOrder : List (QueueEvent String) :=
  [waitFor "order" .new 1000 0, waitFor "cancel" .cancel 4000 0,
    .startDrain 0 500 none (goodCall 500), .finishDrain 0 500 (goodCall 500)]

/-- Both the enqueue of the cancel and the drain set the alarm for the cancel, three seconds
after the order's time. -/
theorem cancel_delays_earlier_order :
    ReflTransGen (QueueStep 60000 QueueEvent.WithoutFailures) emptyQueueRun
      (emptyQueueRun.applyAll 60000 (cancelAheadOfOrder.take 2)) ∧
    ¬(emptyQueueRun.applyAll 60000 (cancelAheadOfOrder.take 2)).AlarmInTime ∧
    ReflTransGen (QueueStep 60000 QueueEvent.WithoutFailures) emptyQueueRun
      (emptyQueueRun.applyAll 60000 cancelAheadOfOrder) ∧
    ¬(emptyQueueRun.applyAll 60000 cancelAheadOfOrder).AlarmInTime := by
  have hlate : ∀ run : QueueRun String, run.storage.alarm = some 4000 → run.now ≤ 500 →
      (∃ item ∈ run.storage.queue, item.runAfterMs = 1000) → ¬run.AlarmInTime := by
    rintro run halarm hnow ⟨item, hitem, hafter⟩ h
    obtain ⟨alarm, hset, -, hall⟩ := h (List.ne_nil_of_mem hitem)
    obtain rfl := Option.some.inj (halarm.symm.trans hset)
    have hle := hall item hitem
    omega
  refine ⟨QueueRun.run_applyAll 60000 ?_, hlate _ (by decide +kernel) (by decide +kernel)
    (by decide +kernel), QueueRun.run_applyAll 60000 ?_, hlate _ (by decide +kernel)
      (by decide +kernel) (by decide +kernel)⟩
  · exact ⟨by decide +kernel, ⟨rfl, by decide +kernel, by decide +kernel⟩, by decide +kernel,
      ⟨rfl, by decide +kernel, by decide +kernel⟩, trivial⟩
  · exact ⟨by decide +kernel, ⟨rfl, by decide +kernel, by decide +kernel⟩, by decide +kernel,
      ⟨rfl, by decide +kernel, by decide +kernel⟩, by decide +kernel, ⟨rfl, by decide +kernel⟩,
      by decide +kernel, ⟨by decide +kernel, rfl⟩, trivial⟩

/-- A sooner order is enqueued beside a later one, and a drain hands it over. -/
private def soonerBesideLater : List (QueueEvent String) :=
  [waitFor "later" .new 3000 0, waitFor "sooner" .new 1000 0,
    .startDrain 0 1500 none (goodCall 1500), .dispatch 0 1500 false,
    .finishDrain 0 1500 (goodCall 1500)]

private theorem waits_later {count : ℕ} (hcount : count = 1 ∨ count = 4) :
    (emptyQueueRun.applyAll 60000 (soonerBesideLater.take count)).storage.queue =
      [⟨"later", .new, 3000, 0⟩] := by
  rcases hcount with rfl | rfl <;> decide +kernel

/-- The alarm stays in time for the order that waits beside the sooner one. -/
theorem alarm_in_time_beside_sooner_order :
    let run := emptyQueueRun.applyAll 60000 soonerBesideLater
    run.storage.queue ≠ [] ∧ run.storage.alarm = some 3000 ∧ run.AlarmInTime := by
  have hinitial : (emptyQueueRun : QueueRun String).AlarmInTime := fun hne => absurd rfl hne
  have hlaw := @alarm_in_time_for_queue String 60000 emptyQueueRun rfl hinitial
  have hsooner : (waitFor "sooner" .new 1000 0).WakesInTime
      (emptyQueueRun.applyAll 60000 (soonerBesideLater.take 1)) := by
    intro item hitem
    rw [waits_later (Or.inl rfl), List.mem_singleton] at hitem
    subst hitem
    decide +kernel
  have hend : (QueueEvent.finishDrain 0 1500 (goodCall 1500)).WakesInTime
      (emptyQueueRun.applyAll 60000 (soonerBesideLater.take 4)) := by
    intro active hactive wakeMs hwake _ item hitem
    have hdrain : ((emptyQueueRun.applyAll 60000 (soonerBesideLater.take 4)).drains.get? 0).map
        ActiveDrain.nextWakeMs = some (some 3000) := by decide +kernel
    rw [Option.mem_def.mp hactive, Option.map_some, Option.mem_def.mp hwake] at hdrain
    rw [waits_later (Or.inr rfl), List.mem_singleton] at hitem
    cases hdrain
    subst hitem
    exact (min_le_left _ _).trans (le_max_left _ _)
  refine ⟨by decide +kernel, by decide +kernel, hlaw.1 _ (QueueRun.run_applyAll 60000 ?_)⟩
  exact ⟨by decide +kernel, ⟨⟨rfl, by decide +kernel, by decide +kernel⟩, by simp [waitFor,
      QueueEvent.WakesInTime, emptyQueueRun]⟩,
    by decide +kernel, ⟨⟨rfl, by decide +kernel, by decide +kernel⟩, hsooner⟩,
    by decide +kernel, ⟨⟨rfl, by decide +kernel⟩, trivial⟩, by decide +kernel, ⟨trivial, trivial⟩,
    by decide +kernel, ⟨⟨by decide +kernel, rfl⟩, hend⟩, trivial⟩

end Yevow.Engine
