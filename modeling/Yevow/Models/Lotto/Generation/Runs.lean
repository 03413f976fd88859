import Yevow.Models.Lotto.Generation.Reconciliation

/-!
# Workers side by side

Any number of workers generate for one draw date of a game while the operator changes its
configuration. Every call may be served at any time or throw. What a worker writes goes under one
id, so a generated run stays reconciled as long as no later batch brings more tickets.
-/

namespace Yevow.Lotto

open GenerationStore

variable {host : GenerationHost} {game : GameCode} {drawDate : String}

/-! ## What workers write -/

/-- The batches that a worker for a draw date prepares. -/
def GenerationOp.Prepared (host : GenerationHost) (game : GameCode) (drawDate : String) :
    GenerationOp → Prop
  | commit c => generationRunId host game drawDate (drawSlot game) = .ok c.runId ∧
      ∀ alert, c.lateAlert = some alert → alert = lateGenerationAlert game drawDate
  | writeFailure f => generationRunId host game drawDate (drawSlot game) = .ok f.runId ∧
      ∀ alert, f.alert = some alert → alert = missedCutoffAlert game drawDate ∨
        maxPipelineAttempts ≤ f.attempts ∧ alert = generationFailedAlert game drawDate f.attempts
  | _ => True

private theorem drawSlot_of_validate {row config : GameAutomationConfigRow}
    (h : validateAutomationConfigRow host game row = .ok config) :
    config.drawSlot = drawSlot game := by
  unfold validateAutomationConfigRow at h
  obtain ⟨-, -, h⟩ := Except.bind_eq_ok.mp h
  obtain ⟨-, -, h⟩ := Except.bind_eq_ok.mp h
  obtain ⟨-, -, h⟩ := Except.bind_eq_ok.mp h
  obtain ⟨-, -, h⟩ := Except.bind_eq_ok.mp h
  obtain ⟨-, -, h⟩ := Except.bind_eq_ok.mp h
  obtain ⟨-, -, h⟩ := Except.bind_eq_ok.mp h
  obtain ⟨-, -, h⟩ := Except.bind_eq_ok.mp h
  obtain ⟨weekdays, -, h⟩ := Except.bind_eq_ok.mp h
  obtain ⟨-, -, h⟩ := Except.bind_eq_ok.mp h
  obtain ⟨beforeDeadline, -, h⟩ := Except.bind_eq_ok.mp h
  obtain ⟨-, -, h⟩ := Except.bind_eq_ok.mp h
  obtain ⟨_, hslot, h⟩ := Except.bind_eq_ok.mp h
  obtain ⟨-, -, h⟩ := Except.bind_eq_ok.mp h
  obtain rfl := Except.ok.inj h
  exact not_not.mp (Except.throwIf_eq_ok.mp hslot)

section Avoids

variable {w : Surroundings} {config : GameAutomationConfigRow} {runId seed : String}

/-- No batch that was not prepared for the draw date. -/
abbrev GenerationOp.Foreign (host : GenerationHost) (game : GameCode) (drawDate : String)
    (op : GenerationOp) : Prop := ¬op.Prepared host game drawDate

private theorem avoids_prepared (op : GenerationOp) (hop : op.Prepared host game drawDate) :
    (Generating.perform op).Avoids (GenerationOp.Foreign host game drawDate) :=
  Program.avoids_perform (not_not.mpr hop)

private theorem avoids_outside (call : OutsideCall) :
    (Generating.perform (.outside call)).Avoids (GenerationOp.Foreign host game drawDate) :=
  avoids_prepared _ trivial

private theorem avoids_recordFailure
    (hid : generationRunId host game drawDate (drawSlot game) = .ok runId)
    (error : Fault) (now : ℤ) (missedDeadline : Bool) :
    (recordFailure game drawDate config runId seed error now missedDeadline).Avoids
      (GenerationOp.Foreign host game drawDate) := by
  unfold recordFailure
  refine (avoids_prepared .readAttempts trivial).bind fun prior => ?_
  have hprepared :
    (GenerationOp.writeFailure (failureRecord game drawDate config runId seed error now
      missedDeadline (prior.getD 0 + 1))).Prepared host game drawDate := by
    refine ⟨hid, fun alert halert => ?_⟩
    unfold failureRecord at halert
    simp only at halert
    split_ifs at halert with hterminal hmissed
    · exact Or.inl (Option.some.inj halert).symm
    · have hattempts : maxPipelineAttempts ≤ prior.getD 0 + 1 := by
        simpa [hmissed] using hterminal
      exact Or.inr ⟨hattempts, (Option.some.inj halert).symm⟩
  exact (avoids_prepared _ hprepared).bind fun _ => trivial

private theorem avoids_refreshDailySummary :
    refreshDailySummary.Avoids (GenerationOp.Foreign host game drawDate) :=
  (avoids_outside _).bind fun _ => (avoids_outside _).bind fun _ => (avoids_outside _).bind fun _ =>
    (avoids_outside _).bind fun _ => (avoids_outside _).bind fun _ => avoids_outside _

private theorem avoids_generatedRun :
    generatedRun.Avoids (GenerationOp.Foreign host game drawDate) := by
  unfold generatedRun
  refine (avoids_prepared .readGenerated trivial).bind fun row => ?_
  cases row with
  | none => trivial
  | some row =>
    refine (avoids_prepared (.readTickets row.runId) trivial).bind fun tickets => ?_
    exact (Program.avoids_done _).bind fun _ => trivial

private theorem avoids_refreshSources (n : ℕ) :
    (refreshSources n).Avoids (GenerationOp.Foreign host game drawDate) := by
  induction n with
  | zero => trivial
  | succ n ih => exact ih.bind fun _ => avoids_outside _

private theorem avoids_refuseOutsideWindow
    (hid : generationRunId host game (w.drawDate host) (drawSlot game) = .ok runId) :
    (refuseOutsideWindow host game w config runId).Avoids
      (GenerationOp.Foreign host game (w.drawDate host)) := by
  unfold refuseOutsideWindow
  refine (Program.avoids_done _).bind fun window => ?_
  split_ifs
  · trivial
  · exact (avoids_recordFailure hid _ _ _).bind fun _ => avoids_refreshDailySummary.bind fun _ =>
      trivial
  · exact (avoids_recordFailure hid _ _ _).bind fun _ => avoids_refreshDailySummary.bind fun _ =>
      trivial

private theorem avoids_recordLateFailure
    (hid : generationRunId host game (w.drawDate host) (drawSlot game) = .ok runId)
    (error : Fault) :
    (recordLateFailure host game w config runId seed error).Avoids
      (GenerationOp.Foreign host game (w.drawDate host)) := by
  unfold recordLateFailure
  refine (Program.avoids_done _).bind fun window => ?_
  exact (avoids_recordFailure hid _ _ _).bind fun _ => avoids_refreshDailySummary.bind fun _ =>
    trivial

private theorem avoids_generateAndCommit
    (hid : generationRunId host game (w.drawDate host) (drawSlot game) = .ok runId) :
    (generateAndCommit host game w config runId seed).Avoids
      (GenerationOp.Foreign host game (w.drawDate host)) := by
  unfold generateAndCommit
  refine (avoids_refreshSources _).bind fun _ => (avoids_outside _).bind fun _ => ?_
  split_ifs
  · trivial
  refine Program.Avoids.bind ?_ fun verification => ?_
  · exact (avoids_outside _).bind fun _ => (avoids_outside _).bind fun _ => trivial
  refine (Program.avoids_done _).bind fun picked => (Program.avoids_done _).bind fun netEvCents =>
    (Program.avoids_done _).bind fun completionWindow => ?_
  split_ifs
  · trivial
  refine (Program.avoids_done _).bind fun commitWindow => ?_
  split_ifs
  · trivial
  have hprepared : (GenerationOp.commit (generationCommit host game w config runId seed verification
      picked netEvCents)).Prepared host game (w.drawDate host) := by
    refine ⟨hid, fun alert halert => ?_⟩
    unfold generationCommit at halert
    simp only at halert
    split_ifs at halert
    · exact (Option.some.inj halert).symm
    · exact (Option.some.inj halert).symm
  refine (avoids_prepared _ hprepared).bind fun _ => ?_
  refine (avoids_outside _).attempt.bind fun _ => avoids_refreshDailySummary.bind fun _ =>
    avoids_generatedRun.bind fun run => ?_
  cases run with
  | none => trivial
  | some run => trivial

private theorem avoids_generateUnderLease
    (hid : generationRunId host game (w.drawDate host) (drawSlot game) = .ok runId) :
    (generateUnderLease host game w config runId).Avoids
      (GenerationOp.Foreign host game (w.drawDate host)) := by
  unfold generateUnderLease
  refine (avoids_refuseOutsideWindow hid).attempt.bind fun refused => ?_
  rcases refused with e | _ | failure
  · exact avoids_recordLateFailure hid e
  · simp only
    cases deriveProtectedDailySeed host game (w.drawDate host) config.drawSlot with
    | error e => exact avoids_recordLateFailure hid e
    | ok seed =>
      exact (avoids_generateAndCommit hid).tryCatch fun e => avoids_recordLateFailure hid e
  · trivial

/-- A worker prepares every batch it writes for its draw date. -/
theorem avoids_generateForGame (host : GenerationHost) (game : GameCode) (w : Surroundings) :
    (generateForGame host game w).Avoids (GenerationOp.Foreign host game (w.drawDate host)) := by
  unfold generateForGame automationConfig
  rw [Program.bind_assoc]
  refine (avoids_prepared .readConfig trivial).bind fun row => ?_
  cases row with
  | none => trivial
  | some row =>
    show Program.Avoids _ (Generating.compute (validateAutomationConfigRow host game row) >>= _)
    cases hvalid : validateAutomationConfigRow host game row with
    | error e => trivial
    | ok config =>
      refine avoids_generatedRun.bind fun existing => ?_
      cases existing with
      | some run => trivial
      | none =>
        show Program.Avoids _ (Generating.compute
          (generationRunId host game (w.drawDate host) config.drawSlot) >>= _)
        rw [drawSlot_of_validate hvalid]
        cases hid : generationRunId host game (w.drawDate host) (drawSlot game) with
        | error e => trivial
        | ok runId =>
          refine (avoids_prepared (.acquireLease _ _ _) trivial).bind fun acquired => ?_
          split_ifs
          · trivial
          · refine (avoids_generateUnderLease hid).attempt.bind fun result => ?_
            exact (avoids_prepared (.releaseLease _) trivial).bind fun _ => trivial

end Avoids

/-! ## Alerts -/

private theorem append_ne_generationFailed (game : GameCode) (text rest : String) :
    game.name ++ text ≠ "generation failed for " ++ rest := by
  intro h
  have hchars := congrArg String.toList h
  simp only [String.toList_append] at hchars
  cases game <;> exact absurd (List.cons.inj hchars).1 (by decide)

private theorem missedCutoffAlert_ne (game : GameCode) (drawDate : String) (attempts : ℕ) :
    missedCutoffAlert game drawDate ≠ generationFailedAlert game drawDate attempts := by
  intro h
  unfold missedCutoffAlert generationFailedAlert at h
  have htext := String.append_right_inj alertHeading |>.mp h
  simp only [String.append_assoc] at htext
  exact append_ne_generationFailed _ _ _ htext

private theorem lateGenerationAlert_ne (game : GameCode) (drawDate : String) (attempts : ℕ) :
    lateGenerationAlert game drawDate ≠ generationFailedAlert game drawDate attempts := by
  intro h
  unfold lateGenerationAlert generationFailedAlert at h
  have htext := String.append_right_inj alertHeading |>.mp h
  simp only [String.append_assoc] at htext
  exact append_ne_generationFailed _ _ _ htext

/-! ## Steps -/

/-- A call that is served keeps a generated run: a commit brings no more tickets than the run has,
and a failure is not recorded after too many attempts, unless the cutoff has passed. -/
def GenerationOp.Careful (game : GameCode) (drawDate : String) (s : GenerationStore) :
    GenerationOp → Prop
  | commit c =>
    match s.generatedRow with
    | none => True
    | some row => c.tickets.length ≤ row.ticketCount
  | writeFailure f =>
    match s.generatedRow with
    | none => True
    | some _ => f.attempts < maxPipelineAttempts ∨ f.alert = some (missedCutoffAlert game drawDate)
  | _ => True

/-- What a step does to reconciled tables. -/
structure GenerationStore.Step (host : GenerationHost) (game : GameCode) (drawDate : String)
    (s s' : GenerationStore) : Prop where
  reconciled : s'.Reconciled (generationRunId host game drawDate (drawSlot game))
  keeps : s.Keeps s'
  alerts : ∀ attempts, s.NewAlert s' (generationFailedAlert game drawDate attempts) →
    s.generatedRow = none

variable {s s' : GenerationStore}

private theorem step_of_frame
    (h : s.Reconciled (generationRunId host game drawDate (drawSlot game)))
    (hrun : s'.run = s.run) (htickets : s'.tickets = s.tickets) (houtbox : s'.outbox = s.outbox) :
    s.Step host game drawDate s' := by
  have hgenerated : s'.generatedRow = s.generatedRow := congrArg (Option.filter _) hrun
  constructor
  · constructor
    · rw [hrun]
      exact h.runId
    · rw [houtbox]
      exact h.filed
    · rw [hgenerated, htickets, houtbox]
      exact h.fresh
    · rw [hgenerated, htickets]
      exact h.ordinals
    · rw [hgenerated, houtbox]
      exact h.picks
  · intro row hrow
    exact ⟨⟨row, hgenerated.trans hrow, .refl row⟩, fun key => by rw [htickets]⟩
  · rintro attempts ⟨id, d, hd, -, -, hnew⟩
    rw [houtbox] at hd
    exact absurd hd hnew

private theorem step_of_call (h : s.Reconciled (generationRunId host game drawDate (drawSlot game)))
    {op : GenerationOp} (hprepared : op.Prepared host game drawDate)
    (hcareful : op.Careful game drawDate s) :
    s.Step host game drawDate (generationHandler op s).2 := by
  cases op with
  | configure row => exact step_of_frame h rfl rfl rfl
  | readConfig | readGenerated | readTickets _ | readAttempts | outside _ =>
    exact step_of_frame h rfl rfl rfl
  | acquireLease leaseToken acquiredAt expiresAt =>
    show s.Step host game drawDate (s.acquireLease leaseToken acquiredAt expiresAt).2
    unfold acquireLease
    split
    · exact step_of_frame h rfl rfl rfl
    · split_ifs
      · exact step_of_frame h rfl rfl rfl
      · exact step_of_frame h rfl rfl rfl
  | releaseLease leaseToken =>
    show s.Step host game drawDate (s.releaseLease leaseToken)
    unfold releaseLease
    split
    · exact step_of_frame h rfl rfl rfl
    · split_ifs
      · exact step_of_frame h rfl rfl rfl
      · exact step_of_frame h rfl rfl rfl
  | commit c =>
    obtain ⟨hid, hlate⟩ := hprepared
    show s.Step host game drawDate (transact s (s.commit c)).2
    cases hcommit : s.commit c with
    | error e => exact step_of_frame h rfl rfl rfl
    | ok s' =>
      rw [hid] at h
      have hcount : ∀ row, s.generatedRow = some row → c.tickets.length ≤ row.ticketCount := by
        intro row hrow
        unfold GenerationOp.Careful at hcareful
        rwa [hrow] at hcareful
      obtain ⟨hreconciled, hkeeps, halerts⟩ := h.commit hcount hcommit
      refine ⟨hid ▸ hreconciled, hkeeps, fun attempts hnew => ?_⟩
      have halert := hlate _ (halerts _ hnew)
      exact absurd halert.symm (lateGenerationAlert_ne game drawDate attempts)
  | writeFailure f =>
    obtain ⟨hid, hcause⟩ := hprepared
    show s.Step host game drawDate (transact s (s.recordFailure f)).2
    cases hfailure : s.recordFailure f with
    | error e => exact step_of_frame h rfl rfl rfl
    | ok s' =>
      rw [hid] at h
      obtain ⟨hreconciled, hkeeps, halerts⟩ := h.recordFailure hfailure
      refine ⟨hid ▸ hreconciled, hkeeps, fun attempts hnew => ?_⟩
      have halert := halerts _ hnew
      cases hgenerated : s.generatedRow with
      | none => rfl
      | some row =>
        unfold GenerationOp.Careful at hcareful
        rw [hgenerated] at hcareful
        rcases hcareful with hfew | hmissed
        · rcases hcause _ halert with hmissed | ⟨hmany, -⟩
          · exact absurd hmissed.symm (missedCutoffAlert_ne game drawDate attempts)
          · omega
        · rw [halert] at hmissed
          exact absurd (Option.some.inj hmissed).symm (missedCutoffAlert_ne game drawDate attempts)

/-! ## Runs -/

/-- The operator writes a configuration, or a worker starts on the draw date. -/
inductive GenerationRequest (host : GenerationHost) (drawDate : String)
  | configure (row : GameAutomationConfigRow)
  | generate (w : Surroundings) (today : w.drawDate host = drawDate)

/-- The function that a request starts. -/
def GenerationRequest.program (game : GameCode) :
    GenerationRequest host drawDate → Generating (Option AutomationOutcome)
  | configure row => do
    Generating.perform (.configure row)
    return none
  | generate w _ => do
    let outcome ← generateForGame host game w
    return some outcome

/-- Workers that share the store. -/
abbrev GenerationPool (host : GenerationHost) (drawDate : String) : Type :=
  ThreadPool (GenerationRequest host drawDate) GenerationOp GenerationOp.Ret Fault
    (Option AutomationOutcome) GenerationStore

/-- A step of some worker. -/
abbrev GenerationEvent (host : GenerationHost) (drawDate : String) : Type :=
  ThreadPool.Event (GenerationRequest host drawDate) Fault

/-- Nothing of the run is stored, and no worker has started. -/
structure GenerationPool.Unstarted (pool : GenerationPool host drawDate) : Prop where
  run : pool.state.run = none
  tickets : pool.state.tickets = .empty
  outbox : pool.state.outbox = .empty
  threads : pool.threads = []

/-- Where the event serves a call, the call keeps a generated run. -/
def CarefulEvent (game : GameCode) (pool : GenerationPool host drawDate) :
    GenerationEvent host drawDate → Prop
  | .serve i =>
    match pool.threads[i]? with
    | some (_, .call op _) => op.Careful game drawDate pool.state
    | _ => True
  | _ => True

/-- The pool after an event. -/
abbrev GenerationPool.next (game : GameCode) (pool : GenerationPool host drawDate)
    (event : GenerationEvent host drawDate) : GenerationPool host drawDate :=
  pool.after (GenerationRequest.program game) generationHandler event

/-- The pools that careful events lead to from some pools on. -/
abbrev GenerationRun (game : GameCode) (start : GenerationPool host drawDate → Prop) :
    GenerationPool host drawDate → Prop :=
  ThreadPool.Run (GenerationRequest.program game) generationHandler (CarefulEvent game) start

private theorem avoids_program (game : GameCode) (request : GenerationRequest host drawDate) :
    (request.program game).Avoids (GenerationOp.Foreign host game drawDate) := by
  cases request with
  | configure row => exact (avoids_prepared (.configure row) trivial).bind fun _ => trivial
  | generate w today =>
    have havoids := avoids_generateForGame host game w
    rw [today] at havoids
    exact havoids.bind fun _ => trivial

/-- The tables are reconciled, and no worker has a foreign batch before it. -/
def GenerationPool.Sound (game : GameCode) (pool : GenerationPool host drawDate) : Prop :=
  pool.state.Reconciled (generationRunId host game drawDate (drawSlot game)) ∧
    pool.Guarded (GenerationOp.Foreign host game drawDate)

private theorem GenerationPool.Unstarted.sound {pool : GenerationPool host drawDate}
    (h : pool.Unstarted) :
    pool.Sound game := by
  have hnone : pool.state.generatedRow = none := by
    rw [generatedRow, h.run]
    rfl
  refine ⟨⟨?_, ?_, ?_, ?_, ?_⟩, ?_⟩
  · intro row hrow
    rw [h.run] at hrow
    cases hrow
  · intro runId _ id d hd
    rw [h.outbox] at hd
    cases hd
  · intro _
    rw [h.tickets, h.outbox]
    refine ⟨fun _ => rfl, fun id d hd => ?_⟩
    cases hd
  · intro row hrow
    rw [hnone] at hrow
    cases hrow
  · intro row hrow
    rw [hnone] at hrow
    cases hrow
  · intro i request p hi
    rw [h.threads] at hi
    cases hi

/-- A careful event takes sound pools to sound pools and keeps a generated run. -/
theorem GenerationPool.Sound.next {pool : GenerationPool host drawDate} (h : pool.Sound game)
    {event : GenerationEvent host drawDate} (hevent : CarefulEvent game pool event) :
    (pool.next game event).Sound game ∧
      pool.state.Step host game drawDate (pool.next game event).state := by
  have hguarded : (pool.next game event).Guarded (GenerationOp.Foreign host game drawDate) :=
    h.2.after (avoids_program game) event
  have hstep : pool.state.Step host game drawDate (pool.next game event).state := by
    rcases ThreadPool.state_after_cases event with hsame | ⟨i, request, op, next, rfl, hi, hserved⟩
    · exact step_of_frame h.1 (congrArg _ hsame) (congrArg _ hsame) (congrArg _ hsame)
    · have hprepared : op.Prepared host game drawDate := not_not.mp (h.2 i request _ hi).1
      simp only [CarefulEvent, hi] at hevent
      rw [hserved]
      exact step_of_call h.1 hprepared hevent
  exact ⟨⟨hstep.reconciled, hguarded⟩, hstep⟩

private theorem GenerationRun.sound {pool : GenerationPool host drawDate}
    (hrun : GenerationRun game GenerationPool.Unstarted pool) : pool.Sound game :=
  hrun.invariant (fun _ hstart => hstart.sound) fun _ _ h hevent => (h.next hevent).1

private theorem GenerationRun.keeps {pool later : GenerationPool host drawDate}
    (h : pool.Sound game)
    (hlater : GenerationRun game (· = pool) later) :
    later.Sound game ∧ pool.state.Keeps later.state := by
  refine hlater.invariant (I := fun later : GenerationPool host drawDate =>
    later.Sound game ∧ pool.state.Keeps later.state) ?_ ?_
  · rintro _ rfl
    exact ⟨h, .refl _⟩
  · rintro later event ⟨hsound, hkeeps⟩ hevent
    obtain ⟨hsound', hstep⟩ := hsound.next hevent
    exact ⟨hsound', hkeeps.trans hstep.keeps⟩

/-! ## What holds of a generated run -/

instance (game : GameCode) (drawDate : String) (s : GenerationStore) (op : GenerationOp) :
    Decidable (op.Careful game drawDate s) :=
  match op with
  | .commit c =>
    match h : s.generatedRow with
    | none => isTrue (by simp [GenerationOp.Careful, h])
    | some row => decidable_of_iff (c.tickets.length ≤ row.ticketCount)
        (by simp [GenerationOp.Careful, h])
  | .writeFailure f =>
    match h : s.generatedRow with
    | none => isTrue (by simp [GenerationOp.Careful, h])
    | some _ => decidable_of_iff
        (f.attempts < maxPipelineAttempts ∨ f.alert = some (missedCutoffAlert game drawDate))
        (by simp [GenerationOp.Careful, h])
  | .configure _ | .readConfig | .readGenerated | .readTickets _ | .acquireLease _ _ _
  | .releaseLease _ | .readAttempts | .outside _ => isTrue trivial

instance (game : GameCode) (pool : GenerationPool host drawDate)
    (event : GenerationEvent host drawDate) : Decidable (CarefulEvent game pool event) :=
  match event with
  | .serve i =>
    match h : pool.threads[i]? with
    | some (_, .call op _) => decidable_of_iff (op.Careful game drawDate pool.state)
        (by simp [CarefulEvent, h])
    | some (_, .done _) => isTrue (by simp [CarefulEvent, h])
    | none => isTrue (by simp [CarefulEvent, h])
  | .start _ | .fail _ _ => isTrue trivial

/-- A generated run has the tickets that its count says and a delivery with its message, now and
later, and it reads back; the alert that generation failed is queued only where no run is
generated. -/
theorem generated_run_stays {pool : GenerationPool host drawDate}
    (hrun : GenerationRun game GenerationPool.Unstarted pool) :
    (∀ row, pool.state.generatedRow = some row →
      (∀ key, (pool.state.tickets.get? key).isSome ↔
        key.1 = row.runId ∧ 0 < key.2 ∧ key.2 ≤ row.ticketCount) ∧
      (pool.state.outbox.get? (deliveryId row.runId)).isSome ∧
      (∀ id d, pool.state.outbox.get? id = some d → d.deliveryKind = .picks →
        row.messageBody = some d.messageBody) ∧
      ∀ later, GenerationRun game (· = pool) later →
        (∃ row', later.state.generatedRow = some row' ∧ row.SameRun row') ∧
        (∀ key, later.state.tickets.get? key = pool.state.tickets.get? key) ∧
        reconciledRun row (later.state.ticketsOf row.runId) =
          publicRun row (later.state.ticketsOf row.runId)) ∧
    ∀ event, CarefulEvent game pool event → ∀ attempts,
      pool.state.NewAlert (pool.next game event).state
        (generationFailedAlert game drawDate attempts) →
        pool.state.generatedRow = none := by
  have hsound := hrun.sound
  refine ⟨fun row hrow => ?_, fun event hevent => (hsound.next hevent).2.alerts⟩
  have hordinals := hsound.1.ordinals row hrow
  obtain ⟨delivery, hdelivery, hbody⟩ := hsound.1.picks row hrow
  have hid := hsound.1.runId row (generatedRow_eq_some.mp hrow).1
  refine ⟨hordinals, by rw [hdelivery]; rfl, fun id d hd hkind => ?_, fun later hlater => ?_⟩
  · have hfiled := (hsound.1.filed row.runId hid id d hd).2
    rw [hkind] at hfiled
    have hsame : some delivery = some d := by
      rw [← hdelivery, ← hd, hfiled]
      rfl
    rw [hbody, Option.some.inj hsame]
  · obtain ⟨-, hkeeps⟩ := hlater.keeps hsound
    obtain ⟨hrow', htickets⟩ := hkeeps row hrow
    refine ⟨hrow', htickets, ?_⟩
    have hlength : (later.state.ticketsOf row.runId).length = row.ticketCount := by
      apply length_ticketsOf
      intro key
      rw [htickets key]
      exact hordinals key
    have hcount : Except.throwIf ((later.state.ticketsOf row.runId).length ≠ row.ticketCount)
        (countMismatch row.runId) = .ok () := Except.throwIf_eq_ok.mpr (not_not.mpr hlength)
    unfold reconciledRun
    rw [hcount]
    rfl

/-! ### Two workers -/

private def aTicket : ScoredTicket where
  main := [1, 2, 3, 4, 5, 6]
  bonus := []
  playStyle := "straight"
  splitRiskBasisPoints := 0
  splitRiskLevel := .low
  splitRiskNotes := []
  score_le := by decide

private def aHost : GenerationHost where
  texasClock t := ⟨"2026-07-01", .wed, 1 + t / 3600000, t / 60000 % 60⟩
  sha256 _ := "e3b0c44298fc1c149afbf4c8996fb92427ae41e4649b934ca495991b7852b855"
  hmacSha256 _ _ := "b613679a0814d9ec772f95d778c35fc5ff1697c493715653c6c712144292c5ad"
  jsonParse _ := .ok (.array [.string "Mon", .string "Wed"])
  seedSalt := "0123456789abcdef0123456789abcdef"
  generateTickets count _ _ :=
    .ok ⟨List.replicate count.toNat aTicket, 15, 1431, 104⟩
  calculateEv _ := .ok (-50)
  evDescription _ := ("fixed sales", "fixed sales")
  formatMessage drawDate picked _ _ _ :=
    drawDate ++ ": " ++ toString picked.tickets.length ++ " picks"

private def aRow (ticketCount : ℤ) : GameAutomationConfigRow where
  selected := true
  ticketCount
  generationWeekdays := "[\"Mon\",\"Wed\"]"
  generationLocalTime := "01:00"
  drawSlot := .daily
  playStyle := "straight"
  jackpotCents := 0
  estimatedSales := 0
  popularityPpm := 1000000
  configVersion := 1

private def aWorker (leaseToken : String) (now : ℤ) : Surroundings where
  now
  leaseToken
  leaseAt := now
  startAt := now
  completedAt := now
  commitAt := now
  failedAt := now
  officialResult := false
  verification := .ok ⟨"2026-06-29", "digest", "[]"⟩

private def aRequest (leaseToken : String) (now : ℤ) : GenerationRequest aHost "2026-07-01" :=
  .generate (aWorker leaseToken now) rfl

private def emptyPool : GenerationPool aHost "2026-07-01" :=
  ⟨⟨none, none, none, .empty, .empty⟩, []⟩

private def poolAfter (events : List (GenerationEvent aHost "2026-07-01")) :
    GenerationPool aHost "2026-07-01" :=
  events.foldl (GenerationPool.next .lotto) emptyPool

private def aRunId : String := "gen-e3b0c44298fc1c149afbf4c8996fb924"

/-- The operator lowers the count from two to one between two workers, and the first one commits
last, after its lease was taken over. -/
private def lateCommit : List (GenerationEvent aHost "2026-07-01") :=
  .start (.configure (aRow 2)) :: .serve 0 :: .start (aRequest "first" 0) ::
    List.append (List.replicate 7 (.serve 1))
      (.start (.configure (aRow 1)) :: .serve 2 :: .start (aRequest "second" 960000) ::
        List.replicate 8 (.serve 3))

/-- One attempt fails, the next one commits, and then a read of its summary throws. -/
private def lateFailure : List (GenerationEvent aHost "2026-07-01") :=
  .start (.configure (aRow 1)) :: .serve 0 :: .start (aRequest "first" 0) ::
    List.append (List.replicate 3 (.serve 1)) (.fail 1 (.plain "export not reachable") ::
      List.append (List.replicate 9 (.serve 1)) (.start (aRequest "second" 960000) ::
        List.append (List.replicate 9 (.serve 2))
          [.fail 2 (.plain "summary not readable"), .serve 2]))

private def aLateFailure : DeliveryRow :=
  pendingDelivery aRunId .alert .fallback (generationFailedAlert .lotto "2026-07-01" 3)
    "1970-01-01T00:16:00.000Z"

/-- A generated run gets a ticket beyond its count and no longer reads back; another one gets the
alert that its generation failed. -/
theorem late_batches_on_generated_run :
    emptyPool.Unstarted ∧
    (∃ row, (poolAfter lateCommit).state.generatedRow = some row ∧
      (poolAfter lateCommit).state.tickets.get? (row.runId, 2) = none ∧
      (poolAfter (lateCommit ++ [.serve 1])).state.generatedRow = some row ∧
      (poolAfter (lateCommit ++ [.serve 1])).state.tickets.get? (row.runId, 2) = some aTicket ∧
      reconciledRun row ((poolAfter (lateCommit ++ [.serve 1])).state.ticketsOf row.runId) =
        .error (countMismatch row.runId)) ∧
    (poolAfter lateFailure).state.generatedRow.isSome ∧
      (poolAfter lateFailure).state.NewAlert (poolAfter (lateFailure ++ [.serve 2])).state
        (generationFailedAlert .lotto "2026-07-01" 3) := by
  refine ⟨⟨rfl, rfl, rfl, rfl⟩,
    ⟨_, rfl, by decide +kernel, by decide +kernel, by decide +kernel, ?_⟩,
    by decide +kernel, alertId aRunId, aLateFailure, by decide +kernel, rfl, rfl, by decide +kernel⟩
  rfl

private def oneWorker : List (GenerationEvent aHost "2026-07-01") :=
  .start (.configure (aRow 2)) :: .serve 0 :: .start (aRequest "first" 0) ::
    List.replicate 8 (.serve 1)

theorem generated_run_stays_one_worker :
    ∃ row, (poolAfter oneWorker).state.generatedRow = some row ∧ row.ticketCount = 2 ∧
      ∀ later, GenerationRun .lotto (· = poolAfter oneWorker) later →
        ∃ row', later.state.generatedRow = some row' ∧ row.SameRun row' := by
  have hrun : GenerationRun .lotto GenerationPool.Unstarted (poolAfter oneWorker) :=
    (ThreadPool.Run.start emptyPool ⟨rfl, rfl, rfl, rfl⟩).along (by decide +kernel)
  obtain ⟨row, hrow, hcount⟩ : ∃ row, (poolAfter oneWorker).state.generatedRow = some row ∧
      row.ticketCount = 2 := ⟨_, rfl, by decide +kernel⟩
  obtain ⟨-, -, -, hlater⟩ := (generated_run_stays hrun).1 row hrow
  exact ⟨row, hrow, hcount, fun later hrun' => (hlater later hrun').1⟩

end Yevow.Lotto
