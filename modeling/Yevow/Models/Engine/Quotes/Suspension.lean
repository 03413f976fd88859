import Mathlib.Logic.Relation
import Yevow.Core.Control.Except
import Yevow.Core.JavaScript.Reference
import Yevow.Models.Engine.Quotes.Suppression

/-!
# Suspensions over time

Every signal replaces the end of a suspension by its own, and only some signals withhold the
plans. A suspension lasts until its end exactly while no signal sets an earlier one.
-/

namespace Yevow.Engine

open JavaScript (Record Runtime Timestamp)
open Relation (ReflTransGen)

variable {Q P : Type} (js : Runtime)

/-- Trading and the quoting strategies are enabled. -/
def QuoteConfig.QuotesEnabled (config : QuoteConfig) : Prop :=
  config.TRADING_ENABLED = true ∧ strategyQuoteDisabledReason config = none

/-- What changes the quotes. -/
inductive QuoteOperation (Q P : Type)
  | tick (fallback : QuoteState Q) (input : QuoteSuppressionRuntimeInput Q P)
  | suspend (reason : String) (observedAt : Timestamp) (instrumentCode : Option String)
      (suspendedUntil : Timestamp) (lastQuote : Option Q)
  | resume (observedAt : Timestamp)

namespace QuoteOperation

/-- The moment of an operation. -/
def observedAt : QuoteOperation Q P → Timestamp
  | tick _ input => input.observedAt
  | suspend _ observedAt .. => observedAt
  | resume observedAt => observedAt

/-- The states after an operation; a tick that throws leaves them as they are. -/
def run (states : Record (QuoteState Q)) : QuoteOperation Q P → Record (QuoteState Q)
  | tick fallback input =>
    match applyQuoteSuppressionRuntime js states fallback input with
    | .ok result => statesAfterTick states input result
    | .error _ => states
  | suspend reason observedAt instrumentCode suspendedUntil lastQuote =>
    suspendAssetQuoteStates states reason observedAt
      ⟨instrumentCode, some suspendedUntil, lastQuote⟩
  | resume observedAt => resumeExpiredAssetQuoteStates js states observedAt

/-- Ticks are evaluated under one configuration and one selection of instruments. -/
def UnderConfig (config : QuoteConfig) (selected : String → Bool) : QuoteOperation Q P → Prop
  | tick _ input =>
    input.config = config ∧ input.instrumentSelected = selected input.instrumentCode
  | _ => True

end QuoteOperation

namespace QuoteSuppressionRuntimeInput

/-- The end that pulling all quotes sets, absent where they are not pulled. -/
def pullAllEnd (input : QuoteSuppressionRuntimeInput Q P) : Except String (Option Timestamp) :=
  if input.instrumentSelected = true ∧ input.pullAllQuotes = true then
    some <$> input.observedAt.plus js
      (resolveQuoteHibernateMs js input.config input.envQuoteHibernateMs)
  else pure none

/-- The end that a tick's signals set, absent without a signal. -/
def signalEnd (input : QuoteSuppressionRuntimeInput Q P) : Except String (Option Timestamp) := do
  let pullAllEnd ← input.pullAllEnd js
  if input.ensembleAnomalyCircuitBreaker = true then
    some <$> input.observedAt.plus js (.finite 60000)
  else if isProfilerQuoteHaltSignal input.profilerSignalType = true then
    some <$> profilerHaltEnd js (input.decision js (defaultQuoteState : QuoteState Q))
  else pure pullAllEnd

end QuoteSuppressionRuntimeInput

/-- The end is a date at or after `u`, or absent where no tick resumes the quotes. -/
def ReachesTime (selected : Bool) (u : ℤ) (suspendedUntil : Timestamp) : Prop :=
  if suspendedUntil.isEmpty = true then selected = false
  else ∃ t, suspendedUntil.parse js = some t ∧ u ≤ t

/-- A signal or a suspension for the instrument does not end before `u`. -/
def QuoteOperation.KeepsUntil (selected : String → Bool) (code : String) (u : ℤ) :
    QuoteOperation Q P → Prop
  | .tick _ input =>
    input.instrumentCode = code →
      ∀ suspendedUntil, input.signalEnd js = .ok (some suspendedUntil) →
        ReachesTime js (selected code) u suspendedUntil
  | .suspend _ _ instrumentCode suspendedUntil lastQuote =>
    code ∈ SuspendOptions.targets ⟨instrumentCode, some suspendedUntil, lastQuote⟩ →
      ReachesTime js (selected code) u suspendedUntil
  | .resume _ => True

/-- The quotes at some moment. -/
structure QuoteClock (Q : Type) where
  now : ℤ
  states : Record (QuoteState Q)

/-- An operation at a time that is not before the last one and, while `u` has not passed,
none that ends a suspension of the instrument before `u`. -/
def QuoteStep (P : Type) (config : QuoteConfig) (selected : String → Bool) (code : String)
    (u : ℤ) (s s' : QuoteClock Q) : Prop :=
  ∃ op : QuoteOperation Q P, op.UnderConfig config selected ∧
    op.observedAt.parse js = some s'.now ∧ s.now ≤ s'.now ∧ s'.states = op.run js s.states ∧
      (s'.now < u → op.KeepsUntil js selected code u)

/-- The state stored for an instrument. -/
def storedQuoteState (states : Record (QuoteState Q)) (code : String) : QuoteState Q :=
  quoteStateForInstrumentState states code defaultQuoteState

/-- Suspended up to some moment. -/
def QuoteState.SuspendedUntil (state : QuoteState Q) (u : ℤ) : Prop :=
  state.status = .suspended ∧ ∃ t, state.end? = some t ∧ t.parse js = some u

/-- The plans are withheld, or there are none, or no suspension is left that would call for
withholding them. -/
def QuoteSuppressionRuntimeInput.PlansWithheld (input : QuoteSuppressionRuntimeInput Q P)
    (previous : QuoteState Q) : Prop :=
  input.executionPlans = [] ∨ input.ensembleAnomalyCircuitBreaker = true ∨
    isProfilerQuoteHaltSignal input.profilerSignalType = true ∨
      input.instrumentSelected = true ∧
        if input.pullAllQuotes = true then
          ∀ suspendedUntil, input.observedAt.plus js
              (resolveQuoteHibernateMs js input.config input.envQuoteHibernateMs) =
                .ok suspendedUntil → suspendedUntil.after js input.observedAt = false
        else previous.end? = none ∨ isQuoteSuspendedAt js previous input.observedAt = false

variable {js} {config : QuoteConfig} {selected : String → Bool} {code : String} {u : ℤ}

/-! ## One tick -/

/-- The state that a signal with an end sets, and the one a tick without a signal keeps. -/
def TickOutcome (js : Runtime) (input : QuoteSuppressionRuntimeInput Q P)
    (previous state : QuoteState Q) : Option Timestamp → Prop
  | some suspendedUntil =>
    ∃ before reason, state =
      suspendedQuoteState before reason (some suspendedUntil) input.observedAt
  | none =>
    if input.instrumentSelected = true then
      state = keptQuoteState js previous input.quote input.observedAt
    else ∃ reason, state = suspendedQuoteState previous reason none input.observedAt

/-- Under an enabled configuration the next state follows the selection and pull-all. -/
private theorem nextQuoteState_enabled (henabled : config.QuotesEnabled)
    (input : QuoteSuppressionRuntimeInput Q P) (hconfig : input.config = config)
    (previous : QuoteState Q) {hibernateMs : Number} :
    nextQuoteStateForInstrument js
        ⟨previous, input.quote, input.config.TRADING_ENABLED,
          strategyQuoteDisabledReason input.config, input.instrumentSelected,
          input.pullAllQuotes, hibernateMs, input.observedAt⟩ =
      if input.instrumentSelected = false then
        .ok (suspendedQuoteState previous "MOLTWORKER_NOT_SELECTED" none input.observedAt)
      else if input.pullAllQuotes = true then do
        let suspendedUntil ← input.observedAt.plus js hibernateMs
        return suspendedQuoteState previous "ADVERSE_SELECTION_CRITICAL" (some suspendedUntil)
          input.observedAt
      else .ok (keptQuoteState js previous input.quote input.observedAt) := by
  obtain ⟨htrading, hstrategy⟩ := henabled
  subst hconfig
  unfold nextQuoteStateForInstrument
  simp only [htrading, hstrategy, Bool.true_eq_false, if_false, Option.filter_none]

/-- Without a breaker or a halt the outcome is that of the pull-all. -/
private theorem next_outcome (henabled : config.QuotesEnabled)
    {input : QuoteSuppressionRuntimeInput Q P} (hconfig : input.config = config)
    {previous state : QuoteState Q}
    (h : nextQuoteStateForInstrument js
        ⟨previous, input.quote, input.config.TRADING_ENABLED,
          strategyQuoteDisabledReason input.config, input.instrumentSelected,
          input.pullAllQuotes, resolveQuoteHibernateMs js input.config input.envQuoteHibernateMs,
          input.observedAt⟩ = .ok state) :
    ∃ pullAllEnd, input.pullAllEnd js = .ok pullAllEnd ∧
      TickOutcome js input previous state pullAllEnd := by
  rw [nextQuoteState_enabled henabled input hconfig] at h
  unfold QuoteSuppressionRuntimeInput.pullAllEnd
  cases hselected : input.instrumentSelected with
  | false =>
    simp only [hselected, if_true, Except.ok.injEq] at h
    refine ⟨none, by simp, ?_⟩
    simp only [TickOutcome, hselected, Bool.false_eq_true, if_false]
    exact ⟨_, h.symm⟩
  | true =>
    simp only [hselected, Bool.true_eq_false, if_false] at h
    cases hpull : input.pullAllQuotes with
    | false =>
      simp only [hpull, Bool.false_eq_true, if_false, Except.ok.injEq] at h
      refine ⟨none, by simp, ?_⟩
      simp only [TickOutcome, hselected, if_true]
      exact h.symm
    | true =>
      simp only [hpull, if_true, Except.bind_eq_ok] at h
      obtain ⟨suspendedUntil, hplus, hstate⟩ := h
      refine ⟨some suspendedUntil, by simp [hplus], ?_⟩
      exact ⟨_, _, (Except.ok.inj hstate).symm⟩

/-- The three decisions: a breaker, a halt, or neither. -/
private theorem decision_cases {d : QuoteSuppressionDecisionInput Q}
    {r : QuoteSuppressionDecisionResult Q} (h : quoteSuppressionDecision js d = .ok r) :
    (d.ensembleAnomalyCircuitBreaker = true ∧ ∃ suspendedUntil,
      d.observedAt.plus js (.finite 60000) = .ok suspendedUntil ∧
        r.executionPlansAllowed = false ∧ ∃ reason, r.quoteState =
          suspendedQuoteState d.previous reason (some suspendedUntil) d.observedAt) ∨
    (¬d.ensembleAnomalyCircuitBreaker = true ∧
      isProfilerQuoteHaltSignal d.profilerSignalType = true ∧ ∃ suspendedUntil,
        profilerHaltEnd js d = .ok suspendedUntil ∧
          r.executionPlansAllowed = false ∧ ∃ reason, r.quoteState =
            suspendedQuoteState d.previous reason (some suspendedUntil) d.observedAt) ∨
    (¬d.ensembleAnomalyCircuitBreaker = true ∧
      ¬isProfilerQuoteHaltSignal d.profilerSignalType = true ∧
        r.executionPlansAllowed = true) := by
  unfold quoteSuppressionDecision at h
  by_cases hbreaker : d.ensembleAnomalyCircuitBreaker = true
  · rw [if_pos hbreaker, Except.bind_eq_ok] at h
    obtain ⟨suspendedUntil, hplus, h⟩ := h
    obtain rfl := Except.ok.inj h
    exact Or.inl ⟨hbreaker, suspendedUntil, hplus, rfl, _, rfl⟩
  · rw [if_neg hbreaker] at h
    by_cases hhalt : isProfilerQuoteHaltSignal d.profilerSignalType = true
    · rw [if_pos hhalt, Except.bind_eq_ok] at h
      obtain ⟨suspendedUntil, hend, h⟩ := h
      obtain rfl := Except.ok.inj h
      exact Or.inr (Or.inl ⟨hbreaker, hhalt, suspendedUntil, hend, rfl, _, rfl⟩)
    · rw [if_neg hhalt] at h
      obtain rfl := Except.ok.inj h
      exact Or.inr (Or.inr ⟨hbreaker, hhalt, rfl⟩)

/-- What an evaluated tick returns, by its signal. -/
theorem tick_outcome (henabled : config.QuotesEnabled) {states : Record (QuoteState Q)}
    {fallback : QuoteState Q} {input : QuoteSuppressionRuntimeInput Q P}
    {result : QuoteSuppressionRuntimeResult Q P} (hconfig : input.config = config)
    (h : applyQuoteSuppressionRuntime js states fallback input = .ok result) :
    (∃ signal, input.signalEnd js = .ok signal ∧
      TickOutcome js input (quoteStateForInstrumentState states input.instrumentCode fallback)
        result.assetQuoteState signal) ∧
    result.executionPlans =
      if input.ensembleAnomalyCircuitBreaker = true ∨
        isProfilerQuoteHaltSignal input.profilerSignalType = true then []
      else input.executionPlans := by
  unfold applyQuoteSuppressionRuntime at h
  rw [Except.bind_eq_ok] at h
  obtain ⟨asset, hnext, h⟩ := h
  rw [Except.bind_eq_ok] at h
  obtain ⟨suppression, hdecision, h⟩ := h
  obtain rfl := Except.ok.inj h
  obtain ⟨pullAllEnd, hpull, houtcome⟩ := next_outcome henabled hconfig hnext
  unfold QuoteSuppressionRuntimeInput.signalEnd
  rw [hpull, Except.bind_ok]
  rcases decision_cases hdecision with
    ⟨hbreaker, suspendedUntil, hplus, hallowed, reason, hstate⟩ |
    ⟨hbreaker, hhalt, suspendedUntil, hend, hallowed, reason, hstate⟩ |
    ⟨hbreaker, hhalt, hallowed⟩
  · change input.ensembleAnomalyCircuitBreaker = true at hbreaker
    have hplus' : input.observedAt.plus js (.finite 60000) = .ok suspendedUntil := hplus
    simp only [applyQuoteSuppressionPolicy, hallowed, hstate, Bool.false_eq_true, if_false]
    rw [if_pos hbreaker, if_pos (Or.inl hbreaker), hplus']
    exact ⟨⟨some suspendedUntil, rfl, asset, reason, rfl⟩, rfl⟩
  · change ¬input.ensembleAnomalyCircuitBreaker = true at hbreaker
    change isProfilerQuoteHaltSignal input.profilerSignalType = true at hhalt
    have hend' : profilerHaltEnd js (input.decision js (defaultQuoteState : QuoteState Q)) =
        .ok suspendedUntil := hend
    simp only [applyQuoteSuppressionPolicy, hallowed, hstate, Bool.false_eq_true, if_false]
    rw [if_neg hbreaker, if_pos hhalt, if_pos (Or.inr hhalt), hend']
    exact ⟨⟨some suspendedUntil, rfl, asset, reason, rfl⟩, rfl⟩
  · change ¬input.ensembleAnomalyCircuitBreaker = true at hbreaker
    change ¬isProfilerQuoteHaltSignal input.profilerSignalType = true at hhalt
    simp only [applyQuoteSuppressionPolicy, hallowed, if_true]
    rw [if_neg hbreaker, if_neg hhalt, if_neg (not_or.mpr ⟨hbreaker, hhalt⟩)]
    exact ⟨⟨pullAllEnd, rfl, houtcome⟩, rfl⟩

/-! ## The invariant of a suspension -/

/-- The state is suspended at least until `u`, or without an end that ticks would remove. -/
def QuoteState.Held (js : Runtime) (selected : Bool) (u : ℤ) (state : QuoteState Q) : Prop :=
  state.status = .suspended ∧
    match state.end? with
    | none => selected = false
    | some suspendedUntil => ∃ t, suspendedUntil.parse js = some t ∧ u ≤ t

private theorem QuoteState.SuspendedUntil.held {state : QuoteState Q}
    (h : state.SuspendedUntil js u)
    (selected : Bool) : state.Held js selected u := by
  obtain ⟨hstatus, t, hend, ht⟩ := h
  refine ⟨hstatus, ?_⟩
  rw [hend]
  exact ⟨u, ht, le_refl u⟩

/-- A state that is held is suspended at every time before `u`. -/
theorem QuoteState.Held.isQuoteSuspendedAt {state : QuoteState Q} {isSelected : Bool}
    (h : state.Held js isSelected u) {observedAt : Timestamp} {t : ℤ}
    (ht : observedAt.parse js = some t) (hlt : t < u) :
    isQuoteSuspendedAt js state observedAt = true := by
  obtain ⟨hstatus, hend⟩ := h
  unfold Engine.isQuoteSuspendedAt
  rw [hstatus]
  cases hstate : state.end? with
  | none => rfl
  | some suspendedUntil =>
    rw [hstate] at hend
    obtain ⟨e, he, hle⟩ := hend
    simp only [Timestamp.after, he, ht, decide_eq_true_eq]
    omega

private theorem held_suspendedQuoteState {isSelected : Bool} {suspendedUntil : Timestamp}
    (h : ReachesTime js isSelected u suspendedUntil) (before : QuoteState Q) (reason : String)
    (observedAt : Timestamp) :
    (suspendedQuoteState before reason (some suspendedUntil) observedAt).Held js isSelected u := by
  refine ⟨rfl, ?_⟩
  unfold ReachesTime at h
  cases hempty : suspendedUntil.isEmpty with
  | true =>
    rw [if_pos hempty] at h
    simp only [suspendedQuoteState, QuoteState.end?, hempty, Option.filter_some, decide_false,
      Bool.true_eq_false, Bool.false_eq_true, if_false]
    exact h
  | false =>
    rw [if_neg (by simp [hempty])] at h
    simp only [suspendedQuoteState, QuoteState.end?, hempty, Option.filter_some, decide_true,
      if_true]
    exact h

private theorem held_keptQuoteState {state : QuoteState Q} (h : state.Held js true u)
    (quote : Option Q)
    {observedAt : Timestamp} {t : ℤ} (ht : observedAt.parse js = some t) (hlt : t < u) :
    (keptQuoteState js state quote observedAt).Held js true u := by
  have hend := h.2
  unfold keptQuoteState
  cases hstate : state.end? with
  | none =>
    rw [hstate] at hend
    cases hend
  | some suspendedUntil =>
    rw [hstate] at hend
    obtain ⟨e, he, hle⟩ := hend
    have hafter : suspendedUntil.after js observedAt = true := by
      simp only [Timestamp.after, he, ht, decide_eq_true_eq]
      omega
    rw [if_pos (by simpa using hafter)]
    exact h

/-- A tick keeps the suspension unless its signal ends before `u`. -/
theorem TickOutcome.held {input : QuoteSuppressionRuntimeInput Q P} {previous state : QuoteState Q}
    {signal : Option Timestamp} (h : TickOutcome js input previous state signal)
    (hheld : previous.Held js input.instrumentSelected u)
    (hkeeps : ∀ e, signal = some e → ReachesTime js input.instrumentSelected u e) {t : ℤ}
    (ht : input.observedAt.parse js = some t) (hlt : t < u) :
    state.Held js input.instrumentSelected u := by
  cases signal with
  | some suspendedUntil =>
    obtain ⟨before, reason, rfl⟩ := h
    exact held_suspendedQuoteState (hkeeps _ rfl) before reason _
  | none =>
    cases hselected : input.instrumentSelected with
    | true =>
      simp only [TickOutcome, hselected, if_true] at h
      rw [hselected] at hheld
      subst h
      exact held_keptQuoteState hheld _ ht hlt
    | false =>
      simp only [TickOutcome, hselected, Bool.false_eq_true, if_false] at h
      obtain ⟨reason, rfl⟩ := h
      exact ⟨rfl, rfl⟩

private theorem held_resumedQuoteState {state : QuoteState Q} {isSelected : Bool}
    (h : state.Held js isSelected u) {observedAt : Timestamp} {t : ℤ}
    (ht : observedAt.parse js = some t) (hlt : t < u) :
    (resumedQuoteState js state observedAt).Held js isSelected u := by
  unfold resumedQuoteState
  rw [if_pos (h.isQuoteSuspendedAt ht hlt)]
  exact h

/-! ## Runs -/

/-- The stored state of the instrument is held. -/
def HeldIn (js : Runtime) (selected : String → Bool) (code : String) (u : ℤ)
    (states : Record (QuoteState Q)) : Prop :=
  ∃ state, states.get? code = some state ∧ state.Held js (selected code) u

private theorem normalize_of_target (hcode : code ∈ targetInstruments) :
    normalizeNativeInstrumentCode code = code := by
  simp only [targetInstruments, List.mem_cons, List.not_mem_nil, or_false] at hcode
  rcases hcode with rfl | rfl
  · decide +kernel
  · decide +kernel

/-- An operation before `u` that sets no earlier end keeps the instrument suspended. -/
theorem QuoteOperation.held_run (henabled : config.QuotesEnabled)
    (hcode : code ∈ targetInstruments) {states : Record (QuoteState Q)}
    (h : HeldIn js selected code u states) {op : QuoteOperation Q P}
    (hunder : op.UnderConfig config selected) {t : ℤ} (ht : op.observedAt.parse js = some t)
    (hlt : t < u) (hkeeps : op.KeepsUntil js selected code u) :
    HeldIn js selected code u (op.run js states) := by
  obtain ⟨state, hstate, hheld⟩ := h
  cases op with
  | tick fallback input =>
    obtain ⟨hconfig, hselected⟩ := hunder
    cases hresult : applyQuoteSuppressionRuntime js states fallback input with
    | error e =>
      simp only [QuoteOperation.run, hresult]
      exact ⟨state, hstate, hheld⟩
    | ok result =>
      simp only [QuoteOperation.run, hresult, statesAfterTick]
      by_cases hsame : input.instrumentCode = code
      · subst hsame
        obtain ⟨⟨signal, hsignal, houtcome⟩, -⟩ := tick_outcome henabled hconfig hresult
        unfold quoteStateForInstrumentState at houtcome
        rw [normalize_of_target hcode, hstate, Option.getD_some] at houtcome
        rw [← hselected] at hheld
        refine ⟨_, Rows.get?_set_self _ _ _, ?_⟩
        rw [← hselected]
        refine houtcome.held hheld (fun e he => ?_) ht hlt
        subst he
        rw [hselected]
        exact hkeeps rfl e hsignal
      · exact ⟨state, by rw [Rows.get?_set, if_neg (Ne.symm hsame), hstate], hheld⟩
  | suspend reason observedAt instrumentCode suspendedUntil lastQuote =>
    unfold QuoteOperation.run suspendAssetQuoteStates HeldIn
    rw [get?_forTargets _ hcode]
    refine ⟨_, rfl, ?_⟩
    split
    · rename_i hmem
      exact held_suspendedQuoteState (hkeeps hmem)
        ⟨.active, none, none, lastQuote <|> ((states.get? code).getD defaultQuoteState).lastQuote,
          none⟩ reason observedAt
    · rw [hstate]
      exact hheld
  | resume observedAt =>
    unfold QuoteOperation.run resumeExpiredAssetQuoteStates HeldIn
    rw [get?_forTargets _ hcode, hstate]
    exact ⟨_, rfl, held_resumedQuoteState hheld ht hlt⟩

/-- The clock never goes back, and a suspension is held until its end has passed. -/
theorem held_of_run (henabled : config.QuotesEnabled) (hcode : code ∈ targetInstruments)
    {s s' : QuoteClock Q} (h : HeldIn js selected code u s.states)
    (hrun : ReflTransGen (QuoteStep js P config selected code u) s s') :
    s'.now < u → HeldIn js selected code u s'.states := by
  induction hrun with
  | refl => exact fun _ => h
  | tail _ hstep ih =>
    intro hlt
    obtain ⟨op, hunder, htime, hle, hstates, hkeeps⟩ := hstep
    rw [hstates]
    exact QuoteOperation.held_run henabled hcode (ih (lt_of_le_of_lt hle hlt)) hunder htime hlt
      (hkeeps hlt)

private theorem heldIn_of_suspendedUntil (hcode : code ∈ targetInstruments)
    {states : Record (QuoteState Q)} (h : (storedQuoteState states code).SuspendedUntil js u) :
    HeldIn js selected code u states := by
  unfold storedQuoteState quoteStateForInstrumentState at h
  rw [normalize_of_target hcode] at h
  cases hstate : states.get? code with
  | none =>
    rw [hstate, Option.getD_none] at h
    cases h.1
  | some state =>
    rw [hstate, Option.getD_some] at h
    exact ⟨state, hstate, h.held _⟩

/-! ## The plans of a tick -/

private theorem isQuoteSuspendedAt_none (state : QuoteState Q) (reason : String)
    (observedAt : Timestamp) :
    isQuoteSuspendedAt js (suspendedQuoteState state reason none observedAt) observedAt = true :=
  rfl

/-- A state without a signal is suspended only by an end that was stored before. -/
theorem isQuoteSuspendedAt_keptQuoteState (state : QuoteState Q) (quote : Option Q)
    (observedAt : Timestamp) :
    isQuoteSuspendedAt js (keptQuoteState js state quote observedAt) observedAt = false ↔
      state.end? = none ∨ isQuoteSuspendedAt js state observedAt = false := by
  unfold keptQuoteState isQuoteSuspendedAt
  cases hend : state.end? with
  | none => simp
  | some suspendedUntil =>
    cases hstatus : state.status with
    | active =>
      by_cases hafter : suspendedUntil.after js observedAt = true
      · simp [hafter, hstatus]
      · simp [hafter]
    | suspended =>
      by_cases hafter : suspendedUntil.after js observedAt = true
      · simp [hafter, hstatus, hend]
      · simp [hafter]

/-- A computed end is a date, so it suspends exactly when it lies after the tick. -/
private theorem isQuoteSuspendedAt_plus {before : QuoteState Q} {reason : String}
    {observedAt suspendedUntil : Timestamp} {ms : Number}
    (hplus : observedAt.plus js ms = .ok suspendedUntil) :
    isQuoteSuspendedAt js (suspendedQuoteState before reason (some suspendedUntil) observedAt)
      observedAt = suspendedUntil.after js observedAt := by
  have hempty : suspendedUntil.isEmpty = false := by
    unfold Timestamp.plus at hplus
    split at hplus
    · dsimp only at hplus
      split at hplus
      · obtain rfl := Except.ok.inj hplus
        rfl
      · cases hplus
    · cases hplus
  simp only [isQuoteSuspendedAt, suspendedQuoteState, QuoteState.end?, Option.filter_some, hempty,
    decide_true, if_true]

/-- A tick that returns a suspended state returns no plans, exactly under its condition. -/
private theorem plansWithheld_of_tick (henabled : config.QuotesEnabled)
    {states : Record (QuoteState Q)} {fallback : QuoteState Q}
    {input : QuoteSuppressionRuntimeInput Q P} {result : QuoteSuppressionRuntimeResult Q P}
    (hconfig : input.config = config)
    (h : applyQuoteSuppressionRuntime js states fallback input = .ok result) :
    (isQuoteSuspendedAt js result.assetQuoteState input.observedAt = true →
      result.executionPlans = []) ↔
    input.PlansWithheld js
      (quoteStateForInstrumentState states input.instrumentCode fallback) := by
  obtain ⟨⟨signal, hsignal, houtcome⟩, hplans⟩ := tick_outcome henabled hconfig h
  rw [hplans]
  unfold QuoteSuppressionRuntimeInput.PlansWithheld
  unfold QuoteSuppressionRuntimeInput.signalEnd at hsignal
  by_cases hbreaker : input.ensembleAnomalyCircuitBreaker = true
  · simp [hbreaker]
  by_cases hhalt : isProfilerQuoteHaltSignal input.profilerSignalType = true
  · simp [hhalt]
  rw [if_neg (not_or.mpr ⟨hbreaker, hhalt⟩)]
  by_cases hnone : input.executionPlans = []
  · simp [hnone]
  simp only [hnone, hbreaker, hhalt, false_or, imp_false, Bool.not_eq_true]
  simp only [hbreaker, hhalt, Bool.false_eq_true, if_false, Except.bind_eq_ok] at hsignal
  obtain ⟨pullAllEnd, hpullAll, hsame⟩ := hsignal
  obtain rfl := Except.ok.inj hsame
  unfold QuoteSuppressionRuntimeInput.pullAllEnd at hpullAll
  cases hselected : input.instrumentSelected with
  | false =>
    simp only [hselected, Bool.false_eq_true, false_and, if_false] at hpullAll
    obtain rfl := Except.ok.inj hpullAll
    simp only [TickOutcome, hselected, Bool.false_eq_true, if_false] at houtcome
    obtain ⟨reason, hstate⟩ := houtcome
    simp [hstate, isQuoteSuspendedAt_none]
  | true =>
    simp only [hselected, true_and] at hpullAll ⊢
    by_cases hpull : input.pullAllQuotes = true
    · rw [if_pos hpull] at hpullAll ⊢
      cases hplus : input.observedAt.plus js
          (resolveQuoteHibernateMs js input.config input.envQuoteHibernateMs) with
      | error e =>
        rw [hplus] at hpullAll
        cases hpullAll
      | ok suspendedUntil =>
        rw [hplus] at hpullAll
        obtain rfl := Except.ok.inj hpullAll
        obtain ⟨before, reason, hstate⟩ := houtcome
        rw [hstate, isQuoteSuspendedAt_plus hplus]
        simp
    · rw [if_neg hpull] at hpullAll ⊢
      obtain rfl := Except.ok.inj hpullAll
      simp only [TickOutcome, hselected, if_true] at houtcome
      rw [houtcome, isQuoteSuspendedAt_keptQuoteState]
      simp only [Bool.false_eq_true, false_or]

/-! ## The law of suspensions -/

/-- Once suspended until `u`, an instrument stays suspended until then in every run whose
signals and suspensions before `u` do not end before it; and a tick that returns a suspended
state returns no plans exactly when its signals withhold them, it has none, or neither its
pull-all nor a suspension that still runs suspends the selected instrument. -/
theorem suspension_kept_and_plans_withheld (henabled : config.QuotesEnabled) :
    (∀ code ∈ targetInstruments, ∀ (u : ℤ) (s s' : QuoteClock Q),
      (storedQuoteState s.states code).SuspendedUntil js u →
      ReflTransGen (QuoteStep js P config selected code u) s s' →
      ∀ observedAt t, observedAt.parse js = some t → s'.now ≤ t → t < u →
        isQuoteSuspendedAt js (storedQuoteState s'.states code) observedAt = true) ∧
    ∀ (states : Record (QuoteState Q)) fallback (input : QuoteSuppressionRuntimeInput Q P) result,
      input.config = config → applyQuoteSuppressionRuntime js states fallback input = .ok result →
      ((isQuoteSuspendedAt js result.assetQuoteState input.observedAt = true →
          result.executionPlans = []) ↔
        input.PlansWithheld js
          (quoteStateForInstrumentState states input.instrumentCode fallback)) := by
  constructor
  · intro code hcode u s s' hsuspended hrun observedAt t ht hnow hlt
    have hheld : HeldIn js selected code u s.states :=
      heldIn_of_suspendedUntil hcode hsuspended
    obtain ⟨state, hstate, hheld⟩ :=
      held_of_run henabled hcode hheld hrun (lt_of_le_of_lt hnow hlt)
    unfold storedQuoteState quoteStateForInstrumentState
    rw [normalize_of_target hcode, hstate, Option.getD_some]
    exact hheld.isQuoteSuspendedAt ht hlt
  · intro states fallback input result hconfig h
    exact plansWithheld_of_tick henabled hconfig h

/-! ## Concrete runs -/

private def exampleQuoteConfig : QuoteConfig where
  TRADING_ENABLED := true
  CROUPIER_ENABLED := true
  PIT_BOSS_ENABLED := true
  MARKET_MAKING_MODE := .balanced
  QUOTE_HIBERNATE_MS := .finite 3000
  AM_VPIN_QUOTE_HALT_MS := .finite 60000

private def exampleTick (pullAllQuotes : Bool) (profilerSuspendedUntil : Option Timestamp)
    (observedAt : ℤ) : QuoteSuppressionRuntimeInput Unit String where
  instrumentCode := "btc-usd"
  quote := none
  pullAllQuotes := pullAllQuotes
  instrumentSelected := true
  config := exampleQuoteConfig
  envQuoteHibernateMs := none
  tradingEnabled := true
  shadowReplay := false
  executionPlans := ["plan"]
  profilerSignalType := profilerSuspendedUntil.map fun _ => "SUSPEND_QUOTES"
  profilerSuspendedUntil := profilerSuspendedUntil
  profilerQuoteHaltUntil := none
  ensembleAnomalyCircuitBreaker := false
  observedAt := .iso observedAt

/-- The instrument's state is suspended until a time. -/
private def haltedStates (suspendedUntil : ℤ) : Record (QuoteState Unit) :=
  suspendAssetQuoteStates Rows.empty "WHALE_PRINT" (.iso 0)
    ⟨some "btc-usd", some (.iso suspendedUntil), none⟩

private def exampleJs : Runtime := JavaScript.reference .double

/-- The two orders of signals in which the law fails: pulling all quotes one second into a
halt of one minute ends it after four seconds, and it hands out the plans of its tick. -/
theorem pullAll_shortens_halt_and_returns_plans :
    exampleQuoteConfig.QuotesEnabled ∧
    (storedQuoteState (haltedStates 60000) "btc-usd").SuspendedUntil exampleJs 60000 ∧
    isQuoteSuspendedAt exampleJs
      (storedQuoteState ((QuoteOperation.tick defaultQuoteState (exampleTick true none 1000)).run
        exampleJs (haltedStates 60000)) "btc-usd") (.iso 5000) = false ∧
    (applyQuoteSuppressionRuntime exampleJs (haltedStates 60000) defaultQuoteState
        (exampleTick true none 1000)).toOption.map
      (fun result =>
        (isQuoteSuspendedAt exampleJs result.assetQuoteState (.iso 1000), result.executionPlans)) =
      some (true, ["plan"]) := by
  refine ⟨⟨rfl, rfl⟩, ⟨by decide +kernel, .iso 60000, by decide +kernel, rfl⟩, ?_, ?_⟩
  · decide +kernel
  · decide +kernel

/-- A second halt, which ends later, keeps the first one; its tick hands out no plans. -/
theorem extended_halt_keeps_suspension :
    isQuoteSuspendedAt exampleJs
      (storedQuoteState ((QuoteOperation.tick defaultQuoteState
        (exampleTick false (some (.iso 90000)) 1000)).run exampleJs (haltedStates 60000))
        "btc-usd") (.iso 59999) = true ∧
    ∀ result, applyQuoteSuppressionRuntime exampleJs (haltedStates 60000) defaultQuoteState
        (exampleTick false (some (.iso 90000)) 1000) = .ok result →
      isQuoteSuspendedAt exampleJs result.assetQuoteState (.iso 1000) = true →
        result.executionPlans = [] := by
  have hlaw := @suspension_kept_and_plans_withheld Unit String exampleJs exampleQuoteConfig
    (fun _ => true) ⟨rfl, rfl⟩
  constructor
  · refine hlaw.1 "btc-usd" (by decide) 60000 ⟨0, haltedStates 60000⟩ ⟨1000, _⟩
      ⟨by decide +kernel, .iso 60000, by decide +kernel, rfl⟩ ?_ (.iso 59999) 59999 rfl
      (by decide) (by decide)
    refine .single ⟨.tick defaultQuoteState (exampleTick false (some (.iso 90000)) 1000),
      ⟨rfl, rfl⟩, rfl, by decide, rfl, ?_⟩
    rintro - - suspendedUntil hsignal
    obtain rfl : suspendedUntil = .iso 90000 := by
      have hend : (exampleTick false (some (.iso 90000)) 1000).signalEnd exampleJs =
        .ok (some (.iso 90000)) := rfl
      rw [hend] at hsignal
      cases hsignal
      rfl
    exact ⟨90000, rfl, by decide⟩
  · intro result hresult
    exact (hlaw.2 _ _ _ result rfl hresult).mpr (Or.inr (Or.inr (Or.inl rfl)))

end Yevow.Engine
