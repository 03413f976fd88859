import Mathlib.Algebra.Order.Floor.Ring
import Mathlib.Tactic.Linarith
import Yevow.Core.Number.SampleMoments
import Yevow.Models.Cascade.Closing
import Yevow.Models.Cascade.Detector

/-!
# Decisions of the cascade detector

A detector keeps only the liquidations of its lookback, and may be stored and restored between any
two of them. Where nothing is rounded and no liquidation is delivered twice, it decides what the
whole history of the liquidations decides.
-/

namespace Yevow.Cascade

open CascadeArithmetic (unrounded)
open JavaScript (toLower_toLower)

/-- A liquidation as it is delivered, with the context it is observed in. -/
structure Delivery (N : Type) where
  eventId : String
  event : LiquidationEvent N (LiquidationDetail N)
  atr1h : N
  priceAtStart : N

/-- A delivery arrives or the detector restarts. -/
inductive DetectorCall (N : Type) where
  | observe (delivery : Delivery N)
  | restart

namespace DetectorCall

variable {N : Type}

/-- The delivery of a call. -/
def delivery? : DetectorCall N → Option (Delivery N)
  | .observe delivery => some delivery
  | .restart => none

/-- The deliveries among the calls. -/
def deliveries (calls : List (DetectorCall N)) : List (Delivery N) := calls.filterMap delivery?

end DetectorCall

/-- The first delivery of each liquidation. -/
def distinctDeliveries {N : Type} (deliveries : List (Delivery N)) : List (Delivery N) :=
  deliveries.foldl (fun distinct delivery =>
    if delivery.eventId ∈ distinct.map Delivery.eventId then distinct
    else distinct ++ [delivery]) []

/-- The liquidations of an instrument among the deliveries. -/
def liquidationsOf {N : Type} (instrumentCode : String) (deliveries : List (Delivery N)) :
    List (LiquidationEvent N (LiquidationDetail N)) :=
  (deliveries.map Delivery.event).filter fun event =>
    event.instrumentCode.toLower = instrumentCode

section Spec

variable {N : Type} [Field N] [LinearOrder N] [FloorRing N] (dateParse : String → Option ℤ)
  (sqrt : N → N) (config : CascadeDetectorConfig N)

/-- One call of the detector. -/
def CascadeDetector.step (detector : CascadeDetector N) :
    DetectorCall N → CascadeDetector N × Option (CascadeEvent (CascadeDetail N))
  | .observe delivery =>
    detector.observe (unrounded N) dateParse sqrt config delivery.event delivery.atr1h
      delivery.priceAtStart
  | .restart => (CascadeDetector.new.hydrate detector.serialize, none)

/-- The state of a new detector after some calls. -/
def detectorAfter (calls : List (DetectorCall N)) : CascadeDetector N :=
  calls.foldl (fun detector call => (detector.step dateParse sqrt config call).1)
    CascadeDetector.new

/-- The cascade that a delivery after some calls is answered with. -/
def detected (calls : List (DetectorCall N)) (delivery : Delivery N) :
    Option (CascadeEvent (CascadeDetail N)) :=
  ((detectorAfter dateParse sqrt config calls).step dateParse sqrt config (.observe delivery)).2

/-! ## The whole history -/

/-- All liquidations so far, each once, and the cascades they made up. -/
structure DetectorHistory (N : Type) where
  deliveries : List (Delivery N)
  cascades : List (CascadeEvent (CascadeDetail N))

/-- A cascade of an instrument that is too close to a time. -/
def tooClose (instrumentCode : String) (nowMs : ℤ) (cascade : CascadeEvent (CascadeDetail N)) :
    Bool :=
  cascade.instrumentCode = instrumentCode &&
    parsedTo dateParse (fun ms => nowMs - ms < config.minCascadeSeparationMs) cascade.detectedAt

/-- What all distinct liquidations up to a delivery decide. -/
def DetectorHistory.decision (history : DetectorHistory N) (delivery : Delivery N) :
    Option (CascadeEvent (CascadeDetail N)) :=
  let instrumentCode := delivery.event.instrumentCode.toLower
  (dateParse delivery.event.observedAt).bind fun nowMs =>
    if history.cascades.any (tooClose dateParse config instrumentCode nowMs) then none
    else
      detectCascade (unrounded N) dateParse sqrt config instrumentCode
        (liquidationsOf instrumentCode (distinctDeliveries (history.deliveries ++ [delivery])))
          nowMs
        delivery.atr1h delivery.priceAtStart

/-- One call, decided from all deliveries so far. -/
def DetectorHistory.step (history : DetectorHistory N) : DetectorCall N → DetectorHistory N
  | .observe delivery =>
    { deliveries := history.deliveries ++ [delivery]
      cascades :=
        history.cascades ++ (history.decision dateParse sqrt config delivery).toList }
  | .restart => history

/-- The history of some calls, which a restart is no part of. -/
def historyAfter (calls : List (DetectorCall N)) : DetectorHistory N :=
  calls.foldl (DetectorHistory.step dateParse sqrt config) ⟨[], []⟩

/-! ## The figures of a cascade -/

/-- The notional of some events. -/
def notionalOf (events : List (LiquidationEvent N (LiquidationDetail N))) : N :=
  (events.map fun event => event.rest.notionalUsd).sum

/-- The liquidations of the last `windowMs`. -/
def lastWindow (nowMs : ℤ) (events : List (LiquidationEvent N (LiquidationDetail N))) :
    List (LiquidationEvent N (LiquidationDetail N)) :=
  events.filter fun event =>
    parsedTo dateParse (fun ms => nowMs - config.windowMs ≤ ms && ms ≤ nowMs) event.observedAt

/-- The part of the notional that is of the larger side. -/
def directionalShare (events : List (LiquidationEvent N (LiquidationDetail N))) : N :=
  let sideOf side := notionalOf (events.filter fun event => event.rest.side = side)
  if 0 < notionalOf events then max (sideOf .long) (sideOf .short) / notionalOf events else 0

/-- How many whole windows the lookback has. -/
def wholeWindows : ℤ := ⌊config.lookbackHours * 3600000 / config.windowMs⌋

/-- The notional of each whole window of the lookback, from its start on. -/
def windowNotionals (nowMs : ℤ) (events : List (LiquidationEvent N (LiquidationDetail N))) :
    List N :=
  let lookbackStartMs := nowMs - config.windowMs - config.lookbackHours * 3600000
  (List.range (wholeWindows config).toNat).map fun index : ℕ =>
    notionalOf (events.filter fun event =>
      parsedTo dateParse (fun ms =>
        lookbackStartMs + index * config.windowMs ≤ ms &&
          ms < lookbackStartMs + (index + 1) * config.windowMs) event.observedAt)

local instance instAtLeastTwoMillion : Nat.AtLeastTwo 1000000 := ⟨by omega⟩

/-- How many deviations a notional lies above the mean of the windows before. -/
def baselineScore (baseline : List N) (current : N) : N :=
  if (wholeWindows config : N) < config.minBaselineWindows then 0
  else
    let deviation := sqrt (max 0 (SampleMoments.variance baseline))
    if deviation = 0 then if SampleMoments.mean baseline < current then 1000000 else 0
    else (current - SampleMoments.mean baseline) / deviation

/-- A cascade reports on the liquidations of its window, against those of the lookback. -/
structure ReportsOn (events : List (LiquidationEvent N (LiquidationDetail N))) (nowMs : ℤ)
    (detail : CascadeDetail N) : Prop where
  notional : detail.liquidationNotional =
    roundMetric (unrounded N) (notionalOf (lastWindow dateParse config nowMs events)) 2
  count : detail.liquidationCount = (lastWindow dateParse config nowMs events).length
  share : detail.directionalPct =
    roundMetric (unrounded N) (directionalShare (lastWindow dateParse config nowMs events)) 4
  score : detail.zScore =
    roundMetric (unrounded N)
      (baselineScore sqrt config (windowNotionals dateParse config nowMs events)
        (notionalOf (lastWindow dateParse config nowMs events))) 4

/-! ## Runs -/

/-- A liquidation is kept that is not older than the lookback and the current window. -/
def recent (nowMs : ℤ) (event : LiquidationEvent N (LiquidationDetail N)) : Bool :=
  parsedTo dateParse (fun ms =>
    nowMs - (config.lookbackHours * 3600000 + config.windowMs) ≤ ms) event.observedAt

/-- Deliveries at valid times that never go back, of liquidations that have a side, and never more
of an instrument within the lookback than are kept. A liquidation is delivered again as it was. -/
structure Delivered (calls : List (DetectorCall N)) : Prop where
  valid : ∀ delivery ∈ DetectorCall.deliveries calls,
    (dateParse delivery.event.observedAt).isSome
  ordered : (DetectorCall.deliveries calls).Pairwise fun delivery later =>
    ∀ s ∈ dateParse delivery.event.observedAt, ∀ t ∈ dateParse later.event.observedAt, s ≤ t
  sided : ∀ delivery ∈ DetectorCall.deliveries calls, delivery.event.rest.side ≠ .unknown
  again : ∀ delivery ∈ DetectorCall.deliveries calls,
    ∀ later ∈ DetectorCall.deliveries calls, delivery.eventId = later.eventId →
      delivery.event = later.event
  kept : ∀ before delivery after, calls = before ++ .observe delivery :: after →
    ∀ nowMs, dateParse delivery.event.observedAt = some nowMs →
      ((liquidationsOf delivery.event.instrumentCode.toLower
        (DetectorCall.deliveries before ++ [delivery])).filter
          (recent dateParse config nowMs)).length ≤
          config.maxEventsPerInstrument

/-- The cascades of a run are apart, report on the distinct liquidations, and are decided as by
the whole history. -/
structure SoundDetection (calls : List (DetectorCall N)) : Prop where
  apart : ∀ before delivery between later after,
    calls = before ++ .observe delivery :: (between ++ .observe later :: after) →
    ∀ cascade cascade', detected dateParse sqrt config before delivery = some cascade →
      detected dateParse sqrt config (before ++ .observe delivery :: between) later =
        some cascade' →
      cascade.instrumentCode = cascade'.instrumentCode →
      ∀ s t, dateParse delivery.event.observedAt = some s →
        dateParse later.event.observedAt = some t →
          config.minCascadeSeparationMs ≤ ((t - s : ℤ) : N)
  reports : ∀ before delivery after, calls = before ++ .observe delivery :: after →
    ∀ cascade, detected dateParse sqrt config before delivery = some cascade →
      ∀ nowMs, dateParse delivery.event.observedAt = some nowMs →
        ReportsOn dateParse sqrt config
          (liquidationsOf delivery.event.instrumentCode.toLower
            (distinctDeliveries (DetectorCall.deliveries before ++ [delivery]))) nowMs cascade.rest
  decided : ∀ before delivery after, calls = before ++ .observe delivery :: after →
    detected dateParse sqrt config before delivery =
      (historyAfter dateParse sqrt config before).decision dateParse sqrt config delivery

/-! ## Figures without rounding -/

section Times

variable {dateParse} {text : String} {test : N → Bool}

omit [LinearOrder N] [FloorRing N] in
private theorem parsedTo_of_some {ms : ℤ} (h : dateParse text = some ms) :
    parsedTo dateParse test text = test ms := by
  rw [parsedTo, h]
  rfl

omit [LinearOrder N] [FloorRing N] in
private theorem parsedTo_of_none (h : dateParse text = none) :
    parsedTo dateParse test text = false := by
  rw [parsedTo, h]
  rfl

end Times

section Figures

variable {dateParse sqrt config} {events : List (LiquidationEvent N (LiquidationDetail N))}

omit [LinearOrder N] [FloorRing N] in
private theorem notionalOf_perm {others : List (LiquidationEvent N (LiquidationDetail N))}
    (h : events.Perm others) : notionalOf events = notionalOf others :=
  (h.map _).sum_eq

private theorem sideNotional_unrounded (side : LiquidationSide) :
    sideNotional (unrounded N) side events =
      notionalOf (events.filter fun event => event.rest.side = side) := by
  have hfold : ∀ start : N, events.foldl (fun sum event =>
      if event.rest.side = side then sum + event.rest.notionalUsd else sum) start =
        start + notionalOf (events.filter fun event => event.rest.side = side) := by
    induction events with
    | nil =>
      intro start
      exact (add_zero start).symm
    | cons event events ih =>
      intro start
      rw [List.foldl_cons, ih]
      by_cases hside : event.rest.side = side
      · rw [if_pos hside, List.filter_cons, if_pos (decide_eq_true hside), notionalOf, notionalOf,
          List.map_cons, List.sum_cons, add_assoc]
      · rw [if_neg hside, List.filter_cons_of_neg (by simpa using hside)]
  exact (hfold 0).trans (zero_add _)

/-- Where every liquidation has a side, the two sides add up to the notional. -/
theorem sideNotional_add (h : ∀ event ∈ events, event.rest.side ≠ .unknown) :
    sideNotional (unrounded N) .long events + sideNotional (unrounded N) .short events =
      notionalOf events := by
  rw [sideNotional_unrounded, sideNotional_unrounded]
  induction events with
  | nil => exact add_zero 0
  | cons event events ih =>
    have hrest := ih fun other hother => h other (List.mem_cons_of_mem _ hother)
    have hside := h event List.mem_cons_self
    simp only [notionalOf] at hrest ⊢
    rw [List.filter_cons, List.filter_cons, List.map_cons, List.sum_cons, ← hrest]
    cases hcase : event.rest.side with
    | long =>
      simp only [decide_true, if_true, reduceCtorEq, decide_false, Bool.false_eq_true, if_false,
        List.map_cons, List.sum_cons]
      ring
    | short =>
      simp only [decide_true, if_true, reduceCtorEq, decide_false, Bool.false_eq_true, if_false,
        List.map_cons, List.sum_cons]
      ring
    | unknown => exact absurd hcase hside

private theorem aggregateWindow_unrounded {others : List (LiquidationEvent N (LiquidationDetail N))}
    (h : events.Perm others) (hsided : ∀ event ∈ others, event.rest.side ≠ .unknown) :
    (aggregateWindow (unrounded N) events).totalNotional = notionalOf others ∧
      (aggregateWindow (unrounded N) events).directionalPct = directionalShare others := by
  have htotal : sideNotional (unrounded N) .long events +
      sideNotional (unrounded N) .short events = notionalOf others := by
    rw [sideNotional_add fun event hevent => hsided event (h.mem_iff.mp hevent)]
    exact notionalOf_perm h
  have hside : ∀ side, sideNotional (unrounded N) side events =
      notionalOf (others.filter fun event => event.rest.side = side) := by
    intro side
    rw [sideNotional_unrounded]
    exact notionalOf_perm (h.filter _)
  refine ⟨htotal, ?_⟩
  show (if 0 < sideNotional (unrounded N) .long events + sideNotional (unrounded N) .short events
    then max (sideNotional (unrounded N) .long events) (sideNotional (unrounded N) .short events) /
      (sideNotional (unrounded N) .long events + sideNotional (unrounded N) .short events)
    else 0) = _
  rw [htotal, hside, hside]
  rfl

variable [IsStrictOrderedRing N]

/-- The window of the lookback that a time lies in. -/
theorem floor_eq_iff_mem_window {startMs ms width : N} (hwidth : 0 < width) (index : ℕ) :
    ⌊(ms - startMs) / width⌋ = (index : ℤ) ↔
      startMs + index * width ≤ ms ∧ ms < startMs + (index + 1) * width := by
  rw [Int.floor_eq_iff, Int.cast_natCast, le_div_iff₀ hwidth, div_lt_iff₀ hwidth]
  constructor
  · rintro ⟨hlow, hhigh⟩
    constructor <;> linarith
  · rintro ⟨hlow, hhigh⟩
    constructor <;> linarith

/-- A whole window of the lookback ends before the current one starts. -/
theorem window_le_lookback (hwindow : 0 < config.windowMs) {index : ℕ}
    (hindex : index < (wholeWindows config).toNat) :
    ((index + 1 : ℕ) : N) * config.windowMs ≤ config.lookbackHours * 3600000 := by
  have hle : ((index + 1 : ℕ) : ℤ) ≤ wholeWindows config := by omega
  have hfloor : (((index + 1 : ℕ) : ℤ) : N) ≤ config.lookbackHours * 3600000 / config.windowMs :=
    Int.le_floor.mp hle
  rw [Int.cast_natCast] at hfloor
  exact (le_div_iff₀ hwindow).mp hfloor

omit [LinearOrder N] [FloorRing N] [IsStrictOrderedRing N] in
private theorem foldl_notional (events : List (LiquidationEvent N (LiquidationDetail N))) :
    events.foldl (fun sum event => sum + event.rest.notionalUsd) 0 = notionalOf events := by
  rw [notionalOf, List.sum_eq_foldl, List.foldl_map]

/-- The bucket of a liquidation is the whole window that it lies in. -/
private theorem bucket_iff (hwindow : 0 < config.windowMs) (nowMs : ℤ) {index : ℕ}
    (hindex : index < (wholeWindows config).toNat)
    (event : LiquidationEvent N (LiquidationDetail N)) :
    ((dateParse event.observedAt).bind fun eventMs =>
      if (eventMs : N) < nowMs - config.windowMs - config.lookbackHours * 3600000 ∨
          nowMs - config.windowMs ≤ (eventMs : N) ∨ (nowMs : N) < eventMs then none
      else some ⌊(eventMs - (nowMs - config.windowMs - config.lookbackHours * 3600000)) /
        config.windowMs⌋) = some (index : ℤ) ↔
      parsedTo dateParse (fun ms =>
        nowMs - config.windowMs - config.lookbackHours * 3600000 + index * config.windowMs ≤ ms &&
          ms < nowMs - config.windowMs - config.lookbackHours * 3600000 +
            (index + 1) * config.windowMs) event.observedAt = true := by
  cases htime : dateParse event.observedAt with
  | none =>
    rw [Option.bind_none, parsedTo_of_none htime]
    simp only [reduceCtorEq, Bool.false_eq_true]
  | some ms =>
    have hlast := window_le_lookback hwindow hindex
    push_cast at hlast
    have hstart : 0 ≤ (index : N) * config.windowMs :=
      mul_nonneg (Nat.cast_nonneg _) hwindow.le
    rw [Option.bind_some, parsedTo_of_some htime, Bool.and_eq_true, decide_eq_true_eq,
      decide_eq_true_eq, ← floor_eq_iff_mem_window hwindow]
    constructor
    · intro h
      split_ifs at h
      exact Option.some.inj h
    · intro h
      obtain ⟨hlow, hhigh⟩ := (floor_eq_iff_mem_window hwindow index).mp h
      rw [if_neg, h]
      rintro (hbefore | hafter | hlate)
      · linarith
      · linarith
      · linarith

/-- The buckets of the baseline are the whole windows of the lookback. -/
theorem zScore_unrounded (hwindow : 0 < config.windowMs) (nowMs : ℤ) (current : N) :
    zScore (unrounded N) dateParse sqrt config events (nowMs - config.windowMs) nowMs current =
      baselineScore sqrt config (windowNotionals dateParse config nowMs events) current := by
  have hbuckets : ((List.range (wholeWindows config).toNat).map fun index : ℕ =>
      (events.filter fun event => decide (((dateParse event.observedAt).bind fun eventMs =>
        if (eventMs : N) < nowMs - config.windowMs - config.lookbackHours * 3600000 ∨
            nowMs - config.windowMs ≤ (eventMs : N) ∨ (nowMs : N) < eventMs then none
        else some ⌊(eventMs - (nowMs - config.windowMs - config.lookbackHours * 3600000)) /
          config.windowMs⌋) = some (index : ℤ))).foldl
            (fun sum event => sum + event.rest.notionalUsd) 0) =
      windowNotionals dateParse config nowMs events := by
    unfold windowNotionals
    apply List.map_congr_left
    intro index hindex
    rw [foldl_notional]
    congr 1
    apply List.filter_congr
    intro event _
    rw [Bool.eq_iff_iff, decide_eq_true_eq]
    exact bucket_iff hwindow nowMs (List.mem_range.mp hindex) event
  have hcount : ⌊(nowMs - config.windowMs - (nowMs - config.windowMs -
      config.lookbackHours * 3600000)) / config.windowMs⌋ = wholeWindows config := by
    rw [sub_sub_cancel, wholeWindows]
  have hmean : ∀ values : List N, SampleMoments.mean values = (SampleMoments.pass values).1 := by
    intro values
    rw [SampleMoments.pass_eq]
  have hdeviation : ∀ values : List N,
      SampleMoments.deviation values = (SampleMoments.pass values).2 := by
    intro values
    rw [SampleMoments.pass_eq]
  unfold baselineScore SampleMoments.variance
  rw [hmean, hdeviation, ← hbuckets, ← hcount]
  rfl

/-- Only the current window and the windows of the baseline matter for a decision. -/
theorem detectCascade_congr (hwindow : 0 < config.windowMs) {nowMs : ℤ}
    {others : List (LiquidationEvent N (LiquidationDetail N))}
    (hcurrent : lastWindow dateParse config nowMs events =
      lastWindow dateParse config nowMs others)
    (hbaseline : windowNotionals dateParse config nowMs events =
      windowNotionals dateParse config nowMs others)
    (instrumentCode : String) (atr1h priceAtStart : N) :
    detectCascade (unrounded N) dateParse sqrt config instrumentCode events nowMs atr1h
        priceAtStart =
      detectCascade (unrounded N) dateParse sqrt config instrumentCode others nowMs atr1h
        priceAtStart := by
  have hfilter : (events.filter fun item => parsedTo dateParse (fun itemMs =>
      (unrounded N).number (nowMs - config.windowMs) ≤ itemMs && itemMs ≤ nowMs)
        item.observedAt) = others.filter fun item => parsedTo dateParse (fun itemMs =>
      (unrounded N).number (nowMs - config.windowMs) ≤ itemMs && itemMs ≤ nowMs)
        item.observedAt := hcurrent
  have hscore : ∀ current, zScore (unrounded N) dateParse sqrt config events
      ((unrounded N).number (nowMs - config.windowMs)) nowMs current =
        zScore (unrounded N) dateParse sqrt config others
          ((unrounded N).number (nowMs - config.windowMs)) nowMs current := by
    intro current
    refine (zScore_unrounded hwindow nowMs current).trans ?_
    rw [hbaseline]
    exact (zScore_unrounded hwindow nowMs current).symm
  unfold detectCascade
  simp only [hfilter, hscore]

/-- The liquidations that are kept decide what all of them decide. -/
theorem detectCascade_kept (hwindow : 0 < config.windowMs) (hlookback : 0 ≤ config.lookbackHours)
    {nowMs : ℤ} (instrumentCode : String) (atr1h priceAtStart : N) :
    detectCascade (unrounded N) dateParse sqrt config instrumentCode
        (events.filter (recent dateParse config nowMs)) nowMs atr1h priceAtStart =
      detectCascade (unrounded N) dateParse sqrt config instrumentCode events nowMs atr1h
        priceAtStart := by
  have hmillis : 0 ≤ config.lookbackHours * 3600000 := mul_nonneg hlookback (by norm_num)
  have hkept : ∀ (test : N → Bool),
      (∀ ms, test ms = true → nowMs - (config.lookbackHours * 3600000 + config.windowMs) ≤ ms) →
      (events.filter (recent dateParse config nowMs)).filter
        (fun event => parsedTo dateParse test event.observedAt) =
      events.filter fun event => parsedTo dateParse test event.observedAt := by
    intro test htest
    rw [List.filter_filter]
    apply List.filter_congr
    intro event _
    cases htime : dateParse event.observedAt with
    | none => simp only [parsedTo_of_none htime, Bool.false_and]
    | some ms =>
      simp only [recent, parsedTo_of_some htime]
      cases hpass : test ms with
      | false => rfl
      | true =>
        rw [Bool.true_and]
        exact decide_eq_true (htest ms hpass)
  apply detectCascade_congr hwindow
  · apply hkept
    intro ms hpass
    have hlow := of_decide_eq_true (Bool.and_eq_true_iff.mp hpass).1
    linarith
  · apply List.map_congr_left
    intro index _
    congr 1
    apply hkept
    intro ms hpass
    have hlow := of_decide_eq_true (Bool.and_eq_true_iff.mp hpass).1
    have hindex : 0 ≤ (index : N) * config.windowMs := mul_nonneg (Nat.cast_nonneg _) hwindow.le
    linarith

omit [IsStrictOrderedRing N] in
/-- A cascade carries its instrument and its time. -/
theorem stamped_of_detectCascade {nowMs : ℤ} {instrumentCode : String} {atr1h priceAtStart : N}
    {cascade : CascadeEvent (CascadeDetail N)}
    (h : detectCascade (unrounded N) dateParse sqrt config instrumentCode events nowMs atr1h
      priceAtStart = some cascade) :
    cascade.instrumentCode = instrumentCode ∧
      cascade.detectedAt = JavaScript.Timestamp.isoText nowMs := by
  unfold detectCascade at h
  dsimp only at h
  split_ifs at h
  obtain ⟨impact, -, himpact⟩ := Option.bind_eq_some_iff.mp h
  split_ifs at himpact
  obtain rfl := Option.some.inj himpact
  exact ⟨rfl, rfl⟩

/-- A cascade reports on what was liquidated. -/
theorem reportsOn_of_detectCascade (hwindow : 0 < config.windowMs) {nowMs : ℤ}
    (hsided : ∀ event ∈ events, event.rest.side ≠ .unknown) {instrumentCode : String}
    {atr1h priceAtStart : N} {cascade : CascadeEvent (CascadeDetail N)}
    (h : detectCascade (unrounded N) dateParse sqrt config instrumentCode events nowMs atr1h
      priceAtStart = some cascade) :
    ReportsOn dateParse sqrt config events nowMs cascade.rest := by
  have hperm := Sorting.perm_sortBy
    (fun left right : LiquidationEvent N (LiquidationDetail N) =>
      compareTimes dateParse left.observedAt right.observedAt)
    (lastWindow dateParse config nowMs events)
  obtain ⟨htotal, hshare⟩ := aggregateWindow_unrounded hperm fun event hevent =>
    hsided event (List.mem_filter.mp hevent).1
  have hscore := @zScore_unrounded N _ _ _ dateParse sqrt config events _ hwindow nowMs
    (notionalOf (lastWindow dateParse config nowMs events))
  unfold detectCascade at h
  dsimp only at h
  split_ifs at h
  obtain ⟨impact, -, himpact⟩ := Option.bind_eq_some_iff.mp h
  split_ifs at himpact
  obtain rfl := Option.some.inj himpact
  refine ⟨?_, hperm.length_eq, ?_, ?_⟩
  · rw [← htotal]
    rfl
  · rw [← hshare]
    rfl
  · rw [← hscore, ← htotal]
    rfl

end Figures

/-! ## Storing and restoring -/

section Restart

omit [Field N] [LinearOrder N] [FloorRing N]

/-- Events under the lower case of their instrument, and times under lower-case instruments. -/
structure CascadeDetector.Keyed (detector : CascadeDetector N) : Prop where
  events : ∀ code events, detector.eventsByInstrument.get? code = some events →
    ∀ event ∈ events, event.instrumentCode.toLower = code
  times : ∀ code detectedAt, detector.lastCascadeAtByInstrument.get? code = some detectedAt →
    code.toLower = code

/-- The liquidations of an instrument that a detector keeps. -/
def CascadeDetector.eventsOf (detector : CascadeDetector N) (code : String) :
    List (LiquidationEvent N (LiquidationDetail N)) :=
  (detector.eventsByInstrument.get? code).getD []

private def regroup (rows : Rows String (List (LiquidationEvent N (LiquidationDetail N))))
    (event : LiquidationEvent N (LiquidationDetail N)) :
    Rows String (List (LiquidationEvent N (LiquidationDetail N))) :=
  rows.set event.instrumentCode.toLower
    ((rows.get? event.instrumentCode.toLower).getD [] ++ [event])

private theorem getD_foldl_regroup (code : String)
    (events : List (LiquidationEvent N (LiquidationDetail N))) :
    ∀ rows : Rows String (List (LiquidationEvent N (LiquidationDetail N))),
      ((events.foldl regroup rows).get? code).getD [] =
        (rows.get? code).getD [] ++ events.filter fun event =>
          event.instrumentCode.toLower = code := by
  induction events with
  | nil =>
    intro rows
    exact (List.append_nil _).symm
  | cons event events ih =>
    intro rows
    rw [List.foldl_cons, ih, regroup, Rows.get?_set, List.filter_cons]
    by_cases hcode : code = event.instrumentCode.toLower
    · subst hcode
      simp only [if_true, decide_true, Option.getD_some, List.append_assoc, List.singleton_append]
    · rw [if_neg hcode, if_neg (by simpa using Ne.symm hcode)]

private theorem filter_flatMap_entries {rows : Rows String
      (List (LiquidationEvent N (LiquidationDetail N)))}
    (h : ∀ code events, rows.get? code = some events →
      ∀ event ∈ events, event.instrumentCode.toLower = code) (code : String) :
    (rows.entries.flatMap Prod.snd).filter (fun event => event.instrumentCode.toLower = code) =
      (rows.get? code).getD [] := by
  have hother : ∀ entries : List (String × List (LiquidationEvent N (LiquidationDetail N))),
      (∀ entry ∈ entries, entry ∈ rows.entries ∧ entry.1 ≠ code) →
      (entries.flatMap Prod.snd).filter (fun event => event.instrumentCode.toLower = code) =
        [] := by
    intro entries hentries
    rw [List.filter_eq_nil_iff]
    intro event hevent hcode
    obtain ⟨entry, hentry, hmem⟩ := List.mem_flatMap.mp hevent
    obtain ⟨hrows, hne⟩ := hentries entry hentry
    exact hne ((h _ _ (Rows.mem_entries_iff.mp hrows) event hmem).symm.trans
      (of_decide_eq_true hcode))
  cases hget : rows.get? code with
  | none =>
    apply hother
    intro entry hentry
    refine ⟨hentry, ?_⟩
    rintro rfl
    exact Rows.get?_eq_none_iff.mp hget (List.mem_map_of_mem hentry)
  | some events =>
    obtain ⟨before, behind, hsplit⟩ := List.append_of_mem (Rows.mem_entries_iff.mpr hget)
    have hne : ∀ entry, entry ∈ before ∨ entry ∈ behind → entry.1 ≠ code :=
      Rows.fst_ne_of_append (hsplit ▸ rows.nodup)
    rw [hsplit, List.flatMap_append, List.flatMap_cons, List.filter_append, List.filter_append,
      hother before, hother behind, List.nil_append, List.append_nil]
    · show events.filter _ = events
      rw [List.filter_eq_self]
      intro event hevent
      exact decide_eq_true (h code events hget event hevent)
    · intro entry hentry
      refine ⟨?_, hne entry (.inr hentry)⟩
      rw [hsplit]
      exact List.mem_append_right _ (List.mem_cons_of_mem _ hentry)
    · intro entry hentry
      refine ⟨?_, hne entry (.inl hentry)⟩
      rw [hsplit]
      exact List.mem_append_left _ hentry

private theorem foldl_set_lowered {entries : List (String × String)} :
    ∀ (before : List (String × String)) (rows : Rows String String), rows.entries = before →
      ((before ++ entries).map Prod.fst).Nodup →
      (∀ entry ∈ entries, entry.1.toLower = entry.1) →
      (entries.foldl (fun rows entry => rows.set entry.1.toLower entry.2) rows).entries =
        before ++ entries := by
  induction entries with
  | nil =>
    intro before rows hrows _ _
    rw [List.foldl_nil, hrows, List.append_nil]
  | cons entry entries ih =>
    intro before rows hrows hnodup hlower
    have hfresh : rows.get? entry.1 = none := by
      rw [Rows.get?_eq_none_iff, hrows]
      intro hmem
      rw [List.map_append, List.nodup_append] at hnodup
      exact hnodup.2.2 _ hmem _ List.mem_cons_self rfl
    rw [List.foldl_cons, hlower entry List.mem_cons_self]
    rw [← List.singleton_append, ← List.append_assoc] at hnodup ⊢
    refine ih _ _ ?_ hnodup fun other hother => hlower other (List.mem_cons_of_mem _ hother)
    rw [Rows.entries_set_of_get?_eq_none hfresh, hrows]

/-- A restored detector keeps what was stored. -/
theorem CascadeDetector.Keyed.hydrate_serialize {detector : CascadeDetector N}
    (h : detector.Keyed) :
    (∀ code, (CascadeDetector.new.hydrate detector.serialize).eventsOf code =
        detector.eventsOf code) ∧
      (CascadeDetector.new.hydrate detector.serialize).lastCascadeAtByInstrument =
        detector.lastCascadeAtByInstrument := by
  constructor
  · intro code
    have hfold := getD_foldl_regroup code (detector.eventsByInstrument.entries.flatMap Prod.snd)
      Rows.empty
    rw [Rows.get?_empty, Option.getD_none, List.nil_append,
      filter_flatMap_entries h.events code] at hfold
    exact hfold
  · apply Rows.ext
    have hentries := foldl_set_lowered [] Rows.empty rfl
      detector.lastCascadeAtByInstrument.nodup fun entry hentry =>
        h.times _ _ (Rows.mem_entries_iff.mp hentry)
    exact hentries

private theorem CascadeDetector.Keyed.restart {detector : CascadeDetector N} (h : detector.Keyed) :
    (CascadeDetector.new.hydrate detector.serialize).Keyed := by
  obtain ⟨hevents, htimes⟩ := h.hydrate_serialize
  constructor
  · intro code events hget event hevent
    have hsame : detector.eventsOf code = events := by
      rw [← hevents code, CascadeDetector.eventsOf, hget]
      rfl
    rw [← hsame, CascadeDetector.eventsOf] at hevent
    cases hstored : detector.eventsByInstrument.get? code with
    | none =>
      rw [hstored] at hevent
      exact absurd hevent List.not_mem_nil
    | some stored =>
      rw [hstored] at hevent
      exact h.events code stored hstored event hevent
  · rw [htimes]
    exact h.times

end Restart

/-! ## One call -/

section Follow

variable {dateParse sqrt config} {calls : List (DetectorCall N)} {detector : CascadeDetector N}
  {history : DetectorHistory N} {delivery : Delivery N} {nowMs : ℤ}

/-- The last cascade of an instrument is too close to a time. -/
def CascadeDetector.tooSoon (dateParse : String → Option ℤ) (config : CascadeDetectorConfig N)
    (detector : CascadeDetector N) (code : String) (nowMs : ℤ) : Bool :=
  (detector.lastCascadeAtByInstrument.get? code).any fun lastCascadeAt =>
    parsedTo dateParse (fun lastMs => nowMs - lastMs < config.minCascadeSeparationMs) lastCascadeAt

/-- What an observation keeps and decides. -/
theorem observe_eq (htime : dateParse delivery.event.observedAt = some nowMs) :
    let code := delivery.event.instrumentCode.toLower
    let kept := lastOf config.maxEventsPerInstrument
      ((detector.eventsOf code ++ [delivery.event]).filter (recent dateParse config nowMs))
    let outcome := if detector.tooSoon dateParse config code nowMs then none
      else detectCascade (unrounded N) dateParse sqrt config code kept nowMs delivery.atr1h
        delivery.priceAtStart
    detector.step dateParse sqrt config (.observe delivery) =
      ({ eventsByInstrument := detector.eventsByInstrument.set code kept
         lastCascadeAtByInstrument := outcome.elim detector.lastCascadeAtByInstrument fun cascade =>
           detector.lastCascadeAtByInstrument.set code cascade.detectedAt }, outcome) := by
  intro code kept outcome
  show CascadeDetector.observe _ _ _ _ _ _ _ _ = _
  unfold CascadeDetector.observe
  rw [htime]
  have houtcome : outcome = if detector.tooSoon dateParse config code nowMs then none
      else detectCascade (unrounded N) dateParse sqrt config code kept nowMs delivery.atr1h
        delivery.priceAtStart := rfl
  cases hsoon : detector.tooSoon dateParse config code nowMs with
  | true =>
    rw [hsoon, if_pos rfl] at houtcome
    rw [houtcome]
    exact if_pos hsoon
  | false =>
    rw [hsoon, if_neg Bool.false_ne_true] at houtcome
    rw [houtcome]
    refine (if_neg (Bool.eq_false_iff.mp hsoon)).trans ?_
    split
    · next hnone =>
      have hdetect : detectCascade (unrounded N) dateParse sqrt config code kept nowMs
        delivery.atr1h delivery.priceAtStart = none := hnone
      rw [hdetect]
      rfl
    · next cascade hsome =>
      have hdetect : detectCascade (unrounded N) dateParse sqrt config code kept nowMs
        delivery.atr1h delivery.priceAtStart = some cascade := hsome
      rw [hdetect]
      rfl

/-- What a detector and the whole history of its calls have in common. -/
structure Follows (dateParse : String → Option ℤ) (config : CascadeDetectorConfig N)
    (calls : List (DetectorCall N)) (detector : CascadeDetector N) (history : DetectorHistory N) :
    Prop where
  keyed : detector.Keyed
  held : ∀ later, (∀ delivery ∈ DetectorCall.deliveries calls, ∀ s,
      dateParse delivery.event.observedAt = some s → s ≤ later) → ∀ code,
    (detector.eventsOf code).filter (recent dateParse config later) =
      (liquidationsOf code (DetectorCall.deliveries calls)).filter (recent dateParse config later)
  deliveries : history.deliveries = DetectorCall.deliveries calls
  dated : ∀ cascade ∈ history.cascades, ∃ delivery ∈ DetectorCall.deliveries calls,
    dateParse delivery.event.observedAt = dateParse cascade.detectedAt
  remembered : ∀ code lastCascadeAt,
    detector.lastCascadeAtByInstrument.get? code = some lastCascadeAt →
      ∃ cascade ∈ history.cascades, cascade.instrumentCode = code ∧
        cascade.detectedAt = lastCascadeAt
  latest : ∀ cascade ∈ history.cascades, ∃ lastCascadeAt s l,
    detector.lastCascadeAtByInstrument.get? cascade.instrumentCode = some lastCascadeAt ∧
      dateParse cascade.detectedAt = some s ∧ dateParse lastCascadeAt = some l ∧ s ≤ l

omit [FloorRing N] in
private theorem recent_of_later [IsStrictOrderedRing N] {later : ℤ} (hle : nowMs ≤ later)
    {event : LiquidationEvent N (LiquidationDetail N)}
    (h : recent dateParse config later event = true) : recent dateParse config nowMs event := by
  unfold recent at h ⊢
  cases htime : dateParse event.observedAt with
  | none =>
    rw [parsedTo_of_none htime] at h
    exact absurd h Bool.false_ne_true
  | some ms =>
    rw [parsedTo_of_some htime, decide_eq_true_eq] at h ⊢
    have hcast : (nowMs : N) ≤ later := Int.cast_le.mpr hle
    linarith

omit [Field N] [LinearOrder N] [FloorRing N] in
private theorem distinctDeliveries_of_nodup {deliveries : List (Delivery N)}
    (h : (deliveries.map Delivery.eventId).Nodup) : distinctDeliveries deliveries = deliveries := by
  induction deliveries using List.reverseRecOn with
  | nil => rfl
  | append_singleton deliveries delivery ih =>
    rw [List.map_append, List.map_singleton, List.nodup_append] at h
    have hfirst := ih h.1
    unfold distinctDeliveries at hfirst ⊢
    rw [List.foldl_append, hfirst, List.foldl_cons, List.foldl_nil, if_neg]
    intro hmem
    exact h.2.2 _ hmem _ List.mem_cons_self rfl

variable [IsStrictOrderedRing N]

/-- The last cascade is too close where any cascade of the instrument is. -/
theorem Follows.tooSoon_eq (h : Follows dateParse config calls detector history) (code : String)
    (nowMs : ℤ) :
    detector.tooSoon dateParse config code nowMs =
      history.cascades.any (tooClose dateParse config code nowMs) := by
  rw [Bool.eq_iff_iff, List.any_eq_true]
  unfold CascadeDetector.tooSoon
  constructor
  · intro hsoon
    obtain ⟨lastCascadeAt, hget, hclose⟩ := (Option.any_eq_true _ _).mp hsoon
    obtain ⟨cascade, hmem, hcode, rfl⟩ := h.remembered code lastCascadeAt hget
    refine ⟨cascade, hmem, ?_⟩
    rw [tooClose, decide_eq_true hcode, Bool.true_and]
    exact hclose
  · rintro ⟨cascade, hmem, hclose⟩
    obtain ⟨hcode, hclose⟩ := Bool.and_eq_true_iff.mp hclose
    obtain ⟨lastCascadeAt, s, l, hget, hs, hl, hle⟩ := h.latest cascade hmem
    rw [of_decide_eq_true hcode] at hget
    rw [parsedTo_of_some hs, decide_eq_true_eq] at hclose
    rw [hget, Option.any_some, parsedTo_of_some hl, decide_eq_true_eq]
    have hcast : (s : N) ≤ l := Int.cast_le.mpr hle
    linarith

omit [FloorRing N] [IsStrictOrderedRing N] in
private theorem Follows.restart (h : Follows dateParse config calls detector history) :
    Follows dateParse config (calls ++ [.restart])
      (CascadeDetector.new.hydrate detector.serialize) history := by
  have hdeliveries : DetectorCall.deliveries (calls ++ [.restart]) =
      DetectorCall.deliveries calls := by
    rw [DetectorCall.deliveries, List.filterMap_append]
    exact List.append_nil _
  obtain ⟨hevents, htimes⟩ := h.keyed.hydrate_serialize
  refine ⟨h.keyed.restart, ?_, ?_, ?_, ?_, ?_⟩
  · rw [hdeliveries]
    intro later hlater code
    rw [hevents]
    exact h.held later hlater code
  · rw [hdeliveries]
    exact h.deliveries
  · rw [hdeliveries]
    exact h.dated
  · rw [htimes]
    exact h.remembered
  · rw [htimes]
    exact h.latest

omit [FloorRing N] [IsStrictOrderedRing N] in
/-- The liquidations of an instrument that are kept when one is delivered. -/
theorem Follows.kept_eq (h : Follows dateParse config calls detector history)
    (hpast : ∀ earlier ∈ DetectorCall.deliveries calls, ∀ s,
      dateParse earlier.event.observedAt = some s → s ≤ nowMs)
    (hroom : ((liquidationsOf delivery.event.instrumentCode.toLower
      (DetectorCall.deliveries calls ++ [delivery])).filter
        (recent dateParse config nowMs)).length ≤ config.maxEventsPerInstrument) :
    lastOf config.maxEventsPerInstrument
        ((detector.eventsOf delivery.event.instrumentCode.toLower ++ [delivery.event]).filter
          (recent dateParse config nowMs)) =
      (liquidationsOf delivery.event.instrumentCode.toLower
        (DetectorCall.deliveries calls ++ [delivery])).filter (recent dateParse config nowMs) := by
  have happend : liquidationsOf delivery.event.instrumentCode.toLower
      (DetectorCall.deliveries calls ++ [delivery]) =
        liquidationsOf delivery.event.instrumentCode.toLower (DetectorCall.deliveries calls) ++
          [delivery.event] := by
    rw [liquidationsOf, List.map_append, List.filter_append, List.map_singleton,
      List.filter_singleton, decide_eq_true rfl]
    rfl
  have hfilter : (detector.eventsOf delivery.event.instrumentCode.toLower ++
      [delivery.event]).filter (recent dateParse config nowMs) =
        (liquidationsOf delivery.event.instrumentCode.toLower
          (DetectorCall.deliveries calls ++ [delivery])).filter
            (recent dateParse config nowMs) := by
    rw [happend, List.filter_append, List.filter_append, h.held nowMs hpast]
  rw [hfilter, lastOf, Nat.sub_eq_zero_of_le hroom, List.drop_zero]

/-- A delivery is answered as by the whole history. -/
theorem Follows.decision (h : Follows dateParse config calls detector history)
    (hwindow : 0 < config.windowMs) (hlookback : 0 ≤ config.lookbackHours)
    (htime : dateParse delivery.event.observedAt = some nowMs)
    (hpast : ∀ earlier ∈ DetectorCall.deliveries calls, ∀ s,
      dateParse earlier.event.observedAt = some s → s ≤ nowMs)
    (hroom : ((liquidationsOf delivery.event.instrumentCode.toLower
      (DetectorCall.deliveries calls ++ [delivery])).filter
        (recent dateParse config nowMs)).length ≤ config.maxEventsPerInstrument)
    (hdistinct : ((DetectorCall.deliveries calls ++ [delivery]).map Delivery.eventId).Nodup) :
    (detector.step dateParse sqrt config (.observe delivery)).2 =
      history.decision dateParse sqrt config delivery := by
  rw [observe_eq htime, DetectorHistory.decision, htime, Option.bind_some, h.kept_eq hpast hroom,
    h.tooSoon_eq, h.deliveries, distinctDeliveries_of_nodup hdistinct,
    detectCascade_kept hwindow hlookback]

omit [IsStrictOrderedRing N] in
private theorem DetectorHistory.stamped_of_decision
    (htime : dateParse delivery.event.observedAt = some nowMs)
    {cascade : CascadeEvent (CascadeDetail N)}
    (h : history.decision dateParse sqrt config delivery = some cascade) :
    cascade.instrumentCode = delivery.event.instrumentCode.toLower ∧
      cascade.detectedAt = JavaScript.Timestamp.isoText nowMs := by
  rw [DetectorHistory.decision, htime, Option.bind_some] at h
  split_ifs at h
  exact stamped_of_detectCascade h

omit [Field N] [LinearOrder N] [FloorRing N] [IsStrictOrderedRing N] in
private theorem deliveries_append :
    DetectorCall.deliveries (calls ++ [.observe delivery]) =
      DetectorCall.deliveries calls ++ [delivery] := by
  rw [DetectorCall.deliveries, List.filterMap_append]
  rfl

omit [Field N] [LinearOrder N] [FloorRing N] [IsStrictOrderedRing N] in
private theorem eventsOf_set (code other : String)
    (kept : List (LiquidationEvent N (LiquidationDetail N))) (times : Rows String String) :
    (CascadeDetector.mk (detector.eventsByInstrument.set code kept) times).eventsOf other =
      if other = code then kept else detector.eventsOf other := by
  rw [CascadeDetector.eventsOf, Rows.get?_set]
  split_ifs
  · rfl
  · rfl

omit [Field N] [LinearOrder N] [FloorRing N] [IsStrictOrderedRing N] in
private theorem liquidationsOf_append (code : String) (deliveries : List (Delivery N)) :
    liquidationsOf code (deliveries ++ [delivery]) = liquidationsOf code deliveries ++
      if delivery.event.instrumentCode.toLower = code then [delivery.event] else [] := by
  rw [liquidationsOf, List.map_append, List.filter_append, List.map_singleton,
    List.filter_singleton]
  split_ifs with hcode
  · rw [decide_eq_true hcode]
    rfl
  · rw [decide_eq_false hcode]
    rfl

omit [FloorRing N] in
/-- What is kept and remembered of a delivery agrees with the whole history. -/
theorem Follows.extend (h : Follows dateParse config calls detector history)
    (htime : dateParse delivery.event.observedAt = some nowMs)
    (hiso : dateParse (JavaScript.Timestamp.isoText nowMs) = some nowMs)
    (hpast : ∀ earlier ∈ DetectorCall.deliveries calls, ∀ s,
      dateParse earlier.event.observedAt = some s → s ≤ nowMs)
    {outcome : Option (CascadeEvent (CascadeDetail N))}
    (houtcome : ∀ cascade, outcome = some cascade →
      cascade.instrumentCode = delivery.event.instrumentCode.toLower ∧
        cascade.detectedAt = JavaScript.Timestamp.isoText nowMs) :
    Follows dateParse config (calls ++ [.observe delivery])
      { eventsByInstrument := detector.eventsByInstrument.set
          delivery.event.instrumentCode.toLower
          ((liquidationsOf delivery.event.instrumentCode.toLower
            (DetectorCall.deliveries calls ++ [delivery])).filter (recent dateParse config nowMs))
        lastCascadeAtByInstrument := outcome.elim detector.lastCascadeAtByInstrument fun cascade =>
          detector.lastCascadeAtByInstrument.set delivery.event.instrumentCode.toLower
            cascade.detectedAt }
      { deliveries := history.deliveries ++ [delivery]
        cascades := history.cascades ++ outcome.toList } := by
  have hlast : ∀ cascade ∈ history.cascades, ∀ s, dateParse cascade.detectedAt = some s →
      s ≤ nowMs := by
    intro cascade hmem s hs
    obtain ⟨earlier, hearlier, hsame⟩ := h.dated cascade hmem
    exact hpast earlier hearlier s (hsame.trans hs)
  refine ⟨⟨?_, ?_⟩, ?_, ?_, ?_, ?_, ?_⟩
  · refine Rows.forall_set h.keyed.events ?_
    intro event hevent
    exact of_decide_eq_true (List.mem_filter.mp (List.mem_filter.mp hevent).1).2
  · cases outcome with
    | none => exact h.keyed.times
    | some cascade => exact Rows.forall_set h.keyed.times (toLower_toLower _)
  · rw [deliveries_append]
    intro later hlater code
    have hle : nowMs ≤ later :=
      hlater delivery (List.mem_append_right _ List.mem_cons_self) nowMs htime
    rw [eventsOf_set]
    split_ifs with hcode
    · subst hcode
      rw [List.filter_filter]
      apply List.filter_congr
      intro event _
      cases hrecent : recent dateParse config later event with
      | false => rfl
      | true => rw [recent_of_later hle hrecent, Bool.and_self]
    · rw [liquidationsOf_append, if_neg (Ne.symm hcode), List.append_nil]
      exact h.held later (fun earlier hearlier =>
        hlater earlier (List.mem_append_left _ hearlier)) code
  · rw [deliveries_append, h.deliveries]
  · rw [deliveries_append]
    intro cascade hmem
    rcases List.mem_append.mp hmem with hmem | hmem
    · obtain ⟨earlier, hearlier, hsame⟩ := h.dated cascade hmem
      exact ⟨earlier, List.mem_append_left _ hearlier, hsame⟩
    · refine ⟨delivery, List.mem_append_right _ List.mem_cons_self, ?_⟩
      rw [(houtcome cascade (Option.mem_toList.mp hmem)).2, hiso, htime]
  · intro code lastCascadeAt hget
    cases outcome with
    | none =>
      obtain ⟨cascade, hmem, hstamp⟩ := h.remembered code lastCascadeAt hget
      exact ⟨cascade, List.mem_append_left _ hmem, hstamp⟩
    | some cascade =>
      rw [Option.elim_some, Rows.get?_set] at hget
      split_ifs at hget with hcode
      · exact ⟨cascade, List.mem_append_right _ List.mem_cons_self,
          (houtcome cascade rfl).1.trans hcode.symm, Option.some.inj hget⟩
      · obtain ⟨earlier, hmem, hstamp⟩ := h.remembered code lastCascadeAt hget
        exact ⟨earlier, List.mem_append_left _ hmem, hstamp⟩
  · intro cascade hmem
    cases outcome with
    | none =>
      rcases List.mem_append.mp hmem with hmem | hmem
      · exact h.latest cascade hmem
      · exact absurd hmem List.not_mem_nil
    | some last =>
      have hstamp := (houtcome last rfl).2
      simp only [Option.elim_some, Rows.get?_set]
      rcases List.mem_append.mp hmem with hmem | hmem
      · obtain ⟨lastCascadeAt, s, l, hget, hs, hl, hle⟩ := h.latest cascade hmem
        split_ifs with hcode
        · exact ⟨last.detectedAt, s, nowMs, rfl, hs, hstamp ▸ hiso, hlast cascade hmem s hs⟩
        · exact ⟨lastCascadeAt, s, l, hget, hs, hl, hle⟩
      · obtain rfl := List.mem_singleton.mp hmem
        rw [if_pos (houtcome cascade rfl).1]
        exact ⟨cascade.detectedAt, nowMs, nowMs, rfl, hstamp ▸ hiso, hstamp ▸ hiso, le_rfl⟩

/-- A delivery is kept and decided as by the whole history. -/
theorem Follows.observe (h : Follows dateParse config calls detector history)
    (hwindow : 0 < config.windowMs) (hlookback : 0 ≤ config.lookbackHours)
    (hdate : ∀ text ms, dateParse text = some ms →
      dateParse (JavaScript.Timestamp.isoText ms) = some ms)
    (htime : dateParse delivery.event.observedAt = some nowMs)
    (hpast : ∀ earlier ∈ DetectorCall.deliveries calls, ∀ s,
      dateParse earlier.event.observedAt = some s → s ≤ nowMs)
    (hroom : ((liquidationsOf delivery.event.instrumentCode.toLower
      (DetectorCall.deliveries calls ++ [delivery])).filter
        (recent dateParse config nowMs)).length ≤ config.maxEventsPerInstrument)
    (hdistinct : ((DetectorCall.deliveries calls ++ [delivery]).map Delivery.eventId).Nodup) :
    Follows dateParse config (calls ++ [.observe delivery])
      (detector.step dateParse sqrt config (.observe delivery)).1
      (history.step dateParse sqrt config (.observe delivery)) := by
  have hdecision : (detector.step dateParse sqrt config (.observe delivery)).2 =
      history.decision dateParse sqrt config delivery :=
    h.decision hwindow hlookback htime hpast hroom hdistinct
  have hextended := h.extend htime (hdate _ _ htime) hpast fun cascade hcascade =>
    DetectorHistory.stamped_of_decision htime (hdecision.symm.trans hcascade)
  have hstep := @observe_eq N _ _ _ dateParse sqrt config detector delivery nowMs htime
  dsimp only at hstep
  rw [h.kept_eq hpast hroom] at hstep
  have hkept := congrArg Prod.fst hstep
  have houtcome := congrArg Prod.snd hstep
  dsimp only at hkept houtcome
  rw [← houtcome] at hkept
  rw [hkept, DetectorHistory.step, ← hdecision]
  exact hextended

end Follow

/-! ## All calls -/

section Calls

variable {dateParse sqrt config} {calls before after : List (DetectorCall N)}
  {delivery : Delivery N} {nowMs : ℤ}

omit [Field N] [LinearOrder N] [FloorRing N] in
private theorem deliveries_split (h : calls = before ++ .observe delivery :: after) :
    DetectorCall.deliveries calls =
      DetectorCall.deliveries before ++ delivery :: DetectorCall.deliveries after := by
  rw [h, DetectorCall.deliveries, List.filterMap_append]
  rfl

omit [FloorRing N] in
private theorem Delivered.of_append (h : Delivered dateParse config (before ++ after)) :
    Delivered dateParse config before := by
  have hsplit : DetectorCall.deliveries (before ++ after) =
      DetectorCall.deliveries before ++ DetectorCall.deliveries after := List.filterMap_append
  have hmem : ∀ delivery ∈ DetectorCall.deliveries before,
      delivery ∈ DetectorCall.deliveries (before ++ after) := by
    intro delivery hdelivery
    rw [hsplit]
    exact List.mem_append_left _ hdelivery
  refine ⟨?_, ?_, ?_, ?_, ?_⟩
  · exact fun delivery hdelivery => h.valid delivery (hmem delivery hdelivery)
  · have hordered := h.ordered
    rw [hsplit, List.pairwise_append] at hordered
    exact hordered.1
  · exact fun delivery hdelivery => h.sided delivery (hmem delivery hdelivery)
  · exact fun delivery hdelivery later hlater =>
      h.again delivery (hmem delivery hdelivery) later (hmem later hlater)
  · intro first delivery rest heq
    refine h.kept first delivery (rest ++ after) ?_
    rw [heq, List.append_assoc, List.cons_append]

omit [FloorRing N] in
private theorem Delivered.past (h : Delivered dateParse config calls)
    (hsplit : calls = before ++ .observe delivery :: after)
    (htime : dateParse delivery.event.observedAt = some nowMs) :
    ∀ earlier ∈ DetectorCall.deliveries before, ∀ s,
      dateParse earlier.event.observedAt = some s → s ≤ nowMs := by
  have hordered := h.ordered
  rw [deliveries_split hsplit, List.pairwise_append] at hordered
  intro earlier hearlier s hs
  exact hordered.2.2 earlier hearlier delivery List.mem_cons_self s hs nowMs htime

omit [Field N] [LinearOrder N] [FloorRing N] in
private theorem nodup_prior (h : ((DetectorCall.deliveries calls).map Delivery.eventId).Nodup)
    (hsplit : calls = before ++ .observe delivery :: after) :
    ((DetectorCall.deliveries before ++ [delivery]).map Delivery.eventId).Nodup := by
  rw [deliveries_split hsplit, ← List.singleton_append, ← List.append_assoc, List.map_append] at h
  exact h.of_append_left

private theorem mem_cascades_append {cascade : CascadeEvent (CascadeDetail N)}
    (h : cascade ∈ (historyAfter dateParse sqrt config before).cascades) :
    cascade ∈ (historyAfter dateParse sqrt config (before ++ after)).cascades := by
  induction after using List.reverseRecOn with
  | nil => rwa [List.append_nil]
  | append_singleton after call ih =>
    rw [← List.append_assoc, historyAfter, List.foldl_append, List.foldl_cons, List.foldl_nil]
    cases call with
    | observe delivery => exact List.mem_append_left _ ih
    | restart => exact ih

variable [IsStrictOrderedRing N]

/-- A detector follows the whole history of its calls. -/
theorem follows_detectorAfter (hwindow : 0 < config.windowMs) (hlookback : 0 ≤ config.lookbackHours)
    (hdate : ∀ text ms, dateParse text = some ms →
      dateParse (JavaScript.Timestamp.isoText ms) = some ms)
    (h : Delivered dateParse config calls)
    (hdistinct : ((DetectorCall.deliveries calls).map Delivery.eventId).Nodup) :
    Follows dateParse config calls (detectorAfter dateParse sqrt config calls)
      (historyAfter dateParse sqrt config calls) := by
  induction calls using List.reverseRecOn with
  | nil =>
    refine ⟨⟨?_, ?_⟩, fun _ _ _ => rfl, rfl, ?_, ?_, ?_⟩
    · exact fun code events hget => nomatch hget
    · exact fun code detectedAt hget => nomatch hget
    · exact fun cascade hmem => absurd hmem List.not_mem_nil
    · exact fun code lastCascadeAt hget => nomatch hget
    · exact fun cascade hmem => absurd hmem List.not_mem_nil
  | append_singleton calls call ih =>
    have hfollows := ih h.of_append (by
      rw [DetectorCall.deliveries, List.filterMap_append, List.map_append] at hdistinct
      exact hdistinct.of_append_left)
    rw [detectorAfter, historyAfter, List.foldl_append, List.foldl_append]
    cases call with
    | restart => exact hfollows.restart
    | observe delivery =>
      have hmem : delivery ∈ DetectorCall.deliveries (calls ++ [.observe delivery]) := by
        rw [deliveries_split rfl]
        exact List.mem_append_right _ List.mem_cons_self
      obtain ⟨nowMs, htime⟩ := Option.isSome_iff_exists.mp (h.valid delivery hmem)
      exact hfollows.observe hwindow hlookback hdate htime (h.past rfl htime)
        (h.kept calls delivery [] rfl nowMs htime) (nodup_prior hdistinct rfl)

/-- Where no liquidation is delivered twice, the detection of a run is sound. -/
theorem soundDetection_of_distinct (hwindow : 0 < config.windowMs)
    (hlookback : 0 ≤ config.lookbackHours)
    (hdate : ∀ text ms, dateParse text = some ms →
      dateParse (JavaScript.Timestamp.isoText ms) = some ms)
    (h : Delivered dateParse config calls)
    (hdistinct : ((DetectorCall.deliveries calls).map Delivery.eventId).Nodup) :
    SoundDetection dateParse sqrt config calls := by
  have hfollows : ∀ before delivery after, calls = before ++ .observe delivery :: after →
      Follows dateParse config before (detectorAfter dateParse sqrt config before)
        (historyAfter dateParse sqrt config before) := by
    intro before delivery after hsplit
    have hbefore : Delivered dateParse config before := by
      rw [hsplit] at h
      exact h.of_append
    have hnodup := nodup_prior hdistinct hsplit
    rw [List.map_append] at hnodup
    exact follows_detectorAfter hwindow hlookback hdate hbefore hnodup.of_append_left
  have htimes : ∀ before delivery after, calls = before ++ .observe delivery :: after →
      ∃ nowMs, dateParse delivery.event.observedAt = some nowMs := by
    intro before delivery after hsplit
    refine Option.isSome_iff_exists.mp (h.valid delivery ?_)
    rw [deliveries_split hsplit]
    exact List.mem_append_right _ List.mem_cons_self
  have hdecided : ∀ before delivery after, calls = before ++ .observe delivery :: after →
      detected dateParse sqrt config before delivery =
        (historyAfter dateParse sqrt config before).decision dateParse sqrt config delivery := by
    intro before delivery after hsplit
    obtain ⟨nowMs, htime⟩ := htimes before delivery after hsplit
    exact (hfollows before delivery after hsplit).decision hwindow hlookback htime
      (h.past hsplit htime) (h.kept before delivery after hsplit nowMs htime)
      (nodup_prior hdistinct hsplit)
  refine ⟨?_, ?_, hdecided⟩
  · intro before delivery between later after hsplit cascade cascade' hcascade hcascade' hcode s t
      hs ht
    have hsplit' : calls = (before ++ .observe delivery :: between) ++ .observe later :: after := by
      rw [hsplit, List.append_assoc, List.cons_append]
    rw [hdecided before delivery _ hsplit] at hcascade
    rw [hdecided _ later after hsplit'] at hcascade'
    obtain ⟨-, hstamp⟩ := DetectorHistory.stamped_of_decision hs hcascade
    obtain ⟨hcode', -⟩ := DetectorHistory.stamped_of_decision ht hcascade'
    have hmem : cascade ∈ (historyAfter dateParse sqrt config
        (before ++ .observe delivery :: between)).cascades := by
      rw [← List.singleton_append, ← List.append_assoc]
      apply mem_cascades_append
      rw [historyAfter, List.foldl_append, List.foldl_cons, List.foldl_nil]
      refine List.mem_append_right _ ?_
      rw [Option.mem_toList]
      exact hcascade
    rw [DetectorHistory.decision, ht, Option.bind_some] at hcascade'
    split_ifs at hcascade' with hclose
    rw [Bool.not_eq_true, List.any_eq_false] at hclose
    have hfar := hclose cascade hmem
    rw [tooClose, decide_eq_true (hcode.trans hcode'), Bool.true_and, hstamp,
      parsedTo_of_some (hdate _ _ hs), decide_eq_true_eq, not_lt] at hfar
    rw [Int.cast_sub]
    exact hfar
  · intro before delivery after hsplit cascade hcascade nowMs htime
    rw [hdecided before delivery after hsplit, DetectorHistory.decision, htime,
      Option.bind_some, (hfollows before delivery after hsplit).deliveries] at hcascade
    split_ifs at hcascade
    refine reportsOn_of_detectCascade hwindow ?_ hcascade
    rw [distinctDeliveries_of_nodup (nodup_prior hdistinct hsplit)]
    intro event hevent
    obtain ⟨prior, hprior, rfl⟩ := List.mem_map.mp (List.mem_filter.mp hevent).1
    apply h.sided
    rw [deliveries_split hsplit, ← List.singleton_append, ← List.append_assoc]
    exact List.mem_append_left _ hprior

end Calls

end Spec

/-! ## Two deliveries -/

section Samples

private def epochParse (text : String) : Option ℤ :=
  if text = JavaScript.Timestamp.isoText 0 then some 0 else none

private theorem epochParse_isoText (text : String) (ms : ℤ) (h : epochParse text = some ms) :
    epochParse (JavaScript.Timestamp.isoText ms) = some ms := by
  unfold epochParse at h
  split_ifs at h
  obtain rfl := Option.some.inj h
  exact if_pos rfl

private def fiveMinutes : CascadeDetectorConfig ℚ where
  windowMs := 300000
  notionalThresholdUsd := 3000000
  zScoreThreshold := 3
  lookbackHours := 1
  directionalPct := 7 / 10
  minPriceMoveAtr := 1
  minBaselineWindows := 12
  minCascadeSeparationMs := 300000
  maxEventsPerInstrument := 10000

private def twoMillion (eventId : String) : Delivery ℚ where
  eventId
  event := ⟨"btc-usd", 100, JavaScript.Timestamp.isoText 0, ⟨.long, 2000000⟩⟩
  atr1h := 2
  priceAtStart := 103

/-- A liquidation of two millions, a restart, and another one or the same again. -/
def twoDeliveries (second : String) : List (DetectorCall ℚ) :=
  [.observe (twoMillion "liq:a"), .restart, .observe (twoMillion second)]

private theorem delivered_two (second : String) :
    Delivered epochParse fiveMinutes (twoDeliveries second) := by
  have hmem : ∀ delivery ∈ DetectorCall.deliveries (twoDeliveries second),
      ∃ eventId, delivery = twoMillion eventId := by
    intro delivery hdelivery
    simp only [twoDeliveries, DetectorCall.deliveries, DetectorCall.delivery?,
      List.filterMap_cons, List.filterMap_nil, List.mem_cons, List.not_mem_nil, or_false]
      at hdelivery
    rcases hdelivery with rfl | rfl
    · exact ⟨_, rfl⟩
    · exact ⟨_, rfl⟩
  have htime : ∀ eventId, epochParse (twoMillion eventId).event.observedAt = some 0 :=
    fun _ => if_pos rfl
  refine ⟨?_, ?_, ?_, ?_, ?_⟩
  · intro delivery hdelivery
    obtain ⟨eventId, rfl⟩ := hmem delivery hdelivery
    rw [htime]
    rfl
  · refine List.Pairwise.imp_of_mem ?_ (List.pairwise_of_forall fun _ _ => trivial)
    intro delivery later hdelivery hlater _ s hs t ht
    obtain ⟨eventId, rfl⟩ := hmem delivery hdelivery
    obtain ⟨laterId, rfl⟩ := hmem later hlater
    rw [htime, Option.mem_some_iff] at hs ht
    omega
  · intro delivery hdelivery
    obtain ⟨eventId, rfl⟩ := hmem delivery hdelivery
    exact nofun
  · intro delivery hdelivery later hlater _
    obtain ⟨eventId, rfl⟩ := hmem delivery hdelivery
    obtain ⟨laterId, rfl⟩ := hmem later hlater
    rfl
  · intro before delivery after hsplit nowMs _
    have hcount := congrArg List.length (deliveries_split hsplit)
    have hle := (List.length_filter_le (recent epochParse fiveMinutes nowMs)
      (liquidationsOf delivery.event.instrumentCode.toLower
        (DetectorCall.deliveries before ++ [delivery]))).trans (List.length_filter_le _ _)
    rw [List.length_map, List.length_append, List.length_singleton] at hle
    rw [List.length_append, List.length_cons] at hcount
    have htwo : (DetectorCall.deliveries (twoDeliveries second)).length = 2 := rfl
    have hmax : fiveMinutes.maxEventsPerInstrument = 10000 := rfl
    omega

/-- A liquidation that is delivered twice makes up a cascade of two. -/
theorem redelivered_liquidation_counted_twice :
    Delivered epochParse fiveMinutes (twoDeliveries "liq:a") ∧
      ¬ SoundDetection epochParse id fiveMinutes (twoDeliveries "liq:a") := by
  refine ⟨delivered_two "liq:a", ?_⟩
  intro hsound
  have hcount : (detected epochParse id fiveMinutes [.observe (twoMillion "liq:a"), .restart]
      (twoMillion "liq:a")).map (fun cascade => cascade.rest.liquidationCount) = some 2 := by
    decide +kernel
  obtain ⟨cascade, hcascade, htwo⟩ := Option.map_eq_some_iff.mp hcount
  have hone := (hsound.reports [.observe (twoMillion "liq:a"), .restart] (twoMillion "liq:a") []
    rfl cascade hcascade 0 (if_pos rfl)).count
  rw [htwo] at hone
  revert hone
  decide +kernel

/-- Two liquidations, with a restart between them, are detected soundly. -/
theorem two_liquidations_sound :
    SoundDetection epochParse id fiveMinutes (twoDeliveries "liq:b") :=
  soundDetection_of_distinct (by decide +kernel) (by decide +kernel) epochParse_isoText
    (delivered_two "liq:b") (by decide +kernel)

end Samples

end Yevow.Cascade
