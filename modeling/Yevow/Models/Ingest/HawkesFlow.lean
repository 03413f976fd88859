import Mathlib.Data.Rat.Floor
import Yevow.Core.Collection.Quickselect
import Yevow.Core.Number.Arithmetic

/-!
# The threshold of trade flow

The intensity of the trades of an instrument is sampled once a second into a ring of an hour, and
a quantile of the samples of the last hour is the threshold that a burst has to exceed. The ring
is a `Float32Array`: a cell keeps a sample in single precision. How the intensity decays and jumps
is left out: a sample is any value of a linear order.
-/

namespace Yevow.Ingest

open Quickselect (quickSelect)

/-- `HAWKES_WINDOW_SECONDS`, the size of the ring. -/
def hawkesWindowSeconds : ℕ := 3600

/-- The hour before the last event, in milliseconds. -/
def hawkesWindowMs : ℤ := 3600000

/-- An intensity and the time of the event it is taken at. -/
structure HawkesSample (α : Type) where
  intensity : α
  observedAtMs : ℤ

/-- A sample as it is stored, where `fround` is what a cell keeps of a value. -/
def HawkesSample.stored {α : Type} (fround : α → α) (sample : HawkesSample α) : HawkesSample α :=
  ⟨fround sample.intensity, sample.observedAtMs⟩

/-- What the samples of an instrument are kept in. -/
structure HawkesInstrumentState (α : Type) where
  lastEventMs : Option ℤ
  sampleValues : ℕ → α
  sampleTimes : ℕ → ℤ
  sampleIndex : ℕ
  sampleCount : ℕ

namespace HawkesInstrumentState

variable {α : Type} (fround : α → α)

/-- The state `stateFor` creates. -/
def created [Zero α] : HawkesInstrumentState α where
  lastEventMs := none
  sampleValues _ := 0
  sampleTimes _ := 0
  sampleIndex := 0
  sampleCount := 0

/-- The next cell of the ring is overwritten. -/
def recordSample (state : HawkesInstrumentState α) (intensity : α) (observedAtMs : ℤ) :
    HawkesInstrumentState α :=
  { state with
    sampleValues := Function.update state.sampleValues state.sampleIndex (fround intensity)
    sampleTimes := Function.update state.sampleTimes state.sampleIndex observedAtMs
    sampleIndex := (state.sampleIndex + 1) % hawkesWindowSeconds
    sampleCount := min hawkesWindowSeconds (state.sampleCount + 1) }

/-- The state once an event is sampled. -/
def sampled (state : HawkesInstrumentState α) (event : HawkesSample α) : HawkesInstrumentState α :=
  { state.recordSample fround event.intensity event.observedAtMs with
    lastEventMs := some event.observedAtMs }

variable [LT α] [DecidableLT α]

/-- The quantile of the stored samples of the last hour; `fallback` stands for none. A read
outside of them is no result. -/
def quantile (ar : Arithmetic) (thresholdQuantile : ℚ) (fallback : α) (clock : ℤ)
    (state : HawkesInstrumentState α) : Option α :=
  let cutoffMs := state.lastEventMs.getD clock - hawkesWindowMs
  let scratch := ((List.range state.sampleCount).filter fun index =>
    cutoffMs ≤ state.sampleTimes index).map state.sampleValues
  let count := scratch.length
  if count = 0 then some fallback
  else
    let targetIndex := min (count - 1)
      ⌊ar.fraction (((count - 1 : ℕ) : ℚ) * thresholdQuantile)⌋.toNat
    quickSelect scratch 0 (count - 1) targetIndex

end HawkesInstrumentState

/-! ## The ring -/

section Ring

variable {α : Type}

open HawkesInstrumentState

/-- The state of the last event of a run in which every event is sampled. -/
def recorded [Zero α] (fround : α → α) (samples : List (HawkesSample α)) :
    HawkesInstrumentState α :=
  samples.foldl (HawkesInstrumentState.sampled fround) created

/-- The sample in a cell of the ring. -/
def HawkesInstrumentState.sample (state : HawkesInstrumentState α) (index : ℕ) : HawkesSample α :=
  ⟨state.sampleValues index, state.sampleTimes index⟩

/-- The last samples are in their slots. -/
structure Holds (state : HawkesInstrumentState α) (samples : List (HawkesSample α)) : Prop where
  index : state.sampleIndex = samples.length % hawkesWindowSeconds
  count : state.sampleCount = min hawkesWindowSeconds samples.length
  sample : ∀ i (h : i < samples.length), samples.length ≤ i + hawkesWindowSeconds →
    state.sample (i % hawkesWindowSeconds) = samples[i]

variable {state : HawkesInstrumentState α} {samples : List (HawkesSample α)}

/-- A recorded sample takes the place of the oldest one. -/
theorem Holds.recordSample (h : Holds state samples) (fround : α → α) (sample : HawkesSample α) :
    Holds (state.recordSample fround sample.intensity sample.observedAtMs)
      (samples ++ [sample.stored fround]) := by
  constructor
  · show (state.sampleIndex + 1) % _ = _
    rw [h.index, List.length_append, List.length_singleton, Nat.mod_add_mod]
  · show min _ (state.sampleCount + 1) = _
    rw [h.count, List.length_append, List.length_singleton]
    omega
  · intro i hi hrecent
    simp only [List.length_append, List.length_singleton] at hi hrecent
    simp only [HawkesInstrumentState.sample, HawkesInstrumentState.recordSample, h.index]
    by_cases hlast : i = samples.length
    · subst hlast
      simp [HawkesSample.stored]
    · have hne : i % hawkesWindowSeconds ≠ samples.length % hawkesWindowSeconds := by
        unfold hawkesWindowSeconds at hrecent ⊢
        omega
      rw [Function.update_of_ne hne, Function.update_of_ne hne,
        List.getElem_append_left (by omega)]
      exact h.sample i (by omega) (by omega)

/-- After any run the ring holds the last samples as they are stored. -/
theorem holds_recorded [Zero α] (fround : α → α) (samples : List (HawkesSample α)) :
    Holds (recorded fround samples) (samples.map (HawkesSample.stored fround)) := by
  induction samples using List.reverseRecOn with
  | nil =>
    refine ⟨rfl, rfl, fun i hi => ?_⟩
    exact absurd hi (Nat.not_lt_zero i)
  | append_singleton samples sample ih =>
    rw [recorded, List.foldl_append, List.map_append]
    have h := ih.recordSample fround sample
    exact ⟨h.index, h.count, h.sample⟩

/-- The stored samples are the last ones, from the slot that is written next on and then from the
first slot. -/
theorem Holds.perm (h : Holds state samples) :
    ((List.range state.sampleCount).map state.sample).Perm
      (samples.drop (samples.length - hawkesWindowSeconds)) := by
  rcases Nat.lt_or_ge samples.length hawkesWindowSeconds with hfew | hmany
  · have hall : (List.range state.sampleCount).map state.sample = samples := by
      apply List.ext_getElem
      · rw [List.length_map, List.length_range, h.count]
        omega
      · intro i hi hi'
        rw [List.getElem_map, List.getElem_range, ← h.sample i hi' (by omega),
          Nat.mod_eq_of_lt (by omega)]
    rw [hall, Nat.sub_eq_zero_of_le hfew.le, List.drop_zero]
  · have hcount : state.sampleCount =
        samples.length % hawkesWindowSeconds +
          (hawkesWindowSeconds - samples.length % hawkesWindowSeconds) := by
      rw [h.count]
      unfold hawkesWindowSeconds at *
      omega
    rw [hcount, List.range_add, List.map_append]
    refine List.perm_append_comm.trans (.of_eq ?_)
    apply List.ext_getElem
    · simp only [List.length_append, List.length_map, List.length_range, List.length_drop]
      unfold hawkesWindowSeconds at *
      omega
    · intro i hi hi'
      rw [List.getElem_drop, ← h.sample _ _ (by omega), List.getElem_append]
      simp only [List.length_append, List.length_map, List.length_range] at hi
      simp only [List.length_map, List.length_range, List.getElem_map, List.getElem_range]
      unfold hawkesWindowSeconds at *
      split_ifs with hfirst
      · congr 1
        omega
      · congr 1
        omega

end Ring

/-! ## The quantile -/

section Quantile

variable {α : Type}

/-- The samples of the hour before a time. -/
def inWindow (now : ℤ) (samples : List (HawkesSample α)) : List (HawkesSample α) :=
  samples.filter fun sample => now - hawkesWindowMs ≤ sample.observedAtMs

/-- The samples the ring has room for. -/
def lastSamples (samples : List (HawkesSample α)) : List (HawkesSample α) :=
  samples.drop (samples.length - hawkesWindowSeconds)

/-- `Math.floor((count - 1) * quantile)`. -/
def quantileIndex (ar : Arithmetic) (thresholdQuantile : ℚ) (count : ℕ) : ℕ :=
  ⌊ar.fraction (((count - 1 : ℕ) : ℚ) * thresholdQuantile)⌋.toNat

/-- The element that has a quantile's index among the samples in ascending order. -/
def orderStatistic [LinearOrder α] (ar : Arithmetic) (thresholdQuantile : ℚ)
    (samples : List (HawkesSample α)) : Option α :=
  ((samples.map HawkesSample.intensity).insertionSort (· ≤ ·))[
    quantileIndex ar thresholdQuantile samples.length]?

private theorem length_lastSamples_le (samples : List (HawkesSample α)) :
    (lastSamples samples).length ≤ hawkesWindowSeconds := by
  rw [lastSamples, List.length_drop]
  omega

variable {ar : Arithmetic} {thresholdQuantile : ℚ}

/-- The index of a quantile is one of the list. -/
theorem quantileIndex_lt (hzero : 0 ≤ thresholdQuantile) (hone : thresholdQuantile ≤ 1) {count : ℕ}
    (hpos : 0 < count) (hcount : count ≤ hawkesWindowSeconds) :
    quantileIndex ar thresholdQuantile count < count := by
  have hnonneg : (0 : ℚ) ≤ ((count - 1 : ℕ) : ℚ) * thresholdQuantile :=
    mul_nonneg (Nat.cast_nonneg _) hzero
  have hle : ((count - 1 : ℕ) : ℚ) * thresholdQuantile ≤ ((count - 1 : ℕ) : ℚ) :=
    mul_le_of_le_one_right (Nat.cast_nonneg _) hone
  have hsmall : count - 1 < 2 ^ 53 := by
    unfold hawkesWindowSeconds at hcount
    omega
  have hfraction := ar.fraction_le hnonneg hle hsmall
  have hfloor : ⌊ar.fraction (((count - 1 : ℕ) : ℚ) * thresholdQuantile)⌋ ≤ (count - 1 : ℕ) := by
    have := Int.floor_mono hfraction
    rwa [Int.floor_natCast] at this
  unfold quantileIndex
  omega

variable [LinearOrder α] {state : HawkesInstrumentState α} {samples : List (HawkesSample α)}

/-- A ring that holds the last samples gives the order statistic of those in the window. -/
theorem quantile_of_holds (h : Holds state samples) (hzero : 0 ≤ thresholdQuantile)
    (hone : thresholdQuantile ≤ 1) {now : ℤ} (hnow : state.lastEventMs = some now)
    (hne : inWindow now (lastSamples samples) ≠ []) (fallback : α) (clock : ℤ) :
    ∃ value, state.quantile ar thresholdQuantile fallback clock = some value ∧
      orderStatistic ar thresholdQuantile (inWindow now (lastSamples samples)) = some value := by
  set window := inWindow now (lastSamples samples)
  set scratch := ((List.range state.sampleCount).filter fun index =>
    now - hawkesWindowMs ≤ state.sampleTimes index).map state.sampleValues with hscratch
  have hperm : scratch.Perm (window.map HawkesSample.intensity) := by
    have hstored := (h.perm.filter fun sample => now - hawkesWindowMs ≤ sample.observedAtMs).map
      HawkesSample.intensity
    rw [List.filter_map, List.map_map] at hstored
    exact hstored
  have hlength : scratch.length = window.length := by
    rw [hperm.length_eq, List.length_map]
  have hpos : 0 < window.length := List.length_pos_iff.mpr hne
  have hwindow : window.length ≤ hawkesWindowSeconds :=
    (List.length_filter_le _ _).trans (length_lastSamples_le samples)
  have hindex := @quantileIndex_lt ar _ hzero hone _ hpos hwindow
  have hsorted : scratch.insertionSort (· ≤ ·) =
      (window.map HawkesSample.intensity).insertionSort (· ≤ ·) :=
    List.Perm.eq_of_pairwise' (List.pairwise_insertionSort _ _) (List.pairwise_insertionSort _ _)
      (((List.perm_insertionSort _ _).trans hperm).trans (List.perm_insertionSort _ _).symm)
  have hquantile : state.quantile ar thresholdQuantile fallback clock =
      orderStatistic ar thresholdQuantile window := by
    unfold HawkesInstrumentState.quantile
    rw [hnow]
    simp only [Option.getD_some, ← hscratch, hlength]
    have hmin : min (window.length - 1)
        ⌊ar.fraction (((window.length - 1 : ℕ) : ℚ) * thresholdQuantile)⌋.toNat =
        quantileIndex ar thresholdQuantile window.length := by
      unfold quantileIndex at hindex ⊢
      omega
    rw [if_neg hpos.ne', hmin, ← hlength, Quickselect.quickSelect_eq_getElem? (by rwa [hlength]),
      hsorted, hlength]
    rfl
  obtain ⟨value, hvalue⟩ : ∃ value, orderStatistic ar thresholdQuantile window = some value := by
    refine ⟨_, List.getElem?_eq_getElem ?_⟩
    rwa [List.length_insertionSort, List.length_map]
  exact ⟨value, hquantile.trans hvalue, hvalue⟩

omit [LinearOrder α] in
private theorem inWindow_append_singleton_ne (samples : List (HawkesSample α))
    (last : HawkesSample α) :
    inWindow last.observedAtMs (lastSamples (samples ++ [last])) ≠ [] := by
  have hlast : last ∈ lastSamples (samples ++ [last]) := by
    rw [lastSamples, List.drop_append_of_le_length]
    · exact List.mem_append_right _ List.mem_cons_self
    · rw [List.length_append, List.length_singleton]
      unfold hawkesWindowSeconds
      omega
  apply List.ne_nil_of_mem (a := last)
  rw [inWindow, List.mem_filter]
  refine ⟨hlast, ?_⟩
  unfold hawkesWindowMs
  simp

/-- Whatever is sampled, with any times, the quantile that is computed after a sample is the order
statistic, as they are stored, of those samples of the last hour that are among the last ones the
ring has room for. -/
theorem quantile_is_order_statistic [Zero α] (ar : Arithmetic) (fround : α → α)
    {thresholdQuantile : ℚ} (hzero : 0 ≤ thresholdQuantile) (hone : thresholdQuantile ≤ 1)
    (fallback : α) (clock : ℤ) (samples : List (HawkesSample α)) (last : HawkesSample α) :
    ∃ value, (recorded fround (samples ++ [last])).quantile ar thresholdQuantile fallback clock =
        some value ∧
      orderStatistic ar thresholdQuantile (inWindow last.observedAtMs
        (lastSamples ((samples ++ [last]).map (HawkesSample.stored fround)))) = some value := by
  have hne := inWindow_append_singleton_ne (samples.map (HawkesSample.stored fround))
    (last.stored fround)
  rw [← List.map_singleton, ← List.map_append] at hne
  apply quantile_of_holds (holds_recorded fround _) hzero hone _ hne
  rw [recorded, List.foldl_append]
  rfl

/-- A value of single precision, for values that are not too large for it. -/
private def toSingle : ℚ → ℚ := Rounding.roundRational 24 (-149)

/-- Three samples, of which the second is older than an hour when the third is taken; the median
of the other two is the lower one, in single precision. -/
theorem median_without_old_sample :
    (recorded toSingle [⟨31 / 10, 1000⟩, ⟨7, 0⟩, ⟨51 / 10, 3601000⟩]).quantile .exact (1 / 2) 0 0 =
      some (13002342 / 2 ^ 22) := by
  obtain ⟨value, hquantile, hstatistic⟩ := quantile_is_order_statistic .exact toSingle
    (show (0 : ℚ) ≤ 1 / 2 by norm_num) (by norm_num) 0 0 [⟨31 / 10, 1000⟩, ⟨7, 0⟩]
    ⟨51 / 10, 3601000⟩
  have hvalue : orderStatistic .exact (1 / 2) (inWindow 3601000 (lastSamples
      (([⟨31 / 10, 1000⟩, ⟨7, 0⟩] ++ [⟨51 / 10, 3601000⟩] : List (HawkesSample ℚ)).map
        (HawkesSample.stored toSingle)))) = some (13002342 / 2 ^ 22) := by decide +kernel
  rw [hvalue] at hstatistic
  exact hquantile.trans hstatistic.symm

/-! ## A second too many -/

/-- A sample at every full second for so many seconds, the first of which is the highest. -/
def fullSeconds (count : ℕ) : List (HawkesSample ℚ) :=
  ⟨1, 0⟩ :: (List.range count).map fun (second : ℕ) => ⟨0, 1000 * ((second : ℤ) + 1)⟩

private theorem fullSeconds_succ (count : ℕ) :
    fullSeconds (count + 1) = fullSeconds count ++ [⟨0, 1000 * ((count : ℤ) + 1)⟩] := by
  simp [fullSeconds, List.range_succ]

private theorem intensity_of_mem_tail {count : ℕ} {sample : HawkesSample ℚ}
    (h : sample ∈ (fullSeconds count).tail) : sample.intensity = 0 := by
  obtain ⟨second, -, rfl⟩ := List.mem_map.mp h
  rfl

private theorem inWindow_fullSeconds (count : ℕ) :
    inWindow hawkesWindowMs (fullSeconds count) = fullSeconds count := by
  apply List.filter_eq_self.mpr
  intro sample hsample
  rw [Int.sub_self, decide_eq_true_eq]
  rcases List.mem_cons.mp hsample with rfl | hsample
  · exact le_rfl
  · obtain ⟨second, -, rfl⟩ := List.mem_map.mp hsample
    show (0 : ℤ) ≤ 1000 * ((second : ℤ) + 1)
    omega

private theorem sorted_fullSeconds (count : ℕ) :
    ((fullSeconds count).map HawkesSample.intensity).insertionSort (· ≤ ·) =
      List.replicate count 0 ++ [1] := by
  have hvalues : (fullSeconds count).map HawkesSample.intensity = 1 :: List.replicate count 0 := by
    simp [fullSeconds, Function.comp_def]
  apply List.Perm.eq_of_pairwise' (List.pairwise_insertionSort _ _)
  · rw [List.pairwise_append]
    refine ⟨List.pairwise_replicate.mpr (.inr le_rfl), List.pairwise_singleton _ _, ?_⟩
    intro a ha b hb
    rw [List.eq_of_mem_replicate ha, List.mem_singleton.mp hb]
    norm_num
  · refine (List.perm_insertionSort _ _).trans ?_
    rw [hvalues]
    exact (List.perm_append_singleton 1 (List.replicate count 0)).symm

private theorem stored_fullSeconds (count : ℕ) :
    (fullSeconds count).map (HawkesSample.stored toSingle) = fullSeconds count := by
  have hzero : toSingle 0 = 0 := by decide +kernel
  have hone : toSingle 1 = 1 := by decide +kernel
  simp [fullSeconds, HawkesSample.stored, Function.comp_def, hzero, hone]

/-- At the end of the hour the highest sample is inside the window, but the ring has no room for
it: the greatest sample is one, and the greatest stored sample is zero. And of a single sample a
value of single precision is stored. -/
theorem oldest_sample_overwritten :
    inWindow hawkesWindowMs (fullSeconds hawkesWindowSeconds) = fullSeconds hawkesWindowSeconds ∧
      orderStatistic .exact 1 (inWindow hawkesWindowMs (fullSeconds hawkesWindowSeconds)) =
        some 1 ∧
      (recorded toSingle (fullSeconds hawkesWindowSeconds)).lastEventMs = some hawkesWindowMs ∧
      (recorded toSingle (fullSeconds hawkesWindowSeconds)).quantile .exact 1 0 0 = some 0 ∧
      (recorded toSingle [⟨1 / 10, 0⟩]).quantile .exact 1 0 0 = some (13421773 / 134217728) := by
  have hlast : (recorded toSingle (fullSeconds hawkesWindowSeconds)).lastEventMs =
      some hawkesWindowMs := by
    have hlength : hawkesWindowSeconds = 3599 + 1 := rfl
    rw [hlength, fullSeconds_succ, recorded, List.foldl_append]
    rfl
  refine ⟨inWindow_fullSeconds _, ?_, hlast, ?_, by decide +kernel⟩
  · have hindex : quantileIndex .exact 1 (fullSeconds hawkesWindowSeconds).length =
        hawkesWindowSeconds := by
      simp [quantileIndex, fullSeconds, Arithmetic.exact]
    rw [inWindow_fullSeconds, orderStatistic, sorted_fullSeconds, hindex,
      List.getElem?_append_right (by simp)]
    simp
  · have hne : inWindow hawkesWindowMs (lastSamples (fullSeconds hawkesWindowSeconds)) ≠ [] := by
      have hlength : hawkesWindowSeconds = 3599 + 1 := rfl
      have happend := inWindow_append_singleton_ne (fullSeconds 3599) ⟨0, 1000 * ((3599 : ℤ) + 1)⟩
      rw [hlength, fullSeconds_succ]
      exact happend
    have hholds := holds_recorded toSingle (fullSeconds hawkesWindowSeconds)
    rw [stored_fullSeconds] at hholds
    obtain ⟨value, hvalue, hstatistic⟩ := @quantile_of_holds ℚ .exact 1 _ _ _ hholds zero_le_one
      le_rfl _ hlast hne 0 0
    have hzero : ∀ sample ∈ lastSamples (fullSeconds hawkesWindowSeconds),
        sample.intensity = 0 := by
      intro sample hsample
      have hdrop : lastSamples (fullSeconds hawkesWindowSeconds) =
          (fullSeconds hawkesWindowSeconds).tail := by
        rw [lastSamples, ← List.drop_one]
        simp [fullSeconds]
      rw [hdrop] at hsample
      exact intensity_of_mem_tail hsample
    have hmem := (List.mem_insertionSort _).mp (List.mem_of_getElem? hstatistic)
    obtain ⟨sample, hsample, rfl⟩ := List.mem_map.mp hmem
    rw [hvalue, hzero sample (List.mem_filter.mp hsample).1]

end Quantile

end Yevow.Ingest
