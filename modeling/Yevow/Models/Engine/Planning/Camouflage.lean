import Mathlib
import Yevow.Core.Text.Separator
import Yevow.Models.Engine.Planning.Sizing

/-!
# Camouflage

An approved size is reduced or kept by a random part, and a larger one is split into chunks of
about the same size.
-/

namespace Yevow.Engine

/-- The values that `Math.random()` will give. -/
structure Draws where
  draw : ℕ → ℚ
  nonneg : ∀ n, 0 ≤ draw n
  lt_one : ∀ n, draw n < 1

/-- An intent in disguise and its children. -/
structure CamouflageResult where
  intent : ExecutionIntent
  intendedSize : ℚ
  camouflagedSize : ℚ
  timingJitterMs : ℤ
  icebergChunks : List ExecutionIntent

variable (draws : Draws)

/-- The jitter of the default options, between one and five per cent either way. -/
def signedJitter : ℚ :=
  (if draws.draw 0 < 1 / 2 then -1 else 1) *
    (1 / 100 + draws.draw 1 * max 0 (5 / 100 - 1 / 100))

/-- One child of an intent. -/
def icebergChild (intent : ExecutionIntent) (index : ℕ) (childSize : ℚ) : ExecutionIntent :=
  { intent with
    intentId := intent.intentId ++ ":iceberg:" ++ toString (index + 1)
    approvedSize := some childSize }

/-- The chunks from an index on; the last one takes what remains. -/
def icebergFrom (intent : ExecutionIntent) (base : ℚ) (index : ℕ) : ℕ → ℚ → List ExecutionIntent
  | 0, _ => []
  | 1, remaining => [icebergChild intent index remaining]
  | chunks + 2, remaining =>
    let jittered := max 0 (base * (95 / 100 + draws.draw (3 + index) * (1 / 10)))
    let childSize := min remaining jittered
    icebergChild intent index childSize ::
      icebergFrom intent base (index + 1) (chunks + 1) (max 0 (remaining - childSize))

/-- The number of chunks for a size above three. -/
def icebergChunkCount (size : ℚ) : ℕ := min 5 (max 2 ⌈size / 3⌉).toNat

/-- The children of an intent. -/
def iceberg (intent : ExecutionIntent) (maxCumulativeSize : ℚ) : List ExecutionIntent :=
  if intent.size ≤ 3 then [intent]
  else
    let chunks := icebergChunkCount intent.size
    (icebergFrom draws intent (intent.size / chunks) 0 chunks maxCumulativeSize).filter
      fun child => 0 < child.approvedSize.getD 0

/-- The size is blurred and cut into children. -/
def camouflageIntent (intent : ExecutionIntent) (maxApprovedSize : ℚ) : CamouflageResult :=
  let intendedSize := intent.size
  let camouflagedSize :=
    min (min intendedSize maxApprovedSize) (max 0 (intendedSize * (1 + signedJitter draws)))
  let camouflagedIntent :=
    { intent with
      approvedSize := some camouflagedSize
      rationale := intent.rationale ++ "; mixed-strategy size jitter applied" }
  { intent := camouflagedIntent
    intendedSize
    camouflagedSize
    timingJitterMs := ⌊5 + draws.draw 2 * max 1 (20 - 5 + 1)⌋
    icebergChunks := iceberg draws camouflagedIntent camouflagedSize }

/-! ## The size -/

private theorem neg_one_lt_signedJitter : -1 < signedJitter draws := by
  have hnonneg := draws.nonneg 1
  have hlt := draws.lt_one 1
  unfold signedJitter
  have hwidth : max (0 : ℚ) (5 / 100 - 1 / 100) = 4 / 100 := by norm_num
  rw [hwidth]
  split_ifs <;> linarith

/-- A camouflaged size is positive and no larger than what was approved. -/
theorem camouflagedSize_bounds (intent : ExecutionIntent) {size : ℚ} (hsize : 0 < size) :
    0 < (camouflageIntent draws { intent with approvedSize := some size } size).camouflagedSize ∧
      (camouflageIntent draws { intent with approvedSize := some size } size).camouflagedSize ≤
        size := by
  have hjitter : 0 < size * (1 + signedJitter draws) :=
    mul_pos hsize (by linarith [neg_one_lt_signedJitter draws])
  constructor
  · exact lt_min (lt_min hsize hsize) (lt_max_of_lt_right hjitter)
  · exact (min_le_left _ _).trans (min_le_right _ _)

/-! ## The chunks -/

variable {draws} {intent : ExecutionIntent}

@[simp] theorem size_icebergChild (index : ℕ) (childSize : ℚ) :
    (icebergChild intent index childSize).size = childSize := (rfl)

private theorem sum_icebergFrom (base : ℚ) (index chunks : ℕ) {remaining : ℚ}
    (h : 0 ≤ remaining) : ((icebergFrom draws intent base index (chunks + 1) remaining).map
      ExecutionIntent.size).sum = remaining := by
  induction chunks generalizing index remaining with
  | zero => simp [icebergFrom]
  | succ chunks ih =>
    have hrest : 0 ≤ remaining -
        min remaining (max 0 (base * (95 / 100 + draws.draw (3 + index) * (1 / 10)))) :=
      sub_nonneg.mpr (min_le_left _ _)
    rw [icebergFrom, List.map_cons, List.sum_cons, max_eq_right hrest, ih _ hrest]
    simp

private theorem mem_icebergFrom {base : ℚ} {index chunks : ℕ} {remaining : ℚ}
    {child : ExecutionIntent} (h : 0 ≤ remaining)
    (hchild : child ∈ icebergFrom draws intent base index chunks remaining) :
    ∃ i size, 0 ≤ size ∧ child = icebergChild intent i size := by
  induction chunks generalizing index remaining with
  | zero => simp [icebergFrom] at hchild
  | succ chunks ih =>
    cases chunks with
    | zero =>
      simp only [icebergFrom, List.mem_singleton] at hchild
      exact ⟨index, remaining, h, hchild⟩
    | succ chunks =>
      rw [icebergFrom] at hchild
      rcases List.mem_cons.mp hchild with rfl | hrest
      · exact ⟨index, _, le_min h (le_max_left _ _), rfl⟩
      · exact ih (le_max_left _ _) hrest

/-- The intent ids number the chunks. -/
private theorem intentId_icebergFrom {base : ℚ} {index chunks : ℕ} {remaining : ℚ} :
    (icebergFrom draws intent base index chunks remaining).map ExecutionIntent.intentId =
      (List.range' index chunks).map fun i =>
        intent.intentId ++ ":iceberg:" ++ toString (i + 1) := by
  induction chunks generalizing index remaining with
  | zero => rfl
  | succ chunks ih =>
    cases chunks with
    | zero => rfl
    | succ chunks =>
      rw [icebergFrom, List.map_cons, ih, List.range'_succ, List.map_cons]
      rfl

private theorem sum_filter_pos {xs : List ExecutionIntent} (h : ∀ x ∈ xs, 0 ≤ x.size) :
    ((xs.filter fun x => 0 < x.size).map ExecutionIntent.size).sum =
      (xs.map ExecutionIntent.size).sum := by
  induction xs with
  | nil => rfl
  | cons x xs ih =>
    have hx := h x List.mem_cons_self
    have htail := ih fun y hy => h y (List.mem_cons_of_mem _ hy)
    by_cases hpos : 0 < x.size
    · simp [hpos, htail]
    · have hzero : x.size = 0 := le_antisymm (not_lt.mp hpos) hx
      simp [hzero, htail]

private theorem filter_icebergFrom {base : ℚ} {index chunks : ℕ} {remaining : ℚ}
    (h : 0 ≤ remaining) :
    (icebergFrom draws intent base index chunks remaining).filter
        (fun child => 0 < child.approvedSize.getD 0) =
      (icebergFrom draws intent base index chunks remaining).filter fun child =>
        0 < child.size := by
  apply List.filter_congr
  intro child hchild
  obtain ⟨i, size, -, rfl⟩ := mem_icebergFrom h hchild
  rfl

private theorem one_lt_icebergChunkCount (size : ℚ) : 1 < icebergChunkCount size := by
  unfold icebergChunkCount
  omega

/-- The chunks add up to the size that is split. -/
theorem sum_iceberg (h : 0 ≤ intent.size) :
    ((iceberg draws intent intent.size).map ExecutionIntent.size).sum = intent.size := by
  unfold iceberg
  split_ifs with hsmall
  · simp
  · obtain ⟨chunks, hchunks⟩ : ∃ chunks, icebergChunkCount intent.size = chunks + 1 :=
      ⟨icebergChunkCount intent.size - 1, by
        have := one_lt_icebergChunkCount intent.size
        omega⟩
    simp only [hchunks]
    rw [filter_icebergFrom h, sum_filter_pos, sum_icebergFrom _ _ _ h]
    intro child hchild
    obtain ⟨i, size, hsize, rfl⟩ := mem_icebergFrom h hchild
    exact hsize

/-- Each chunk has a part of the size and the price of the intent. -/
theorem mem_iceberg (h : 0 < intent.size) {child : ExecutionIntent}
    (hchild : child ∈ iceberg draws intent intent.size) :
    0 < child.size ∧ child.expectedPrice = intent.expectedPrice := by
  unfold iceberg at hchild
  split_ifs at hchild with hsmall
  · rw [List.mem_singleton.mp hchild]
    exact ⟨h, rfl⟩
  · obtain ⟨hmem, hpos⟩ := List.mem_filter.mp hchild
    obtain ⟨i, size, -, rfl⟩ := mem_icebergFrom h.le hmem
    exact ⟨of_decide_eq_true hpos, rfl⟩

/-- No two children share an id. -/
theorem nodup_intentId_iceberg {maxCumulativeSize : ℚ} :
    ((iceberg draws intent maxCumulativeSize).map ExecutionIntent.intentId).Nodup := by
  unfold iceberg
  split_ifs with hsmall
  · simp
  · refine List.Nodup.sublist (List.filter_sublist.map _) ?_
    rw [intentId_icebergFrom]
    refine List.Nodup.map ?_ (List.nodup_range' ..)
    intro i j heq
    have hnumber := Nat.repr_injective (Text.append_left_inj heq)
    omega

end Yevow.Engine
