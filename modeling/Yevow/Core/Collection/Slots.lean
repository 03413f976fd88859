import Mathlib.Algebra.Order.Group.Multiset
import Mathlib.Data.List.FinRange

/-!
# A pass over numbered slots

A loop visits every slot of a state once, in order. Each visit reads and writes its own slot
and may hand something out. The pass then acts on every slot as the visit does, whatever the
visits before it did.
-/

namespace Slots

variable {n : ℕ} {σ α β : Type}

/-- One visit after another, with what they hand out in that order. -/
def sweepFrom (visit : σ → Fin n → σ × Option β) (indices : List (Fin n)) (s : σ) :
    σ × List β :=
  indices.foldl (fun acc i =>
    let visited := visit acc.1 i
    (visited.1, acc.2 ++ visited.2.toList)) (s, [])

/-- A pass over all slots. -/
def sweep (visit : σ → Fin n → σ × Option β) (s : σ) : σ × List β :=
  sweepFrom visit (List.finRange n) s

/-- A visit that depends on its own slot only, and changes no other. -/
structure IsLocal (slots : σ → Fin n → α) (act : Fin n → α → α × Option β)
    (visit : σ → Fin n → σ × Option β) : Prop where
  slots_eq : ∀ s i, slots (visit s i).1 = Function.update (slots s) i (act i (slots s i)).1
  output_eq : ∀ s i, (visit s i).2 = (act i (slots s i)).2

private theorem foldl_outputs (visit : σ → Fin n → σ × Option β) (indices : List (Fin n))
    (s : σ) (outputs : List β) :
    indices.foldl (fun acc i =>
      let visited := visit acc.1 i
      (visited.1, acc.2 ++ visited.2.toList)) (s, outputs) =
    ((sweepFrom visit indices s).1, outputs ++ (sweepFrom visit indices s).2) := by
  unfold sweepFrom
  induction indices generalizing s outputs with
  | nil => simp
  | cons i indices ih =>
    simp only [List.foldl_cons, List.nil_append]
    rw [ih, ih (visit s i).1 (visit s i).2.toList, List.append_assoc]

@[simp] theorem sweepFrom_nil (visit : σ → Fin n → σ × Option β) (s : σ) :
    sweepFrom visit [] s = (s, []) := rfl

/-- A pass is its first visit and a pass over the rest. -/
theorem sweepFrom_cons (visit : σ → Fin n → σ × Option β) (i : Fin n)
    (indices : List (Fin n)) (s : σ) :
    sweepFrom visit (i :: indices) s =
      ((sweepFrom visit indices (visit s i).1).1,
        (visit s i).2.toList ++ (sweepFrom visit indices (visit s i).1).2) := by
  rw [sweepFrom, List.foldl_cons]
  exact foldl_outputs visit indices (visit s i).1 (visit s i).2.toList

/-- What the visits preserve, with what was handed out so far, the pass preserves. -/
theorem sweep_induction {visit : σ → Fin n → σ × Option β} (P : σ → List β → Prop)
    (hvisit : ∀ s i outputs, P s outputs → P (visit s i).1 (outputs ++ (visit s i).2.toList))
    {s : σ} (h : P s []) : P (sweep visit s).1 (sweep visit s).2 := by
  have hfrom : ∀ (indices : List (Fin n)) s outputs, P s outputs →
      P (sweepFrom visit indices s).1 (outputs ++ (sweepFrom visit indices s).2) := by
    intro indices
    induction indices with
    | nil =>
      intro s outputs h
      simpa using h
    | cons i indices ih =>
      intro s outputs h
      rw [sweepFrom_cons]
      have hrest := ih _ _ (hvisit s i outputs h)
      rwa [List.append_assoc] at hrest
  exact hfrom (List.finRange n) s [] h

section Local

variable {slots : σ → Fin n → α} {act : Fin n → α → α × Option β}
  {visit : σ → Fin n → σ × Option β}

private theorem slots_sweepFrom (hlocal : IsLocal slots act visit) {indices : List (Fin n)}
    (hnodup : indices.Nodup) (s : σ) (i : Fin n) :
    slots (sweepFrom visit indices s).1 i =
      if i ∈ indices then (act i (slots s i)).1 else slots s i := by
  induction indices generalizing s with
  | nil => simp
  | cons j indices ih =>
    obtain ⟨hj, hrest⟩ := List.nodup_cons.mp hnodup
    rw [sweepFrom_cons, ih hrest, hlocal.slots_eq]
    by_cases hij : i = j
    · rw [hij]
      simp [hj]
    · simp [hij]

private theorem outputs_sweepFrom (hlocal : IsLocal slots act visit) {indices : List (Fin n)}
    (hnodup : indices.Nodup) (s : σ) :
    (sweepFrom visit indices s).2 = indices.filterMap fun i => (act i (slots s i)).2 := by
  induction indices generalizing s with
  | nil => rfl
  | cons j indices ih =>
    obtain ⟨hj, hrest⟩ := List.nodup_cons.mp hnodup
    have hsame : (indices.filterMap fun i => (act i (slots (visit s j).1 i)).2) =
        indices.filterMap fun i => (act i (slots s i)).2 := by
      apply List.filterMap_congr
      intro i hi
      have hij : i ≠ j := fun he => hj (he ▸ hi)
      rw [hlocal.slots_eq, Function.update_of_ne hij]
    rw [sweepFrom_cons, ih hrest, hsame, hlocal.output_eq, List.filterMap_cons]
    cases (act j (slots s j)).2 <;> rfl

/-- A pass acts on every slot. -/
theorem slots_sweep (hlocal : IsLocal slots act visit) (s : σ) :
    slots (sweep visit s).1 = fun i => (act i (slots s i)).1 := by
  funext i
  rw [sweep, slots_sweepFrom hlocal (List.nodup_finRange n), if_pos (List.mem_finRange i)]

/-- A pass hands out what the slots do, by their number. -/
theorem outputs_sweep (hlocal : IsLocal slots act visit) (s : σ) :
    (sweep visit s).2 = (List.finRange n).filterMap fun i => (act i (slots s i)).2 :=
  outputs_sweepFrom hlocal (List.nodup_finRange n) s

end Local

/-- What is balanced in each slot is balanced over all. -/
theorem perm_filterMap {ι : Type} {f g h k : ι → Option β} (indices : List ι)
    (hbalance : ∀ i ∈ indices, ((f i).toList ++ (g i).toList).Perm
      ((h i).toList ++ (k i).toList)) :
    (indices.filterMap f ++ indices.filterMap g).Perm
      (indices.filterMap h ++ indices.filterMap k) := by
  have hcons : ∀ (f : ι → Option β) i indices, ((i :: indices).filterMap f : Multiset β) =
      ((f i).toList : Multiset β) + (indices.filterMap f : Multiset β) := by
    intro f i indices
    rw [List.filterMap_cons]
    cases f i <;> rfl
  induction indices with
  | nil => exact List.Perm.refl _
  | cons i indices ih =>
    have hhead := Multiset.coe_eq_coe.mpr (hbalance i (by simp))
    have htail := Multiset.coe_eq_coe.mpr (ih fun j hj => hbalance j (by simp [hj]))
    rw [← Multiset.coe_add, ← Multiset.coe_add] at hhead htail
    rw [← Multiset.coe_eq_coe, ← Multiset.coe_add, ← Multiset.coe_add, hcons, hcons, hcons,
      hcons, add_add_add_comm, hhead, htail, add_add_add_comm]

/-- What one slot hands out alone. -/
theorem filterMap_single (output : Option β) (j : Fin n) :
    ((List.finRange n).filterMap fun i => if i = j then output else none) = output.toList := by
  have hnodup : ∀ indices : List (Fin n), indices.Nodup →
      (indices.filterMap fun i => if i = j then output else none) =
        if j ∈ indices then output.toList else [] := by
    intro indices hindices
    induction indices with
    | nil => simp
    | cons i indices ih =>
      obtain ⟨hi, hrest⟩ := List.nodup_cons.mp hindices
      rw [List.filterMap_cons]
      by_cases hij : i = j
      · subst hij
        rw [ih hrest, if_neg hi]
        cases output <;> simp
      · simp [hij, Ne.symm hij, ih hrest]
  rw [hnodup _ (List.nodup_finRange n), if_pos (List.mem_finRange j)]

end Slots
