import Mathlib.Tactic.Common

/-!
# Computations that may throw

Inversion rules for `Except`: a sequence returns exactly when each part does. They let a
proof peel a `do` block apart one statement at a time.
-/

namespace Except

variable {ε α β γ σ : Type}

@[simp] theorem bind_ok (a : α) (f : α → Except ε β) : (Except.ok a >>= f) = f a := rfl

@[simp] theorem bind_error (e : ε) (f : α → Except ε β) :
    (Except.error e >>= f) = Except.error e := rfl

@[simp] theorem pure_eq_ok (a : α) : (pure a : Except ε α) = Except.ok a := rfl

@[simp] theorem throw_eq_error (e : ε) : (throw e : Except ε α) = Except.error e := rfl

/-- A sequence returns exactly when its first part does and the rest returns from there. -/
theorem bind_eq_ok {x : Except ε α} {f : α → Except ε β} {b : β} :
    (x >>= f) = .ok b ↔ ∃ a, x = .ok a ∧ f a = .ok b := by
  cases x with
  | error e => simp
  | ok a => simp

/-- A sequence throws exactly when its first part does or the rest throws from there. -/
theorem bind_eq_error {x : Except ε α} {f : α → Except ε β} {e : ε} :
    (x >>= f) = .error e ↔ x = .error e ∨ ∃ a, x = .ok a ∧ f a = .error e := by
  cases x with
  | error e' => simp
  | ok a => simp

/-- A mapped result comes from a result. -/
theorem map_eq_ok {x : Except ε α} {f : α → β} {b : β} :
    x.map f = .ok b ↔ ∃ a, x = .ok a ∧ f a = b := by
  cases x with
  | error e => simp [Except.map]
  | ok a => simp [Except.map]

/-- What every step of a loop keeps holds of what the loop returns. -/
theorem foldlM_induction {P : β → Prop} {f : β → α → Except ε β} {l : List α} {b c : β}
    (h : l.foldlM f b = .ok c) (hb : P b)
    (hf : ∀ b, P b → ∀ a ∈ l, ∀ b', f b a = .ok b' → P b') : P c := by
  induction l generalizing b with
  | nil =>
    obtain rfl := Except.ok.inj h
    exact hb
  | cons a l ih =>
    rw [List.foldlM_cons] at h
    obtain ⟨b', hstep, hrest⟩ := bind_eq_ok.mp h
    exact ih hrest (hf b hb a List.mem_cons_self b' hstep)
      fun b hb a ha => hf b hb a (List.mem_cons_of_mem _ ha)

/-- Every error the computation throws is of a kind. -/
def ThrowsOnly (P : ε → Prop) (x : Except ε α) : Prop := ∀ e, x = .error e → P e

theorem throwsOnly_ok {P : ε → Prop} (a : α) : ThrowsOnly P (.ok a : Except ε α) := by
  intro e he
  cases he

theorem throwsOnly_error {P : ε → Prop} {e : ε} (he : P e) :
    ThrowsOnly P (.error e : Except ε α) := by
  rintro _ ⟨⟩
  exact he

/-- A sequence throws what its parts throw. -/
theorem ThrowsOnly.bind {P : ε → Prop} {x : Except ε α} {f : α → Except ε β}
    (hx : x.ThrowsOnly P) (hf : ∀ a, x = .ok a → (f a).ThrowsOnly P) : (x >>= f).ThrowsOnly P := by
  intro e he
  rcases bind_eq_error.mp he with hfirst | ⟨a, ha, hrest⟩
  · exact hx e hfirst
  · exact hf a ha e hrest

/-- Mapping a result throws nothing else. -/
theorem ThrowsOnly.map {P : ε → Prop} {x : Except ε α} {f : α → β} (hx : x.ThrowsOnly P) :
    (x.map f).ThrowsOnly P := by
  cases x with
  | error e => exact throwsOnly_error (hx e rfl)
  | ok a => exact throwsOnly_ok (f a)

/-- A guard statement: throw when the condition holds. -/
def throwIf (p : Prop) [Decidable p] (e : ε) : Except ε Unit := if p then .error e else .ok ()

/-- A guard lets the run pass exactly when its condition does not hold. -/
@[simp] theorem throwIf_eq_ok {p : Prop} [Decidable p] {e : ε} {u : Unit} :
    throwIf p e = .ok u ↔ ¬p := by
  unfold throwIf
  split_ifs with h <;> simp [h]

theorem throwIf_of_not {p : Prop} [Decidable p] (e : ε) (h : ¬p) : throwIf p e = .ok () :=
  if_neg h

end Except
