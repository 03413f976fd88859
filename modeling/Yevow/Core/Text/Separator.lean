import Mathlib.Data.String.Basic
import Mathlib.Tactic.Common

/-!
# Keys joined by a separator

Keys are built by joining parts with a separator character. Parts that do not contain the
separator can be read off a joined key; of other parts only one can be, from the side where
all its neighbours are free of the separator.
-/

namespace Text

/-- No character of the text is the separator. -/
def Free (sep : Char) (s : String) : Prop := sep ∉ s.toList

instance (sep : Char) (s : String) : Decidable (Free sep s) :=
  inferInstanceAs (Decidable (¬_))

private theorem split_of_notMem {α : Type} {sep : α} {xs ys xs' ys' : List α}
    (hy : sep ∉ ys) (hy' : sep ∉ ys') (h : xs ++ sep :: ys = xs' ++ sep :: ys') :
    xs = xs' ∧ ys = ys' := by
  rcases List.append_eq_append_iff.mp h with ⟨zs, rfl, hz⟩ | ⟨zs, rfl, hz⟩
  · cases zs with
    | nil => simpa using hz
    | cons z zs =>
      obtain ⟨-, rfl⟩ := List.cons.inj hz
      simp at hy
  · cases zs with
    | nil => simpa [eq_comm] using hz
    | cons z zs =>
      obtain ⟨-, rfl⟩ := List.cons.inj hz
      simp at hy'

/-- The last part of a joined text can be read off when it is free of the separator. -/
theorem append_sep_inj {sep : Char} {t a b c d : String} (ht : t.toList = [sep])
    (hb : Free sep b) (hd : Free sep d) (h : a ++ t ++ b = c ++ t ++ d) : a = c ∧ b = d := by
  have hlist := congrArg String.toList h
  simp only [String.toList_append, ht, List.append_assoc, List.singleton_append] at hlist
  obtain ⟨hac, hbd⟩ := split_of_notMem hb hd hlist
  exact ⟨String.toList_injective hac, String.toList_injective hbd⟩

/-- Two parts free of the separator can be read off a joined key whatever the other parts are. -/
theorem append_sep_eq_iff {sep : Char} {t a b c d : String} (ht : t.toList = [sep])
    (hc : Free sep c) (hd : Free sep d) : a ++ t ++ b = c ++ t ++ d ↔ a = c ∧ b = d := by
  constructor
  · intro h
    have hcount := congrArg (fun s => s.toList.count sep) h
    simp only [String.toList_append, ht, List.count_append, List.count_singleton_self,
      List.count_eq_zero_of_not_mem hc, List.count_eq_zero_of_not_mem hd] at hcount
    have hb : Free sep b := List.count_eq_zero.mp (by omega)
    exact append_sep_inj ht hb hd h
  · rintro ⟨rfl, rfl⟩
    rfl

/-- Two splits of one text at different separators: what one side has more, the other has less. -/
def Shifted (t a b c d : String) : Prop :=
  ∃ w, (c = a ++ t ++ w ∧ b = w ++ t ++ d) ∨ (a = c ++ t ++ w ∧ d = w ++ t ++ b)

private theorem eq_or_shifted_of_append {sep : Char} {xs ys xs' ys' : List Char}
    (h : xs ++ sep :: ys = xs' ++ sep :: ys') : (xs = xs' ∧ ys = ys') ∨
      ∃ w, (xs' = xs ++ sep :: w ∧ ys = w ++ sep :: ys') ∨
        (xs = xs' ++ sep :: w ∧ ys' = w ++ sep :: ys) := by
  rcases List.append_eq_append_iff.mp h with ⟨zs, rfl, hz⟩ | ⟨zs, rfl, hz⟩
  · cases zs with
    | nil => simpa using hz
    | cons z zs =>
      obtain ⟨rfl, rfl⟩ := List.cons.inj hz
      exact Or.inr ⟨zs, Or.inl ⟨rfl, rfl⟩⟩
  · cases zs with
    | nil => simpa [eq_comm] using hz
    | cons z zs =>
      obtain ⟨rfl, rfl⟩ := List.cons.inj hz
      exact Or.inr ⟨zs, Or.inr ⟨rfl, rfl⟩⟩

/-- A joined text has the parts of another one, or it splits the same text elsewhere. -/
theorem join_eq_iff {sep : Char} {t a b c d : String} (ht : t.toList = [sep]) :
    a ++ t ++ b = c ++ t ++ d ↔ (a = c ∧ b = d) ∨ Shifted t a b c d := by
  constructor
  · intro h
    have hlist := congrArg String.toList h
    simp only [String.toList_append, ht, List.append_assoc, List.singleton_append] at hlist
    rcases eq_or_shifted_of_append hlist with ⟨hac, hbd⟩ | ⟨w, hw⟩
    · exact Or.inl ⟨String.toList_injective hac, String.toList_injective hbd⟩
    · refine Or.inr ⟨String.ofList w, ?_⟩
      rcases hw with ⟨hc, hb⟩ | ⟨ha, hd⟩
      · refine Or.inl ⟨String.toList_injective ?_, String.toList_injective ?_⟩
        · simpa [String.toList_append, ht] using hc
        · simpa [String.toList_append, ht] using hb
      · refine Or.inr ⟨String.toList_injective ?_, String.toList_injective ?_⟩
        · simpa [String.toList_append, ht] using ha
        · simpa [String.toList_append, ht] using hd
  · rintro (⟨rfl, rfl⟩ | ⟨w, ⟨rfl, rfl⟩ | ⟨rfl, rfl⟩⟩)
    · rfl
    · simp only [String.append_assoc]
    · simp only [String.append_assoc]

/-- The parts of shifted texts differ. -/
theorem Shifted.ne {sep : Char} {t a b c d : String} (ht : t.toList = [sep])
    (h : Shifted t a b c d) : a ≠ c := by
  rintro rfl
  obtain ⟨w, ⟨h, -⟩ | ⟨h, -⟩⟩ := h <;>
  · have hlength := congrArg (fun s => s.toList.length) h
    simp [String.toList_append, ht] at hlength

/-- The parts of joined texts can be told from the joined texts unless they are shifted. -/
theorem join_inj_iff {sep : Char} {t a b c d : String} (ht : t.toList = [sep]) :
    (a ++ t ++ b = c ++ t ++ d → a = c ∧ b = d) ↔ ¬Shifted t a b c d := by
  rw [join_eq_iff ht]
  constructor
  · intro h hshifted
    exact hshifted.ne ht (h (Or.inr hshifted)).1
  · rintro hnot (hsame | hshifted)
    · exact hsame
    · exact absurd hshifted hnot

/-- Where the first parts are free of the separator nothing is shifted. -/
theorem not_shifted_of_free {sep : Char} {t a b c d : String} (ht : t.toList = [sep])
    (ha : Free sep a) (hc : Free sep c) : ¬Shifted t a b c d := by
  rintro ⟨w, ⟨rfl, -⟩ | ⟨rfl, -⟩⟩
  · apply hc
    simp [String.toList_append, ht]
  · apply ha
    simp [String.toList_append, ht]

theorem append_assoc₃ (a b c d : String) : a ++ b ++ c ++ d = a ++ (b ++ c ++ d) := by
  rw [String.append_assoc, String.append_assoc, String.append_assoc]

/-- The parts after a common beginning are the same. -/
theorem append_left_inj {p a b : String} (h : p ++ a = p ++ b) : a = b := by
  apply String.toList_injective
  have hlist := congrArg String.toList h
  simpa only [String.toList_append, List.append_cancel_left_eq] using hlist

/-- The parts before a common ending are the same. -/
theorem append_right_inj {p a b : String} (h : a ++ p = b ++ p) : a = b := by
  apply String.toList_injective
  have hlist := congrArg String.toList h
  simpa only [String.toList_append, List.append_cancel_right_eq] using hlist

/-- Texts whose beginnings differ within the length of both are different. -/
theorem ne_of_take_ne {p q a b : String}
    (h : p.toList.take (min p.length q.length) ≠ q.toList.take (min p.length q.length)) :
    p ++ a ≠ q ++ b := by
  intro heq
  apply h
  have hlist := congrArg (fun s => s.toList.take (min p.length q.length)) heq
  simpa only [String.toList_append, List.take_append_of_le_length, min_le_left, min_le_right,
    String.length_toList] using hlist

private theorem free_repr {sep : Char} (hsep : sep.isDigit = false) (n : ℕ) :
    Free sep n.repr := by
  intro hmem
  rw [Nat.toList_repr] at hmem
  rw [Nat.isDigit_of_mem_toDigits (by decide) (by decide) hmem] at hsep
  contradiction

/-- A printed integer consists of digits, possibly after a minus sign. -/
theorem free_toString {sep : Char} (hsep : sep.isDigit = false) (hminus : sep ≠ '-') (n : ℤ) :
    Free sep (toString n) := by
  cases n with
  | ofNat n => exact free_repr hsep n
  | negSucc n =>
    intro hmem
    have htext : (toString (Int.negSucc n)).toList = '-' :: (n + 1).repr.toList := by
      show ("-" ++ (n + 1).repr).toList = _
      simp
    rw [htext, List.mem_cons] at hmem
    rcases hmem with hmem | hmem
    · exact hminus hmem
    · exact free_repr hsep _ hmem

end Text
