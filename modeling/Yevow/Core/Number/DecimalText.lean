import Mathlib.Algebra.Order.Field.Basic
import Mathlib.Data.List.DropRight
import Mathlib.Data.Rat.Cast.Order
import Mathlib.Tactic.FieldSimp
import Mathlib.Tactic.Positivity
import Mathlib.Tactic.Ring

/-!
# Texts of decimal numbers

A decimal is written with a fixed number of decimals, or with one digit in front of the point and
an exponent. Zeros that are dropped at the end of the decimals leave the number as it is; dropped
at the end of an exponent they do not.
-/

namespace DecimalText

/-- The number that digits make up. -/
def digitsValue (digits : List Char) : ℕ := Nat.ofDigitChars 10 digits 0

/-- The digits of a number, filled up with zeros. -/
def padded (width n : ℕ) : List Char :=
  List.replicate (width - (Nat.toDigits 10 n).length) '0' ++ Nat.toDigits 10 n

/-- `n / 10 ^ digits` with that many decimals. -/
def plain (digits n : ℕ) : List Char :=
  if digits = 0 then Nat.toDigits 10 n
  else Nat.toDigits 10 (n / 10 ^ digits) ++ '.' :: padded digits (n % 10 ^ digits)

/-- A point behind the first digit, if there are more. -/
def mantissa : List Char → List Char
  | first :: second :: rest => first :: '.' :: second :: rest
  | digits => digits

/-- The digits up to the last that is not zero. -/
def significant (digits : List Char) : List Char := digits.rdropWhile (· = '0')

/-- `n / 10 ^ digits`, if it is at least one, with an exponent. -/
def exponential (digits n : ℕ) : List Char :=
  mantissa (significant (Nat.toDigits 10 n)) ++
    'e' :: '+' :: Nat.toDigits 10 ((Nat.toDigits 10 n).length - 1 - digits)

/-- The number that digits with a point among them denote. -/
def unsigned (text : List Char) : Option ℚ :=
  let whole := text.takeWhile Char.isDigit
  match text.dropWhile Char.isDigit with
  | [] => if whole = [] then none else some (digitsValue whole)
  | point :: decimals =>
    if point = '.' ∧ whole ≠ [] ∧ decimals ≠ [] ∧ decimals.all Char.isDigit then
      some (digitsValue (whole ++ decimals) / 10 ^ decimals.length)
    else none

/-- The number that a text with or without an exponent denotes. -/
def value (text : List Char) : Option ℚ :=
  match text.dropWhile (· ≠ 'e') with
  | [] => unsigned text
  | _ :: sign :: exponent =>
    if sign = '+' ∧ exponent ≠ [] ∧ exponent.all Char.isDigit then
      (unsigned (text.takeWhile (· ≠ 'e'))).map (· * 10 ^ digitsValue exponent)
    else none
  | _ => none

/-- `text.replace(/\.?0+$/, "")`. -/
def withoutTrailingZeros (text : List Char) : List Char :=
  let kept := significant text
  if kept.length = text.length then text
  else if kept.getLast? = some '.' then kept.dropLast
  else kept

/-! ## Digits -/

/-- A text of nothing but digits, and at least one. -/
structure Digits (text : List Char) : Prop where
  ne_nil : text ≠ []
  all : ∀ c ∈ text, c.isDigit

theorem digits_toDigits (n : ℕ) : Digits (Nat.toDigits 10 n) where
  ne_nil := Nat.toDigits_ne_nil
  all _ hc := Nat.isDigit_of_mem_toDigits (by decide) (by decide) hc

theorem digits_padded (width n : ℕ) : Digits (padded width n) where
  ne_nil h := Nat.toDigits_ne_nil (List.append_eq_nil_iff.mp h).2
  all c hc := by
    rcases List.mem_append.mp hc with hc | hc
    · rw [List.eq_of_mem_replicate hc]
      decide
    · exact (digits_toDigits n).all c hc

theorem lt_pow_length_toDigits (n : ℕ) : n < 10 ^ (Nat.toDigits 10 n).length :=
  (Nat.length_toDigits_le_iff (by decide) (List.length_pos_iff.mpr Nat.toDigits_ne_nil)).mp le_rfl

theorem pow_length_toDigits_le {n : ℕ} (hn : 0 < n) :
    10 ^ ((Nat.toDigits 10 n).length - 1) ≤ n := by
  by_contra hlt
  have hpos : 0 < (Nat.toDigits 10 n).length := List.length_pos_iff.mpr Nat.toDigits_ne_nil
  rcases Nat.eq_zero_or_pos ((Nat.toDigits 10 n).length - 1) with hzero | hmany
  · rw [hzero] at hlt
    omega
  · have hle := (Nat.length_toDigits_le_iff (by decide) hmany).mpr (not_le.mp hlt)
    omega

/-- A number is read back from its digits. -/
@[simp] theorem digitsValue_toDigits (n : ℕ) : digitsValue (Nat.toDigits 10 n) = n :=
  Nat.ofDigitChars_ten_toDigits

/-- The first digits count by the length of the others. -/
theorem digitsValue_append (first second : List Char) :
    digitsValue (first ++ second) =
      10 ^ second.length * digitsValue first + digitsValue second := by
  rw [digitsValue, Nat.ofDigitChars_append, Nat.ofDigitChars_eq_ofDigitChars_zero]
  rfl

theorem digitsValue_zeros (count : ℕ) : digitsValue (List.replicate count '0') = 0 := by
  rw [digitsValue, Nat.ofDigitChars_replicate_zero, Nat.mul_zero]

theorem digitsValue_padded (width n : ℕ) : digitsValue (padded width n) = n := by
  rw [padded, digitsValue_append, digitsValue_zeros, digitsValue_toDigits]
  omega

/-- A number that fits is padded to the width. -/
theorem length_padded {width n : ℕ} (hwidth : 0 < width) (h : n < 10 ^ width) :
    (padded width n).length = width := by
  have hle := (Nat.length_toDigits_le_iff (by decide : 1 < 10) hwidth).mpr h
  rw [padded, List.length_append, List.length_replicate]
  omega

/-- What is dropped are zeros. -/
theorem exists_zeros (digits : List Char) :
    ∃ count, digits = significant digits ++ List.replicate count '0' := by
  refine ⟨(digits.rtakeWhile (· = '0')).length, ?_⟩
  have hzeros : digits.rtakeWhile (· = '0') =
      List.replicate (digits.rtakeWhile (· = '0')).length '0' := by
    rw [List.eq_replicate_length]
    intro c hc
    have hzero := List.mem_rtakeWhile_imp hc
    exact of_decide_eq_true hzero
  rw [← hzeros]
  exact List.rdropWhile_append_rtakeWhile.symm

/-- A character that is not zero stops the dropping. -/
theorem significant_append {before digits : List Char} {c : Char} (hc : c ≠ '0') :
    significant (before ++ c :: digits) = before ++ c :: significant digits := by
  induction digits using List.reverseRecOn with
  | nil =>
    rw [significant, List.rdropWhile_concat_neg _ _ _ (by simpa using hc)]
    rfl
  | append_singleton digits d ih =>
    rw [significant, significant, ← List.cons_append, ← List.append_assoc]
    by_cases hd : d = '0'
    · rw [List.rdropWhile_concat_pos _ _ _ (by simpa using hd),
        List.rdropWhile_concat_pos _ _ _ (by simpa using hd)]
      exact ih
    · rw [List.rdropWhile_concat_neg _ _ _ (by simpa using hd),
        List.rdropWhile_concat_neg _ _ _ (by simpa using hd), List.append_assoc, List.cons_append]

theorem ne_zero_of_mem_getLast? {digits : List Char} {c : Char}
    (h : (significant digits).getLast? = some c) : c ≠ '0' := by
  have hne : significant digits ≠ [] := by
    intro hnil
    rw [hnil] at h
    exact nomatch h
  have hlast := List.rdropWhile_last_not (· = '0') digits hne
  rw [List.getLast?_eq_some_getLast hne] at h
  rw [← Option.some.inj h]
  exact fun hzero => hlast (decide_eq_true hzero)

theorem significant_ne_nil {digits : List Char} (h : digitsValue digits ≠ 0) :
    significant digits ≠ [] := by
  intro hnil
  obtain ⟨count, hcount⟩ := exists_zeros digits
  rw [hnil, List.nil_append] at hcount
  rw [hcount, digitsValue_zeros] at h
  exact h rfl

/-- The trailing zeros count as a power of ten. -/
theorem digitsValue_significant {digits : List Char} :
    digitsValue digits =
      10 ^ (digits.length - (significant digits).length) * digitsValue (significant digits) := by
  obtain ⟨count, hcount⟩ := exists_zeros digits
  have hlength := congrArg List.length hcount
  rw [List.length_append, List.length_replicate] at hlength
  conv_lhs => rw [hcount]
  rw [digitsValue_append, digitsValue_zeros, List.length_replicate, Nat.add_zero, hlength,
    Nat.add_sub_cancel_left]

theorem mem_of_mem_significant {digits : List Char} {c : Char} (h : c ∈ significant digits) :
    c ∈ digits := (List.rdropWhile_prefix _ _).subset h

/-! ## Denoted numbers -/

/-- Digits alone are read as their number. -/
theorem unsigned_of_digits {digits : List Char} (h : Digits digits) :
    unsigned digits = some (digitsValue digits : ℚ) := by
  have htake : digits.takeWhile Char.isDigit = digits := List.takeWhile_eq_self_iff.mpr h.all
  have hdrop : digits.dropWhile Char.isDigit = [] := List.dropWhile_eq_nil_iff.mpr h.all
  rw [unsigned, hdrop, htake]
  exact if_neg h.ne_nil

/-- Digits around a point are read as a decimal fraction. -/
theorem unsigned_of_point {whole decimals : List Char} (hwhole : Digits whole)
    (hdecimals : Digits decimals) :
    unsigned (whole ++ '.' :: decimals) =
      some ((digitsValue (whole ++ decimals) : ℚ) / 10 ^ decimals.length) := by
  have hall : ∀ c ∈ whole, c.isDigit = true := hwhole.all
  have hpoint : ('.' :: decimals).takeWhile Char.isDigit = [] :=
    List.takeWhile_cons_of_neg (by decide)
  have htake : (whole ++ '.' :: decimals).takeWhile Char.isDigit = whole := by
    rw [List.takeWhile_append_of_pos hall, hpoint, List.append_nil]
  have hdrop : (whole ++ '.' :: decimals).dropWhile Char.isDigit = '.' :: decimals := by
    rw [List.dropWhile_append_of_pos hall, List.dropWhile_cons_of_neg (by decide)]
  rw [unsigned, hdrop, htake]
  have hform : '.' = '.' ∧ whole ≠ [] ∧ decimals ≠ [] ∧ decimals.all Char.isDigit = true :=
    ⟨rfl, hwhole.ne_nil, hdecimals.ne_nil, List.all_eq_true.mpr hdecimals.all⟩
  exact if_pos hform

theorem value_of_notMem {text : List Char} (h : 'e' ∉ text) : value text = unsigned text := by
  have hdrop : text.dropWhile (· ≠ 'e') = [] := by
    rw [List.dropWhile_eq_nil_iff]
    intro c hc
    have hne : c ≠ 'e' := fun heq => h (heq ▸ hc)
    simpa using hne
  rw [value, hdrop]

/-- An exponent scales the text before it. -/
theorem value_of_exponent {text exponent : List Char} (h : 'e' ∉ text)
    (hexponent : Digits exponent) :
    value (text ++ 'e' :: '+' :: exponent) =
      (unsigned text).map (· * 10 ^ digitsValue exponent) := by
  have hall : ∀ c ∈ text, decide (c ≠ 'e') = true := fun c hc =>
    decide_eq_true fun heq => h (heq ▸ hc)
  have hdrop : (text ++ 'e' :: '+' :: exponent).dropWhile (· ≠ 'e') = 'e' :: '+' :: exponent := by
    rw [List.dropWhile_append_of_pos hall, List.dropWhile_cons_of_neg (by simp)]
  have htake : (text ++ 'e' :: '+' :: exponent).takeWhile (· ≠ 'e') = text := by
    rw [List.takeWhile_append_of_pos hall, List.takeWhile_cons_of_neg (by simp), List.append_nil]
  rw [value, hdrop]
  dsimp only
  rw [if_pos ⟨rfl, hexponent.ne_nil, List.all_eq_true.mpr hexponent.all⟩, htake]

theorem Digits.notMem {digits : List Char} (h : Digits digits) {c : Char}
    (hc : c.isDigit = false) : c ∉ digits := by
  intro hmem
  rw [h.all c hmem] at hc
  exact nomatch hc

/-! ## Written numbers -/

theorem digitsValue_plain {digits n : ℕ} (hdigits : 0 < digits) :
    digitsValue (Nat.toDigits 10 (n / 10 ^ digits) ++ padded digits (n % 10 ^ digits)) = n := by
  have hmod : n % 10 ^ digits < 10 ^ digits := Nat.mod_lt _ (by positivity)
  rw [digitsValue_append, digitsValue_toDigits, digitsValue_padded, length_padded hdigits hmod]
  exact Nat.div_add_mod n (10 ^ digits)

/-- A whole number is read back from its digits. -/
theorem value_plain_zero (n : ℕ) : value (plain 0 n) = some (n : ℚ) := by
  have hdigits := digits_toDigits n
  rw [plain, if_pos rfl, value_of_notMem (hdigits.notMem (by decide)), unsigned_of_digits hdigits,
    digitsValue_toDigits]

/-- Without the zeros at its end a text with a point denotes the same number. -/
theorem unsigned_withoutTrailingZeros {whole decimals : List Char} (hwhole : Digits whole)
    (hdecimals : Digits decimals) :
    unsigned (withoutTrailingZeros (whole ++ '.' :: decimals)) =
      some ((digitsValue (whole ++ decimals) : ℚ) / 10 ^ decimals.length) := by
  have hsignificant :
    significant (whole ++ '.' :: decimals) = whole ++ '.' :: significant decimals :=
    significant_append (by decide)
  obtain ⟨count, hcount⟩ := exists_zeros decimals
  have hlength := congrArg List.length hcount
  rw [List.length_append, List.length_replicate] at hlength
  by_cases hnil : significant decimals = []
  · -- nothing but zeros behind the point, which goes with them
    have hpos : 0 < decimals.length := List.length_pos_iff.mpr hdecimals.ne_nil
    have hshorter : (significant (whole ++ '.' :: decimals)).length ≠
        (whole ++ '.' :: decimals).length := by
      rw [hsignificant, hnil]
      simp only [List.length_append, List.length_cons, List.length_nil]
      omega
    have hlast : (significant (whole ++ '.' :: decimals)).getLast? = some '.' := by
      rw [hsignificant, hnil, List.getLast?_concat]
    have hkept : withoutTrailingZeros (whole ++ '.' :: decimals) = whole := by
      rw [withoutTrailingZeros, if_neg hshorter, if_pos hlast, hsignificant, hnil,
        List.dropLast_concat]
    rw [hnil, List.nil_append] at hcount
    rw [hkept, unsigned_of_digits hwhole, hcount, digitsValue_append, digitsValue_zeros,
      List.length_replicate]
    have hpow : (10 : ℚ) ^ count ≠ 0 := by positivity
    rw [Nat.add_zero, Nat.cast_mul, Nat.cast_pow, Nat.cast_ofNat, mul_div_cancel_left₀ _ hpow]
  · have hkeptDigits : Digits (significant decimals) :=
      ⟨hnil, fun c hc => hdecimals.all c (mem_of_mem_significant hc)⟩
    have hkept : withoutTrailingZeros (whole ++ '.' :: decimals) =
        whole ++ '.' :: significant decimals := by
      rw [withoutTrailingZeros]
      split_ifs with hsame hpoint
      · rw [← hsignificant]
        exact ((List.rdropWhile_prefix _ _).eq_of_length hsame).symm
      · rw [hsignificant, List.getLast?_append_of_ne_nil _ (List.cons_ne_nil _ _),
          List.getLast?_cons_of_ne_nil hnil] at hpoint
        exact absurd (List.mem_of_getLast? hpoint) (hkeptDigits.notMem (by decide))
      · exact hsignificant
    have hvalue : digitsValue (whole ++ decimals) =
        10 ^ count * digitsValue (whole ++ significant decimals) := by
      conv_lhs => rw [hcount]
      rw [← List.append_assoc, digitsValue_append, digitsValue_zeros, List.length_replicate,
        Nat.add_zero]
    have hpow : (10 : ℚ) ^ count ≠ 0 := by positivity
    rw [hkept, unsigned_of_point hwhole hkeptDigits, hvalue, hlength, Nat.cast_mul, Nat.cast_pow,
      Nat.cast_ofNat, pow_add, mul_comm ((10 : ℚ) ^ _) (10 ^ count),
      mul_div_mul_left _ _ hpow]

theorem mem_of_mem_withoutTrailingZeros {text : List Char} {c : Char}
    (h : c ∈ withoutTrailingZeros text) : c ∈ text := by
  rw [withoutTrailingZeros] at h
  split_ifs at h
  · exact h
  · exact mem_of_mem_significant (List.mem_of_mem_dropLast h)
  · exact mem_of_mem_significant h

/-- Decimals without the zeros at their end denote the same number. -/
theorem value_withoutTrailingZeros_plain {digits : ℕ} (hdigits : 0 < digits) (n : ℕ) :
    value (withoutTrailingZeros (plain digits n)) = some ((n : ℚ) / 10 ^ digits) := by
  have hmod : n % 10 ^ digits < 10 ^ digits := Nat.mod_lt _ (by positivity)
  have hwhole := digits_toDigits (n / 10 ^ digits)
  have hdecimals := digits_padded digits (n % 10 ^ digits)
  have hplain : plain digits n =
      Nat.toDigits 10 (n / 10 ^ digits) ++ '.' :: padded digits (n % 10 ^ digits) :=
    if_neg hdigits.ne'
  have hnot : 'e' ∉ withoutTrailingZeros (plain digits n) := by
    intro hmem
    have hin := mem_of_mem_withoutTrailingZeros hmem
    rw [hplain, List.mem_append, List.mem_cons] at hin
    rcases hin with hin | hin | hin
    · exact hwhole.notMem (by decide) hin
    · exact absurd hin (by decide)
    · exact hdecimals.notMem (by decide) hin
  rw [value_of_notMem hnot, hplain, unsigned_withoutTrailingZeros hwhole hdecimals,
    digitsValue_plain hdigits, length_padded hdigits hmod]

/-- A mantissa has one digit before its point. -/
theorem unsigned_mantissa {digits : List Char} (h : Digits digits) :
    unsigned (mantissa digits) =
      some ((digitsValue digits : ℚ) / 10 ^ (digits.length - 1)) := by
  cases digits with
  | nil => exact absurd rfl h.ne_nil
  | cons first rest =>
    cases rest with
    | nil =>
      have hwritten : mantissa [first] = [first] := rfl
      rw [hwritten, unsigned_of_digits h, List.length_singleton, Nat.sub_self, pow_zero, div_one]
    | cons second rest =>
      have hfirst : Digits [first] := ⟨List.cons_ne_nil _ _, fun c hc =>
        h.all c (List.mem_cons.mpr (.inl (List.mem_singleton.mp hc)))⟩
      have hrest : Digits (second :: rest) :=
        ⟨List.cons_ne_nil _ _, fun c hc => h.all c (List.mem_cons_of_mem _ hc)⟩
      exact unsigned_of_point hfirst hrest

theorem mem_mantissa {digits : List Char} {c : Char} (h : c ∈ mantissa digits) :
    c ∈ digits ∨ c = '.' ∧ 1 < digits.length := by
  cases digits with
  | nil => exact .inl h
  | cons first rest =>
    cases rest with
    | nil => exact .inl h
    | cons second rest =>
      rcases List.mem_cons.mp h with rfl | hmem
      · exact .inl List.mem_cons_self
      · rcases List.mem_cons.mp hmem with rfl | hmem
        · exact .inr ⟨rfl, Nat.succ_lt_succ (Nat.succ_pos _)⟩
        · exact .inl (List.mem_cons_of_mem _ hmem)

theorem point_mem_mantissa {digits : List Char} (h : 1 < digits.length) :
    '.' ∈ mantissa digits := by
  cases digits with
  | nil => exact absurd h (by decide)
  | cons first rest =>
    cases rest with
    | nil => exact absurd h (by simp)
    | cons second rest => exact List.mem_cons_of_mem _ List.mem_cons_self

/-! ## Exponents -/

section Exponential

variable {digits n : ℕ}

theorem Digits.significant {text : List Char} (h : Digits text) (hvalue : digitsValue text ≠ 0) :
    Digits (significant text) where
  ne_nil := significant_ne_nil hvalue
  all c hc := h.all c (mem_of_mem_significant hc)

/-- The digits of a number end with zeros if ten divides it. -/
theorem digitsValue_significant_eq_iff (hn : 0 < n) :
    digitsValue (DecimalText.significant (Nat.toDigits 10 n)) = n ↔ ¬ 10 ∣ n := by
  constructor
  · rintro heq ⟨k, rfl⟩
    have hlast : Nat.toDigits 10 (10 * k) = Nat.toDigits 10 k ++ ['0'] := by
      rw [Nat.toDigits_of_base_le (by decide) (by omega), Nat.mul_div_cancel_left _ (by decide),
        Nat.mul_mod_right]
      rfl
    have hdropped : DecimalText.significant (Nat.toDigits 10 (10 * k)) =
        DecimalText.significant (Nat.toDigits 10 k) := by
      rw [hlast, DecimalText.significant, List.rdropWhile_concat_pos _ _ _ (by decide)]
      rfl
    have hk := @digitsValue_significant (Nat.toDigits 10 k)
    rw [digitsValue_toDigits, ← hdropped, heq] at hk
    have hle : 10 * k ≤ 10 ^ ((Nat.toDigits 10 k).length -
        (DecimalText.significant (Nat.toDigits 10 (10 * k))).length) * (10 * k) :=
      Nat.le_mul_of_pos_left _ (by positivity)
    omega
  · intro hten
    have hkept : DecimalText.significant (Nat.toDigits 10 n) = Nat.toDigits 10 n := by
      rw [DecimalText.significant]
      by_cases hsmall : n < 10
      · rw [Nat.toDigits_of_lt_base hsmall, List.rdropWhile_singleton, if_neg]
        simpa using hn.ne'
      · rw [Nat.toDigits_of_base_le (by decide) (by omega), List.rdropWhile_concat_neg]
        have hmod : n % 10 ≠ 0 := fun hzero => hten (Nat.dvd_of_mod_eq_zero hzero)
        simpa using hmod
    rw [hkept, digitsValue_toDigits]

/-- The mantissa of a number, times ten to its exponent. -/
theorem mantissa_mul_pow (hn : 0 < n) (hdigits : digits < (Nat.toDigits 10 n).length) :
    (digitsValue (DecimalText.significant (Nat.toDigits 10 n)) : ℚ) /
          10 ^ ((DecimalText.significant (Nat.toDigits 10 n)).length - 1) *
        10 ^ ((Nat.toDigits 10 n).length - 1 - digits) = n / 10 ^ digits := by
  have hvalue := @digitsValue_significant (Nat.toDigits 10 n)
  rw [digitsValue_toDigits] at hvalue
  have hne : DecimalText.significant (Nat.toDigits 10 n) ≠ [] :=
    significant_ne_nil (by rw [digitsValue_toDigits]; omega)
  have hpos : 0 < (DecimalText.significant (Nat.toDigits 10 n)).length :=
    List.length_pos_iff.mpr hne
  have hle : (DecimalText.significant (Nat.toDigits 10 n)).length ≤ (Nat.toDigits 10 n).length :=
    (List.rdropWhile_prefix _ _).length_le
  generalize (Nat.toDigits 10 n).length = count at *
  generalize (DecimalText.significant (Nat.toDigits 10 n)).length = kept at *
  generalize digitsValue (DecimalText.significant (Nat.toDigits 10 n)) = digitsNumber at *
  have hpow : (10 : ℚ) ^ (count - 1 - digits) * 10 ^ digits =
      10 ^ (count - kept) * 10 ^ (kept - 1) := by
    rw [← pow_add, ← pow_add]
    congr 1
    omega
  have hcast : (n : ℚ) = 10 ^ (count - kept) * digitsNumber := by
    rw [hvalue]
    push_cast
    ring
  rw [hcast, div_mul_eq_mul_div, div_eq_div_iff (by positivity) (by positivity)]
  calc (digitsNumber : ℚ) * 10 ^ (count - 1 - digits) * 10 ^ digits
      = digitsNumber * (10 ^ (count - 1 - digits) * 10 ^ digits) := by ring
    _ = 10 ^ (count - kept) * digitsNumber * 10 ^ (kept - 1) := by
      rw [hpow]
      ring

private theorem digits_significant (hn : 0 < n) :
    Digits (DecimalText.significant (Nat.toDigits 10 n)) :=
  (digits_toDigits n).significant (by rw [digitsValue_toDigits]; omega)

private theorem notMem_mantissa (hn : 0 < n) :
    'e' ∉ mantissa (DecimalText.significant (Nat.toDigits 10 n)) := by
  intro hmem
  rcases mem_mantissa hmem with hin | ⟨hpoint, -⟩
  · exact (digits_significant hn).notMem (by decide) hin
  · exact absurd hpoint (by decide)

/-- An exponential text denotes its number. -/
theorem value_exponential (hn : 0 < n) (hdigits : digits < (Nat.toDigits 10 n).length) :
    value (exponential digits n) = some ((n : ℚ) / 10 ^ digits) := by
  rw [exponential, value_of_exponent (notMem_mantissa hn) (digits_toDigits _),
    unsigned_mantissa (digits_significant hn), Option.map_some, digitsValue_toDigits,
    mantissa_mul_pow hn hdigits]

/-- Of an exponential text the zeros of the exponent go. -/
theorem withoutTrailingZeros_exponential
    (hdigits : digits + 1 < (Nat.toDigits 10 n).length) :
    withoutTrailingZeros (exponential digits n) =
      mantissa (DecimalText.significant (Nat.toDigits 10 n)) ++ 'e' :: '+' ::
        DecimalText.significant (Nat.toDigits 10 ((Nat.toDigits 10 n).length - 1 - digits)) := by
  have hne : DecimalText.significant
      (Nat.toDigits 10 ((Nat.toDigits 10 n).length - 1 - digits)) ≠ [] :=
    significant_ne_nil (by rw [digitsValue_toDigits]; omega)
  have hkept : DecimalText.significant (exponential digits n) =
      mantissa (DecimalText.significant (Nat.toDigits 10 n)) ++ 'e' :: '+' ::
        DecimalText.significant (Nat.toDigits 10 ((Nat.toDigits 10 n).length - 1 - digits)) := by
    rw [exponential, ← List.singleton_append, ← List.append_assoc,
      significant_append (by decide), List.append_assoc]
    rfl
  rw [withoutTrailingZeros]
  split_ifs with hsame hpoint
  · rw [← hkept]
    exact ((List.rdropWhile_prefix _ _).eq_of_length hsame).symm
  · rw [hkept, List.getLast?_append_of_ne_nil _ (List.cons_ne_nil _ _),
      List.getLast?_cons_of_ne_nil (List.cons_ne_nil _ _),
      List.getLast?_cons_of_ne_nil hne] at hpoint
    exact absurd (mem_of_mem_significant (List.mem_of_getLast? hpoint))
      ((digits_toDigits _).notMem (by decide))
  · exact hkept

/-- Without the zeros at its end an exponential text denotes its number unless the exponent is a
multiple of ten. -/
theorem value_withoutTrailingZeros_exponential_iff (hn : 0 < n)
    (hdigits : digits + 1 < (Nat.toDigits 10 n).length) :
    value (withoutTrailingZeros (exponential digits n)) = some ((n : ℚ) / 10 ^ digits) ↔
      ¬ 10 ∣ (Nat.toDigits 10 n).length - 1 - digits := by
  have hexponent : 0 < (Nat.toDigits 10 n).length - 1 - digits := by omega
  have hkept : Digits (DecimalText.significant
      (Nat.toDigits 10 ((Nat.toDigits 10 n).length - 1 - digits))) := digits_significant hexponent
  have hmantissa : (digitsValue (DecimalText.significant (Nat.toDigits 10 n)) : ℚ) /
      10 ^ ((DecimalText.significant (Nat.toDigits 10 n)).length - 1) ≠ 0 := by
    intro hzero
    have hwhole := mantissa_mul_pow hn (Nat.lt_of_succ_lt hdigits)
    rw [hzero, zero_mul] at hwhole
    have hpos : 0 < (n : ℚ) / 10 ^ digits := by positivity
    exact hpos.ne hwhole
  rw [withoutTrailingZeros_exponential hdigits, value_of_exponent (notMem_mantissa hn) hkept,
    unsigned_mantissa (digits_significant hn), Option.map_some, Option.some.injEq,
    ← mantissa_mul_pow hn (Nat.lt_of_succ_lt hdigits), mul_right_inj' hmantissa,
    pow_right_inj₀ (by norm_num) (by norm_num)]
  exact digitsValue_significant_eq_iff hexponent

/-- Without the zeros at its end an exponential text still denotes some number. -/
theorem isSome_value_withoutTrailingZeros_exponential (hn : 0 < n)
    (hdigits : digits + 1 < (Nat.toDigits 10 n).length) :
    (value (withoutTrailingZeros (exponential digits n))).isSome := by
  have hkept : Digits (DecimalText.significant
      (Nat.toDigits 10 ((Nat.toDigits 10 n).length - 1 - digits))) :=
    digits_significant (by omega)
  rw [withoutTrailingZeros_exponential hdigits, value_of_exponent (notMem_mantissa hn) hkept,
    unsigned_mantissa (digits_significant hn)]
  rfl

/-- A text with an exponent has a point unless it has one digit. -/
theorem point_mem_exponential_iff :
    '.' ∈ exponential digits n ↔
      1 < (DecimalText.significant (Nat.toDigits 10 n)).length := by
  constructor
  · intro hmem
    rcases List.mem_append.mp hmem with hin | hin
    · rcases mem_mantissa hin with hdigit | ⟨-, hlong⟩
      · exact absurd (mem_of_mem_significant hdigit) ((digits_toDigits n).notMem (by decide))
      · exact hlong
    · rcases List.mem_cons.mp hin with heq | hin
      · exact absurd heq (by decide)
      · rcases List.mem_cons.mp hin with heq | hin
        · exact absurd heq (by decide)
        · exact absurd hin ((digits_toDigits _).notMem (by decide))
  · intro hlong
    exact List.mem_append_left _ (point_mem_mantissa hlong)

/-- What is significant ends with another digit than zero. -/
theorem not_dvd_significant (hn : 0 < n) :
    ¬ 10 ∣ digitsValue (DecimalText.significant (Nat.toDigits 10 n)) := by
  have hdigits := digits_significant hn
  obtain ⟨before, last, hsplit⟩ : ∃ before last,
      DecimalText.significant (Nat.toDigits 10 n) = before ++ [last] :=
    ⟨_, _, (List.dropLast_append_getLast hdigits.ne_nil).symm⟩
  have hne : last ≠ '0' :=
    @ne_zero_of_mem_getLast? (Nat.toDigits 10 n) last (by rw [hsplit, List.getLast?_concat])
  have hdigit : last.isDigit = true := hdigits.all last (by rw [hsplit]; simp)
  have hvalue : digitsValue [last] = last.toNat - 48 := by
    rw [digitsValue, Nat.ofDigitChars_cons, Nat.ofDigitChars_nil, Nat.mul_zero, Nat.zero_add]
    rfl
  have hrange : 48 ≤ last.toNat ∧ last.toNat ≤ 57 := by
    simp only [Char.isDigit, Bool.and_eq_true, decide_eq_true_eq] at hdigit
    exact ⟨UInt32.le_iff_toNat_le.mp hdigit.1, UInt32.le_iff_toNat_le.mp hdigit.2⟩
  have hzero : last.toNat ≠ 48 := by
    intro heq
    exact hne (Char.toNat_inj.mp heq)
  rw [hsplit, digitsValue_append, hvalue, List.length_singleton, pow_one]
  omega

/-- One digit is significant just where the number is that digit and zeros. -/
theorem length_significant_le_one_iff (hn : 0 < n) :
    (DecimalText.significant (Nat.toDigits 10 n)).length ≤ 1 ↔
      ∃ digit : ℕ, n = digit * 10 ^ ((Nat.toDigits 10 n).length - 1) := by
  have hvalue := @digitsValue_significant (Nat.toDigits 10 n)
  rw [digitsValue_toDigits] at hvalue
  have hpos : 0 < (DecimalText.significant (Nat.toDigits 10 n)).length :=
    List.length_pos_iff.mpr (digits_significant hn).ne_nil
  have hle : (DecimalText.significant (Nat.toDigits 10 n)).length ≤ (Nat.toDigits 10 n).length :=
    (List.rdropWhile_prefix _ _).length_le
  have hlast := not_dvd_significant hn
  generalize (Nat.toDigits 10 n).length = count at *
  generalize (DecimalText.significant (Nat.toDigits 10 n)).length = kept at *
  generalize digitsValue (DecimalText.significant (Nat.toDigits 10 n)) = digitsNumber at *
  constructor
  · intro hone
    have hkept : kept = 1 := by omega
    subst hkept
    exact ⟨digitsNumber, by rw [hvalue, Nat.mul_comm]⟩
  · rintro ⟨digit, hdigit⟩
    by_contra hmany
    have hsplit : count - 1 = (count - kept) + (kept - 2 + 1) := by omega
    have hsame : 10 ^ (count - kept) * digitsNumber =
        10 ^ (count - kept) * (10 * (digit * 10 ^ (kept - 2))) := by
      rw [← hvalue, hdigit, hsplit, pow_add, pow_succ]
      ring
    exact hlast ⟨_, Nat.eq_of_mul_eq_mul_left (by positivity) hsame⟩

end Exponential

end DecimalText
