import Yevow.Core.JavaScript.Runtime

/-!
# Unchecked values

What a request body may hold where the program expects text or a number, and the checks
programs make before they use it.
-/

namespace JavaScript

/-- A value of unknown type. -/
inductive Value
  | undefined
  | null
  | boolean (b : Bool)
  | number (n : Number)
  | string (s : String)
  | object
  deriving DecidableEq

/-- White space and line terminators, as `String.prototype.trim` strips them. -/
def isSpace (c : Char) : Bool :=
  let n := c.toNat
  (9 ≤ n && n ≤ 13) || n = 0x20 || n = 0xA0 || n = 0x1680 || (0x2000 ≤ n && n ≤ 0x200A) ||
    n = 0x2028 || n = 0x2029 || n = 0x202F || n = 0x205F || n = 0x3000 || n = 0xFEFF

/-- `String.prototype.trim`. -/
def trim (s : String) : String :=
  String.ofList ((s.toList.dropWhile isSpace).reverse.dropWhile isSpace).reverse

private theorem charToLower_idem (c : Char) : c.toLower.toLower = c.toLower := by
  unfold Char.toLower
  split_ifs with h hagain
  · exfalso
    simp only [UInt32.le_iff_toNat_le, ge_iff_le] at h hagain
    simp at h hagain
    omega
  · rfl
  · rfl

/-- Lowering a text twice is lowering it once. -/
theorem toLower_toLower (s : String) : s.toLower.toLower = s.toLower := by
  show (s.map Char.toLower).map Char.toLower = s.map Char.toLower
  rw [String.map_map]
  congr 1
  funext c
  exact charToLower_idem c

/-- The text ends with a character that is no space. -/
def EndsPlain (s : String) : Prop := ∃ cs c, s.toList = cs ++ [c] ∧ isSpace c = false

/-- A text that is not blank ends with no space once it is trimmed. -/
theorem endsPlain_trim {s : String} (h : trim s ≠ "") : EndsPlain (trim s) := by
  have htrim : (trim s).toList = ((s.toList.dropWhile isSpace).reverse.dropWhile isSpace).reverse :=
    String.toList_ofList
  cases hcs : (s.toList.dropWhile isSpace).reverse.dropWhile isSpace with
  | nil =>
    rw [hcs] at htrim
    exact absurd (String.toList_injective htrim) h
  | cons c cs =>
    refine ⟨cs.reverse, c, by rw [htrim, hcs, List.reverse_cons], ?_⟩
    have hne : (s.toList.dropWhile isSpace).reverse.dropWhile isSpace ≠ [] := by
      rw [hcs]
      exact List.cons_ne_nil c cs
    have hhead := List.head_dropWhile_not isSpace hne
    simpa only [hcs, List.head_cons, Bool.not_eq_true] using hhead

theorem EndsPlain.append {s : String} (h : EndsPlain s) (p : String) : EndsPlain (p ++ s) := by
  obtain ⟨cs, c, hs, hc⟩ := h
  exact ⟨p.toList ++ cs, c, by rw [String.toList_append, hs, List.append_assoc], hc⟩

/-- Trimming leaves a text without spaces at its ends as it is. -/
theorem trim_eq_self {s : String} {c : Char} {cs : List Char} (hs : s.toList = c :: cs)
    (hc : isSpace c = false) (hend : EndsPlain s) : trim s = s := by
  obtain ⟨ds, d, hd, hplain⟩ := hend
  apply String.toList_injective
  show (String.ofList _).toList = _
  rw [String.toList_ofList, hs, List.dropWhile_cons_of_neg (by simp [hc]), ← hs, hd,
    List.reverse_append, List.reverse_singleton, List.singleton_append,
    List.dropWhile_cons_of_neg (by simp [hplain]), List.reverse_cons, List.reverse_reverse]

/-- Trimming twice is trimming once. -/
theorem trim_trim (s : String) : trim (trim s) = trim s := by
  by_cases hblank : trim s = ""
  · rw [hblank]
    rfl
  obtain ⟨cs, c, hlist, hc⟩ := endsPlain_trim hblank
  cases hhead : (trim s).toList with
  | nil =>
    rw [hhead] at hlist
    simp at hlist
  | cons d ds =>
    refine trim_eq_self hhead ?_ ⟨cs, c, hlist, hc⟩
    have htrim : (trim s).toList =
        ((s.toList.dropWhile isSpace).reverse.dropWhile isSpace).reverse := String.toList_ofList
    -- what is cut off the end leaves a beginning of what was left at the front
    obtain ⟨tail, htail⟩ := List.dropWhile_suffix (l := (s.toList.dropWhile isSpace).reverse)
      isSpace
    have hfront : s.toList.dropWhile isSpace = (trim s).toList ++ tail.reverse := by
      rw [htrim, ← List.reverse_append, htail, List.reverse_reverse]
    rw [hhead, List.cons_append] at hfront
    have hne : s.toList.dropWhile isSpace ≠ [] := by simp [hfront]
    have hspace := List.head_dropWhile_not isSpace hne
    simpa only [hfront, List.head_cons, Bool.not_eq_true] using hspace

/-- The integer a safe-integer check accepts. -/
def safeInteger? (A : Arithmetic) : Number → Option ℤ
  | .finite q => if q.den = 1 ∧ A.isSafeInteger q.num = true then some q.num else none
  | _ => none

/-- A number read as a safe integer is one. -/
theorem isSafeInteger_of_safeInteger? {A : Arithmetic} {n : Number} {v : ℤ}
    (h : safeInteger? A n = some v) : A.isSafeInteger v = true := by
  cases n with
  | finite q =>
    simp only [safeInteger?] at h
    split_ifs at h with hq
    obtain rfl := Option.some.inj h
    exact hq.2
  | infinite negative => simp [safeInteger?] at h
  | nan => simp [safeInteger?] at h

/-- The names every object inherits a member under. -/
def inheritedMembers : List String :=
  ["constructor", "__defineGetter__", "__defineSetter__", "hasOwnProperty", "__lookupGetter__",
    "__lookupSetter__", "isPrototypeOf", "propertyIsEnumerable", "toString", "valueOf",
    "__proto__", "toLocaleString"]

end JavaScript
