import Mathlib.Data.Nat.Notation

/-!
# Code units of a text

JavaScript indexes a text by its UTF-16 code units: a character beyond the basic plane takes two.
-/

namespace Text

/-- The code units of a character. -/
def charCodes (c : Char) : List ℕ :=
  if c.toNat < 0x10000 then [c.toNat]
  else [0xD800 + (c.toNat - 0x10000) / 0x400, 0xDC00 + (c.toNat - 0x10000) % 0x400]

/-- What `charCodeAt` gives along a text. -/
def codeUnits (s : String) : List ℕ := s.toList.flatMap charCodes

end Text
