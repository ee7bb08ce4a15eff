import SerialLink.Bytes

/-!
# SerialLink.Text.Blank

Blank characters: those with the Unicode property White_Space.  There are
twenty-five of them, in ten ranges.  They are what surrounds a text without
belonging to it.
-/

namespace SerialLink.Text

open SerialLink

/-- The ranges of the property White_Space, as code points, both ends included. -/
def blankRanges : List (Nat × Nat) :=
  [(0x09, 0x0d), (0x20, 0x20), (0x85, 0x85), (0xa0, 0xa0), (0x1680, 0x1680),
   (0x2000, 0x200a), (0x2028, 0x2029), (0x202f, 0x202f), (0x205f, 0x205f), (0x3000, 0x3000)]

/-- Whether a character is blank. -/
def isBlank (c : Char) : Bool :=
  blankRanges.any fun r => r.1 ≤ c.toNat && c.toNat ≤ r.2

/-- A text without the blank characters around it. -/
def trim (cs : List Char) : List Char := trimEnds isBlank cs

/-- What core calls white space is blank. -/
theorem isBlank_of_isWhitespace {c : Char} (h : c.isWhitespace) : isBlank c := by
  simp only [Char.isWhitespace, Bool.or_eq_true, decide_eq_true_eq] at h
  rcases h with ((rfl | rfl) | rfl) | rfl <;> decide

end SerialLink.Text
