/-!
# SerialLink.Bytes

Byte strings, and the two pieces of list surgery the whole library rests on:

* `trimEnds` strips from both ends of a list what satisfies a test;
* `firstAt?` finds the first place where one list occurs inside another.

Both work on any list, so that text (`List Char`) and payloads (`Bytes`) are
trimmed and searched by the same definitions.
-/

namespace SerialLink

/-- A payload, a delimiter, a chunk of input: any string of bytes. -/
abbrev Bytes := List UInt8

/-! ## trimming -/

variable {α : Type}

/-- The list without the elements at its front and at its back that satisfy `p`. -/
def trimEnds (p : α → Bool) (xs : List α) : List α :=
  ((xs.dropWhile p).reverse.dropWhile p).reverse

/-- The five blank bytes: space, tab, line feed, form feed and carriage return. -/
def isBlankByte (b : UInt8) : Bool :=
  b == 0x20 || b == 0x09 || b == 0x0a || b == 0x0c || b == 0x0d

/-- A payload without the blank bytes around it. -/
def trimBlankBytes (bs : Bytes) : Bytes := trimEnds isBlankByte bs

/-! ## occurrences -/

/-- `d` stands in `xs` at index `i`. -/
def OccursAt (d xs : List α) (i : Nat) : Prop := d <+: xs.drop i

variable [BEq α]

/-- The first index, counted from `i` at the front of the list, where `d` occurs. -/
def firstAtFrom? (d : List α) (i : Nat) : List α → Option Nat
  | [] => if d.isPrefixOf [] then some i else none
  | x :: xs => if d.isPrefixOf (x :: xs) then some i else firstAtFrom? d (i + 1) xs

/-- The first index at which `d` occurs in `xs`. -/
def firstAt? (d xs : List α) : Option Nat := firstAtFrom? d 0 xs

end SerialLink
