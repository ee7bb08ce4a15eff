import SerialLink.Decimal.Layout
import SerialLink.Json.Value

/-!
# SerialLink.Json.Printer

The text of a JSON value, in two forms: `Json.compact` on one line without any
blank, and `Json.pretty` with one element or member to a line, indented by two
spaces a level.

In a string only the quotation mark, the backslash and the characters below the
space are escaped: five of those by a letter, the others by four digits.
-/

namespace SerialLink.Json

open Decimal

/-! ## strings and numbers -/

/-- The lower-case digit of a number below sixteen. -/
def hexDigit (n : Nat) : Char := Nat.digitChar n

/-- A character as it stands in a string. -/
def escaped (c : Char) : List Char :=
  if c = '"' then ['\\', '"']
  else if c = '\\' then ['\\', '\\']
  else if c = '\x08' then ['\\', 'b']
  else if c = '\t' then ['\\', 't']
  else if c = '\n' then ['\\', 'n']
  else if c = '\x0c' then ['\\', 'f']
  else if c = '\r' then ['\\', 'r']
  else if c.toNat < 0x20 then
    ['\\', 'u', '0', '0', hexDigit (c.toNat / 16), hexDigit (c.toNat % 16)]
  else [c]

/-- A text as a string in quotation marks. -/
def quoted (s : String) : List Char := '"' :: s.toList.flatMap escaped ++ ['"']

/-- Numbers are positional from `1e-5` to below `1e16`, with a fraction; outside they
have an exponent with its sign. -/
def numberLayout : Layout where
  positionalFrom := some (-5)
  positionalBelow := some 16
  fractionBelow := 16
  signedExponent := true
  nan := "null"
  infinity := "null"
  tie := .even

/-- The text of a value without parts. -/
def leafText : Json → List Char
  | .null => "null".toList
  | .bool true => "true".toList
  | .bool false => "false".toList
  | .int n => intText n
  | .float x => numberLayout.chars x
  | .str s => quoted s
  | .arr _ => ['[', ']']
  | .obj _ => ['\x7b', '\x7d']

/-! ## one line -/

mutual

/-- The text of a value on one line. -/
def compact : Json → List Char
  | .arr elements => '[' :: compactElements elements ++ [']']
  | .obj members => '\x7b' :: compactMembers members ++ ['\x7d']
  | leaf => leafText leaf

/-- The texts of the elements of an array, with commas between them. -/
def compactElements : List Json → List Char
  | [] => []
  | [v] => compact v
  | v :: vs => compact v ++ ',' :: compactElements vs

/-- The texts of the members of an object, with commas between them. -/
def compactMembers : List (String × Json) → List Char
  | [] => []
  | [(name, v)] => quoted name ++ ':' :: compact v
  | (name, v) :: ms => quoted name ++ ':' :: compact v ++ ',' :: compactMembers ms

end

/-! ## indented -/

/-- A line break and the indentation of level `n`. -/
def newline (n : Nat) : List Char := '\n' :: List.replicate (2 * n) ' '

mutual

/-- The indented text of a value at level `n`. -/
def prettyAt (n : Nat) : Json → List Char
  | .arr [] => ['[', ']']
  | .arr (v :: vs) => '[' :: prettyElements (n + 1) (v :: vs) ++ newline n ++ [']']
  | .obj [] => ['\x7b', '\x7d']
  | .obj (m :: ms) => '\x7b' :: prettyMembers (n + 1) (m :: ms) ++ newline n ++ ['\x7d']
  | leaf => leafText leaf

/-- The elements of an array, each on a line at level `n`. -/
def prettyElements (n : Nat) : List Json → List Char
  | [] => []
  | [v] => newline n ++ prettyAt n v
  | v :: vs => newline n ++ prettyAt n v ++ ',' :: prettyElements n vs

/-- The members of an object, each on a line at level `n`. -/
def prettyMembers (n : Nat) : List (String × Json) → List Char
  | [] => []
  | [(name, v)] => newline n ++ quoted name ++ ':' :: ' ' :: prettyAt n v
  | (name, v) :: ms =>
    newline n ++ quoted name ++ ':' :: ' ' :: prettyAt n v ++ ',' :: prettyMembers n ms

end

/-- The indented text of a value. -/
def pretty (v : Json) : List Char := prettyAt 0 v

end SerialLink.Json
