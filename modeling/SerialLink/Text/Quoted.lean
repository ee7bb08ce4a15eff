import SerialLink.Bytes
import SerialLink.Decimal.Layout
import SerialLink.Text.Visible

/-!
# SerialLink.Text.Quoted

Payloads and names in diagnostics: quoted, with escapes for what would not be
visible or would end the quotation.
-/

namespace SerialLink.Text

open SerialLink

/-- The letter that stands behind a backslash for a common control character, a
quotation mark or a backslash. -/
def escapeLetter? (n : Nat) : Option Char :=
  if n = 0x00 then some '0'
  else if n = 0x09 then some 't'
  else if n = 0x0a then some 'n'
  else if n = 0x0d then some 'r'
  else if n = 0x22 then some '"'
  else if n = 0x5c then some '\\'
  else none

/-- The two lower-case hexadecimal digits of a byte. -/
def hexByte (b : UInt8) : List Char :=
  [Nat.digitChar (b.toNat / 16), Nat.digitChar (b.toNat % 16)]

/-- A byte in a quoted payload: visible characters stand for themselves, other bytes
are given by two hexadecimal digits. -/
def escapedByte (b : UInt8) : List Char :=
  match escapeLetter? b.toNat with
  | some c => ['\\', c]
  | none =>
    if 0x20 ≤ b.toNat && b.toNat < 0x7f then [Char.ofNat b.toNat]
    else '\\' :: 'x' :: hexByte b

/-- A payload in quotation marks. -/
def quotedBytes (bs : Bytes) : List Char := 'b' :: '"' :: bs.flatMap escapedByte ++ ['"']

/-- A character in a quoted name: what is not shown as itself is given by its code point. -/
def escapedChar (c : Char) : List Char :=
  match escapeLetter? c.toNat with
  | some l => ['\\', l]
  | none =>
    if isVisible c then [c]
    else '\\' :: 'u' :: '\x7b' :: Nat.toDigits 16 c.toNat ++ ['\x7d']

/-- A name in quotation marks. -/
def quotedName (s : String) : List Char := '"' :: s.toList.flatMap escapedChar ++ ['"']

end SerialLink.Text
