import SerialLink.Bytes

/-!
# SerialLink.Text.Utf8

UTF-8, strictly and leniently.  Decoding splits a byte string into the pieces

1. one well-formed sequence, which stands for a character;
2. one ill-formed piece: the longest start of a well-formed sequence that the
   next byte does not continue, or a single byte that starts no sequence.

`decode?` accepts a byte string without ill-formed pieces.  `decodeLossy` puts
the replacement character where an ill-formed piece stood.
-/

namespace SerialLink.Text.Utf8

open SerialLink

/-- The bytes of a text. -/
def encode (cs : List Char) : Bytes := cs.flatMap String.utf8EncodeChar

/-- The bytes of a string. -/
def bytes (s : String) : Bytes := encode s.toList

/-! ## sequences -/

/-- What a first byte promises: the payload bits it carries itself, how many bytes
follow, and the range of the first of those. -/
structure Lead where
  bits : Nat
  more : Nat
  low : Nat
  high : Nat

/-- What the byte `b` promises as the first of a sequence, if it can be one. -/
def lead? (b : UInt8) : Option Lead :=
  let n := b.toNat
  if n < 0x80 then some ⟨n, 0, 0x80, 0xbf⟩
  else if n < 0xc2 then none
  else if n < 0xe0 then some ⟨n - 0xc0, 1, 0x80, 0xbf⟩
  else if n < 0xf0 then
    some ⟨n - 0xe0, 2, if n == 0xe0 then 0xa0 else 0x80, if n == 0xed then 0x9f else 0xbf⟩
  else if n < 0xf5 then
    some ⟨n - 0xf0, 3, if n == 0xf0 then 0x90 else 0x80, if n == 0xf4 then 0x8f else 0xbf⟩
  else none

/-- Reads the `more` bytes that continue a sequence, the first of them in the range
from `low` to `high`.  `bits` are the bits read before and `used` counts the bytes
read.  The answer is the code point, or none if a byte does not fit, with the
number of bytes read. -/
def continuation (bits used : Nat) (low high : Nat) : (more : Nat) → Bytes → Option Nat × Nat
  | 0, _ => (some bits, used)
  | _ + 1, [] => (none, used)
  | more + 1, b :: bs =>
    if low ≤ b.toNat && b.toNat ≤ high then
      continuation (bits * 64 + (b.toNat - 0x80)) (used + 1) 0x80 0xbf more bs
    else (none, used)

/-- The first piece of the byte string `b :: bs`: its character, or none if it is
ill-formed, with the number of bytes of `bs` that belong to it. -/
def piece (b : UInt8) (bs : Bytes) : Option Char × Nat :=
  match lead? b with
  | none => (none, 0)
  | some l =>
    let (code?, used) := continuation l.bits 0 l.low l.high l.more bs
    (code?.map Char.ofNat, used)

/-- The pieces of a byte string of which the first `skip` bytes are already read. -/
def piecesFrom (skip : Nat) : Bytes → List (Option Char)
  | [] => []
  | b :: bs =>
    match skip with
    | skip + 1 => piecesFrom skip bs
    | 0 => (piece b bs).1 :: piecesFrom (piece b bs).2 bs

/-- The pieces of a byte string, none for each ill-formed one. -/
def pieces (bs : Bytes) : List (Option Char) := piecesFrom 0 bs

/-! ## decoding -/

/-- Stands for what could not be decoded. -/
def replacement : Char := '\uFFFD'

/-- The text of a byte string that is well-formed throughout. -/
def decode? (bs : Bytes) : Option (List Char) := (pieces bs).mapM id

/-- The text of a byte string, with the replacement character for each ill-formed piece. -/
def decodeLossy (bs : Bytes) : List Char := (pieces bs).map (·.getD replacement)

end SerialLink.Text.Utf8
