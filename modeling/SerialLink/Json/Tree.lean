import SerialLink.Json.Value

/-!
# SerialLink.Json.Tree

What a JSON text says before any of it is understood.  A tree keeps the numerals
digit by digit and the strings escape by escape, and the members of its objects
as they stand, repeated names included.  The grammar alone decides which texts
have a tree; only what is then made of it can fail for other reasons:

1. a string whose escapes do not pair up to characters has no text;
2. a numeral beyond the range of floats has no value;
3. a tree that nests too deeply has no value.
-/

namespace SerialLink.Json

/-- A piece of a string: a character, or the 16-bit unit of a numeric escape. -/
inductive Piece where
  | char (c : Char)
  | unit (n : Nat)
  deriving DecidableEq, Repr

/-- A numeral: its sign and its digits before the point, behind the point and in the
exponent, which may have a minus sign of its own. -/
structure Numeral where
  negative : Bool
  whole : List Nat
  fraction : List Nat
  exponent : Option (Bool × List Nat)
  deriving DecidableEq, Repr

/-- What a JSON text says. -/
inductive Tree where
  | null
  | bool (b : Bool)
  | number (n : Numeral)
  | string (pieces : List Piece)
  | array (elements : List Tree)
  | object (members : List (List Piece × Tree))
  deriving Inhabited

/-! ## strings -/

/-- The unit is the first half of a pair. -/
def isHighHalf (n : Nat) : Bool := 0xd800 ≤ n && n < 0xdc00

/-- The unit is the second half of a pair. -/
def isLowHalf (n : Nat) : Bool := 0xdc00 ≤ n && n < 0xe000

/-- The text of a string.  A first half must be followed by a second half, and the two
are one character; a second half on its own is none. -/
def text? : List Piece → Option (List Char)
  | [] => some []
  | .char c :: ps => (text? ps).map (c :: ·)
  | .unit n :: ps =>
    if isHighHalf n then
      match ps with
      | .unit m :: rest =>
        if isLowHalf m then
          (text? rest).map (Char.ofNat (0x10000 + (n - 0xd800) * 0x400 + (m - 0xdc00)) :: ·)
        else none
      | _ => none
    else if isLowHalf n then none
    else (text? ps).map (Char.ofNat n :: ·)

/-! ## numbers -/

/-- The number that digits stand for. -/
def natOfDigits (ds : List Nat) : Nat := ds.foldl (fun n d => 10 * n + d) 0

/-- The largest integer of 64 bits. -/
def maxUnsigned : Nat := UInt64.size - 1

/-- The digits before the point as a number of 64 bits: leading digits as far as they
fit, and how many are left out. -/
def leadingWhole (n : Nat) : List Nat → Nat × Nat
  | [] => (n, 0)
  | d :: ds =>
    if 10 * n + d ≤ maxUnsigned then leadingWhole (10 * n + d) ds else (n, ds.length + 1)

/-- The digits behind the point joined to the number `n` as far as they fit, and how
many were joined. -/
def leadingFraction (n : Nat) : List Nat → Nat × Nat
  | [] => (n, 0)
  | d :: ds =>
    if 10 * n + d ≤ maxUnsigned then
      let (m, k) := leadingFraction (10 * n + d) ds
      (m, k + 1)
    else (n, 0)

/-- A power of ten, as near as a float comes to it. -/
def powerOfTen (n : Nat) : Float := Float.ofScientific 1 false n

/-- `x` divided by `10 ^ n`, the largest power that is a float at a time. -/
def divPowerOfTen (x : Float) (n : Nat) : (fuel : Nat) → Float
  | 0 => x
  | fuel + 1 =>
    if n ≤ 308 then x / powerOfTen n else divPowerOfTen (x / powerOfTen 308) (n - 308) fuel

/-- `n · 10 ^ e` as a float: one multiplication, or divisions.  There is none beyond the
range of floats.  Three divisions leave nothing of a number of 64 bits. -/
def scaledFloat? (n : Nat) (e : Int) : Option Float :=
  let x := Float.ofNat n
  if e < 0 then
    if e < -1000 then some 0.0 else some (divPowerOfTen x (-e).toNat 4)
  else if n = 0 then some x
  else if 308 < e then none
  else
    let y := x * powerOfTen e.toNat
    if y.isFinite then some y else none

/-- The numeral has neither fraction nor exponent. -/
def Numeral.isWhole (n : Numeral) : Bool := n.fraction.isEmpty && n.exponent.isNone

/-- The value of a numeral as a float. -/
def Numeral.float? (n : Numeral) : Option Float :=
  let (m, dropped) := leadingWhole 0 n.whole
  let (m, joined) := leadingFraction m n.fraction
  let shift : Int := match n.exponent with
    | none => 0
    | some (minus, ds) => if minus then -(natOfDigits ds : Int) else natOfDigits ds
  (scaledFloat? m (dropped - joined + shift)).map fun x => if n.negative then -x else x

/-- The value of a numeral: an integer if it is written as one and fits into 64 bits,
signed or unsigned; otherwise a float, and so is minus zero. -/
def Numeral.value? (n : Numeral) : Option Json :=
  let m := natOfDigits n.whole
  if n.isWhole && !n.negative && m ≤ maxUnsigned then some (.int m)
  else if n.isWhole && n.negative && 0 < m && m ≤ UInt64.size / 2 then some (.int (-m))
  else n.float?.map .float

/-- The value of a numeral that is an unsigned integer of 64 bits. -/
def Numeral.natural? (n : Numeral) : Option Nat :=
  match n.value? with
  | some (.int (.ofNat m)) => some m
  | _ => none

/-! ## values -/

/-- How deeply arrays and objects may nest. -/
def maxDepth : Nat := 127

mutual

/-- The value of a tree that nests at most `depth` deep. -/
def Tree.value? (depth : Nat) : Tree → Option Json
  | .null => some .null
  | .bool b => some (.bool b)
  | .number n => n.value?
  | .string ps => (text? ps).map fun cs => .str (String.ofList cs)
  | .array ts => match depth with
    | 0 => none
    | depth + 1 => (Tree.values? depth ts).map .arr
  | .object ms => match depth with
    | 0 => none
    | depth + 1 => (Tree.members? depth ms).map ofMembers

/-- The values of several trees. -/
def Tree.values? (depth : Nat) : List Tree → Option (List Json)
  | [] => some []
  | t :: ts => do
    let v ← Tree.value? depth t
    let vs ← Tree.values? depth ts
    return v :: vs

/-- The members of an object. -/
def Tree.members? (depth : Nat) : List (List Piece × Tree) → Option (List (String × Json))
  | [] => some []
  | (ps, t) :: ms => do
    let name ← text? ps
    let v ← Tree.value? depth t
    let rest ← Tree.members? depth ms
    return (String.ofList name, v) :: rest

end

end SerialLink.Json
