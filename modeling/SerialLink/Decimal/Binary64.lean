/-!
# SerialLink.Decimal.Binary64

A 64-bit float taken apart into exact integers.  A finite float is
`± mantissa · 2 ^ exponent`; whatever is asked of it afterwards (its nearest
integer, its digits) is answered in integer arithmetic.
-/

namespace SerialLink.Decimal

/-- What a 64-bit float stands for.  `narrow` marks a power of two whose neighbour
towards zero is only half as far as the other one. -/
inductive Binary64 where
  | nan
  | infinite (negative : Bool)
  | finite (negative : Bool) (mantissa : Nat) (exponent : Int) (narrow : Bool)
  deriving DecidableEq, Repr

/-- Takes a bit pattern apart: sign, eleven bits of exponent, fifty-two of fraction. -/
def Binary64.ofBits (bits : UInt64) : Binary64 :=
  let n := bits.toNat
  let negative := n.testBit 63
  let e : Nat := n >>> 52 &&& 0x7ff
  let f : Nat := n &&& 0xfffffffffffff
  if e = 2047 then
    if f = 0 then .infinite negative else .nan
  else if e = 0 then .finite negative f (-1074) false
  else .finite negative (0x10000000000000 + f) (e - 1075) (f = 0 && e ≠ 1)

/-- Takes a float apart. -/
def Binary64.ofFloat (x : Float) : Binary64 := .ofBits x.toBits

/-! ## rounding to integers -/

/-- Which of two equally near integers is chosen: the larger, or the even one. -/
inductive Tie where
  | up
  | even
  deriving DecidableEq, Repr

/-- The integer nearest to `num / den`. -/
def roundDiv (tie : Tie) (num den : Nat) : Nat :=
  let q := num / den
  match compare (2 * (num % den)) den with
  | .lt => q
  | .gt => q + 1
  | .eq => match tie with
    | .up => q + 1
    | .even => q + q % 2

/-- The integer nearest to `mantissa · 2 ^ exponent · scale`. -/
def roundScaled (tie : Tie) (mantissa : Nat) (exponent : Int) (scale : Nat) : Nat :=
  roundDiv tie ((mantissa * scale) <<< exponent.toNat) (1 <<< (-exponent).toNat)

end SerialLink.Decimal
