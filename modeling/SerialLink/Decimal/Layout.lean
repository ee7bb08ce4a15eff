import SerialLink.Decimal.Shortest

/-!
# SerialLink.Decimal.Layout

How the digits of a number are laid out as text.  One function, `Layout.text`,
and a record of the decisions a format makes:

1. in which range of magnitudes a number is written positionally, and not with
   an exponent;
2. up to which magnitude a whole number carries the fraction `.0`;
3. whether a positive exponent has a sign, what stands for numbers that are none,
   and which of two equally near decimals is chosen.
-/

namespace SerialLink.Decimal

/-- The decisions of a number format.  The magnitude of a number is the power of ten
of its first digit. -/
structure Layout where
  /-- The least magnitude written positionally; without it, all small ones are. -/
  positionalFrom : Option Int
  /-- The least magnitude no longer written positionally; without it, none. -/
  positionalBelow : Option Int
  /-- Below this magnitude a whole number carries the fraction `.0`. -/
  fractionBelow : Int
  /-- A positive exponent carries a plus sign. -/
  signedExponent : Bool
  nan : String
  infinity : String
  tie : Tie

/-- The decimal digits of a number. -/
def digitText (n : Nat) : List Char := Nat.toDigits 10 n

/-- The text of an integer. -/
def intText (n : Int) : List Char :=
  if n < 0 then '-' :: digitText n.natAbs else digitText n.natAbs

/-- The text of the magnitude `v`, positionally: the point is set into the digits, with
zeros on either side where they do not reach it. -/
def positional (fraction : Bool) (v : Scaled) : List Char :=
  let ds := digitText v.digits
  if 0 ≤ v.exponent then
    ds ++ List.replicate v.exponent.toNat '0' ++ (if fraction then ['.', '0'] else [])
  else
    let places := (-v.exponent).toNat
    let padded := List.replicate (places + 1 - ds.length) '0' ++ ds
    let whole := padded.length - places
    padded.take whole ++ '.' :: padded.drop whole

/-- The text of the magnitude `v` with an exponent: one digit before the point. -/
def exponential (signed : Bool) (v : Scaled) (magnitude : Int) : List Char :=
  let mark := if signed && 0 ≤ magnitude then ['e', '+'] else ['e']
  match digitText v.digits with
  | [] => []
  | [d] => d :: mark ++ intText magnitude
  | d :: ds => d :: '.' :: ds ++ mark ++ intText magnitude

/-- The text of a magnitude. -/
def Layout.magnitudeText (l : Layout) (v : Scaled) : List Char :=
  let magnitude := v.exponent + (digitText v.digits).length - 1
  let isPositional :=
    v.digits = 0 ||
      (l.positionalFrom.all (· ≤ magnitude) && l.positionalBelow.all (magnitude < ·))
  if isPositional then positional (magnitude < l.fractionBelow) v
  else exponential l.signedExponent v magnitude

/-- The text of a float. -/
def Layout.chars (l : Layout) (x : Float) : List Char :=
  match Binary64.ofFloat x with
  | .nan => l.nan.toList
  | .infinite false => l.infinity.toList
  | .infinite true => '-' :: l.infinity.toList
  | .finite negative mantissa exponent narrow =>
    let text := l.magnitudeText (shortest l.tie mantissa exponent narrow)
    if negative then '-' :: text else text

/-- The text of a float, as a string. -/
def Layout.text (l : Layout) (x : Float) : String := String.ofList (l.chars x)

/-- Plain numbers: always positional, whole numbers without a fraction. -/
def plain : Layout where
  positionalFrom := none
  positionalBelow := none
  fractionBelow := -400
  signedExponent := false
  nan := "NaN"
  infinity := "inf"
  tie := .up

/-- Numbers in diagnostics: positional from `1e-4` to below `1e16`, with a fraction. -/
def diagnostic : Layout where
  positionalFrom := some (-4)
  positionalBelow := some 16
  fractionBelow := 16
  signedExponent := false
  nan := "NaN"
  infinity := "inf"
  tie := .up

end SerialLink.Decimal
