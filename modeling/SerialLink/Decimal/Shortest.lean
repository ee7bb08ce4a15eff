import SerialLink.Decimal.Binary64

/-!
# SerialLink.Decimal.Shortest

The shortest decimal that reads back as a given float.

The reals that round to a float form an interval around it, half-way to each
neighbour, with its ends if the mantissa is even.  On the grid of multiples of
`10 ^ p` only the two grid points next to the float can be the nearest, and if
any grid point lies in the interval then one of those two does.  So the grids
are tried from the coarsest to finer ones; the first grid with a point in the
interval gives the fewest digits, and of two points the nearer one is taken.
-/

namespace SerialLink.Decimal

/-- The number `digits · 10 ^ exponent`. -/
structure Scaled where
  digits : Nat
  exponent : Int
  deriving DecidableEq, Repr

namespace Shortest

/-- A float and the interval around it, all in the same unit: `value` is the float,
`low` and `high` the ends, which belong to the interval iff `closed`. -/
structure Interval where
  value : Nat
  low : Nat
  high : Nat
  closed : Bool

/-- The interval of the float `mantissa · 2 ^ exponent`, in quarters of `2 ^ exponent`. -/
def Interval.around (mantissa : Nat) (narrow : Bool) : Interval where
  value := 4 * mantissa
  low := 4 * mantissa - (if narrow then 1 else 2)
  high := 4 * mantissa + 2
  closed := mantissa % 2 == 0

/-- The same interval in a unit that is `k` times smaller. -/
def Interval.refine (i : Interval) (k : Nat) : Interval :=
  ⟨i.value * k, i.low * k, i.high * k, i.closed⟩

/-- Whether a point lies in the interval. -/
def Interval.holds (i : Interval) (x : Nat) : Bool :=
  if i.closed then i.low ≤ x && x ≤ i.high else i.low < x && x < i.high

/-- The grid point, as a multiple of `step`, that lies in the interval and is nearest
to its value. -/
def Interval.gridPoint? (tie : Tie) (i : Interval) (step : Nat) : Option Nat :=
  let below := i.value / step
  match i.holds (below * step), i.holds ((below + 1) * step) with
  | false, false => none
  | true, false => some below
  | false, true => some (below + 1)
  | true, true => some (roundDiv tie i.value step)

/-- Tries the grids of `10 ^ p`, `10 ^ (p - 1)` and so on, `fuel` of them.  The
interval is in units of `2 ^ exponent`. -/
def search (tie : Tie) (i : Interval) (exponent : Int) (p : Int) : (fuel : Nat) → Scaled
  | 0 => ⟨0, 0⟩
  | fuel + 1 =>
    let scaled := i.refine (2 ^ exponent.toNat * 10 ^ (-p).toNat)
    match scaled.gridPoint? tie (10 ^ p.toNat * 2 ^ (-exponent).toNat) with
    | some digits => ⟨digits, p⟩
    | none => search tie i exponent (p - 1) fuel

end Shortest

/-- The shortest decimal that reads back as the float `mantissa · 2 ^ exponent`, the
nearest of those to it.  A grid a little coarser than the float itself is the first
tried; eighteen finer ones are always enough, since seventeen digits identify every
float. -/
def shortest (tie : Tie) (mantissa : Nat) (exponent : Int) (narrow : Bool) : Scaled :=
  if mantissa = 0 then ⟨0, 0⟩
  else
    let p := (mantissa.log2 + 1 + exponent) * 30103 / 100000 + 1
    Shortest.search tie (.around mantissa narrow) (exponent - 2) p 20

end SerialLink.Decimal
