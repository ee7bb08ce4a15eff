import SerialLink.Decimal.Layout

/-!
# SerialLink.Duration

Spans of time, counted in whole nanoseconds.  A span is exact; only the passage
to and from a number of seconds rounds.
-/

namespace SerialLink

open Decimal

/-- A span of time in nanoseconds. -/
@[ext] structure Duration where
  nanos : Nat
  deriving DecidableEq, Repr, Inhabited

namespace Duration

/-- The nanoseconds of a second. -/
def nanosPerSec : Nat := 1000000000

/-- No time at all. -/
def zero : Duration := ⟨0⟩

/-- The span of whole seconds and further nanoseconds. -/
def ofParts (secs nanos : Nat) : Duration := ⟨secs * nanosPerSec + nanos⟩

/-- The span of `n` seconds. -/
def ofSecs (n : Nat) : Duration := ofParts n 0

/-- The span of `n` milliseconds. -/
def ofMillis (n : Nat) : Duration := ⟨n * 1000000⟩

/-- The longest span: one nanosecond less than `2 ^ 64` seconds. -/
def longest : Duration := ⟨UInt64.size * nanosPerSec - 1⟩

/-- The whole seconds of a span. -/
def secs (d : Duration) : Nat := d.nanos / nanosPerSec

/-- The nanoseconds of a span beyond its whole seconds. -/
def subsecNanos (d : Duration) : Nat := d.nanos % nanosPerSec

instance : LE Duration := ⟨fun a b => a.nanos ≤ b.nanos⟩

instance : LT Duration := ⟨fun a b => a.nanos < b.nanos⟩

instance (a b : Duration) : Decidable (a ≤ b) := inferInstanceAs (Decidable (a.nanos ≤ b.nanos))

instance (a b : Duration) : Decidable (a < b) := inferInstanceAs (Decidable (a.nanos < b.nanos))

instance : Add Duration := ⟨fun a b => ⟨a.nanos + b.nanos⟩⟩

/-- What is left of a span after `b`; nothing if `b` is the longer. -/
instance : Sub Duration := ⟨fun a b => ⟨a.nanos - b.nanos⟩⟩

instance : Min Duration := ⟨fun a b => if a ≤ b then a else b⟩

instance : Max Duration := ⟨fun a b => if a ≤ b then b else a⟩

/-! ## seconds -/

/-- A span as a number of seconds: the whole seconds and the part of a second are
rounded each on its own, then added. -/
def seconds (d : Duration) : Float :=
  Float.ofNat d.secs + Float.ofNat d.subsecNanos / 1e9

/-- The span of `x` seconds, rounded to the nearest nanosecond, a half to the even
one.  There is none for a negative `x`, for one beyond the longest span, and for
what is no number. -/
def ofSeconds? (x : Float) : Option Duration :=
  match Binary64.ofFloat x with
  | .finite negative mantissa exponent _ =>
    if negative && mantissa ≠ 0 then none
    else
      let n := roundScaled .even mantissa exponent nanosPerSec
      if n ≤ longest.nanos then some ⟨n⟩ else none
  | _ => none

/-! ## text -/

/-- A number of units with up to `places` decimals, the zeros at the end left out. -/
def unitText (whole rest places : Nat) (unit : String) : String :=
  let digits := digitText rest
  let padded := List.replicate (places - digits.length) '0' ++ digits
  let kept := (padded.reverse.dropWhile (· == '0')).reverse
  let decimals := if kept.isEmpty then [] else '.' :: kept
  String.ofList (digitText whole ++ decimals) ++ unit

/-- A span in the largest unit of which it holds at least one: seconds, milliseconds,
microseconds or nanoseconds. -/
def text (d : Duration) : String :=
  let n := d.nanos
  if nanosPerSec ≤ n then unitText (n / nanosPerSec) (n % nanosPerSec) 9 "s"
  else if 1000000 ≤ n then unitText (n / 1000000) (n % 1000000) 6 "ms"
  else if 1000 ≤ n then unitText (n / 1000) (n % 1000) 3 "µs"
  else unitText n 0 0 "ns"

end Duration

end SerialLink
