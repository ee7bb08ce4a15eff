import SerialLink.Duration

/-!
# SerialLink.Clock

Clocks and what they read.

A reading is a point in time.  The library asks four things of readings
(`Reading`): which of two is the later, whether one lies less than a given span
after another, how a reading moves on by a span, and whether it lies before all
others.  Readings are 64-bit floats, seconds since the epoch; `NaN` is neither
before nor after anything.  Rational seconds are readings too, with the same
rules in exact arithmetic.
-/

namespace SerialLink

open Decimal

/-- Points in time. -/
class Reading (τ : Type) where
  /-- The first is the earlier one. -/
  lt : τ → τ → Bool
  /-- The first is the earlier one, or both are the same. -/
  le : τ → τ → Bool
  /-- `soonAfter earlier later gap`: less than `gap` has passed in between. -/
  soonAfter : τ → τ → Duration → Bool
  /-- The reading moved on by a span. -/
  advance : τ → Duration → τ
  /-- The reading lies before all others and is after nothing. -/
  isLowest : τ → Bool

instance : Reading Float where
  lt a b := a < b
  le a b := a ≤ b
  soonAfter earlier later gap := later - earlier < gap.seconds
  advance t span := t + span.seconds
  isLowest t := t == -1.0 / 0.0

instance : Reading Rat where
  lt a b := a < b
  le a b := a ≤ b
  soonAfter earlier later gap := later - earlier < (gap.nanos : Rat) / Duration.nanosPerSec
  advance t span := t + (span.nanos : Rat) / Duration.nanosPerSec
  isLowest _ := false

/-! ## clocks -/

/-- A clock gives the readings queued for it one by one; the last one it gave is its
current reading, and it goes on giving that when the queue is empty. -/
structure Clock (τ : Type) where
  current : τ
  queued : List τ
  deriving Repr

namespace Clock

variable {τ : Type}

/-- The clock that reads `t` until it is set. -/
def fixed (t : τ) : Clock τ := ⟨t, []⟩

/-- One reading, and the clock after it. -/
def read (c : Clock τ) : τ × Clock τ :=
  match c.queued with
  | [] => (c.current, c)
  | t :: ts => (t, ⟨t, ts⟩)

/-- The clock that gives the readings `ts` next. -/
def script (c : Clock τ) (ts : List τ) : Clock τ := { c with queued := ts }

/-- The clock moved on by a span. -/
def advance [Reading τ] (c : Clock τ) (span : Duration) : Clock τ :=
  fixed (Reading.advance c.current span)

end Clock

/-! ## the calendar -/

/-- The first and the last microsecond, counted from the epoch, that have a date. -/
def calendarRange : Int × Int := (-8334601228800000000, 8210266876799999999)

/-- The microsecond, counted from the epoch, in which a reading in seconds falls: the
product with a million is rounded to the nearest integer, a half away from zero.
There is none for a reading that is not finite or has no date. -/
def epochMicros? (secs : Float) : Option Int :=
  match Binary64.ofFloat (secs * 1e6) with
  | .finite negative mantissa exponent _ =>
    let n : Int := roundScaled .up mantissa exponent 1
    let micros := if negative then -n else n
    if calendarRange.1 ≤ micros ∧ micros ≤ calendarRange.2 then some micros else none
  | _ => none

end SerialLink
