import SerialLink.Clock
import SerialLink.Text.Quoted
import SerialLink.Text.Utf8

/-!
# SerialLink.Queue.Frame

Frames, the units of inbound data, and the errors of the queues.
-/

namespace SerialLink

/-- A unit of inbound data with the time of its arrival. -/
structure Frame (τ : Type) where
  timestamp : τ
  payload : Bytes
  deriving Repr

namespace Frame

/-- The payload as text. -/
def text {τ : Type} (f : Frame τ) : List Char := Text.Utf8.decodeLossy f.payload

/-- The microsecond of the arrival, counted from the epoch. -/
def receivedMicros? (f : Frame Float) : Option Int := epochMicros? f.timestamp

/-- Frames are equal if their payloads are and their timestamps are equal numbers. -/
instance : BEq (Frame Float) := ⟨fun a b => a.timestamp == b.timestamp && a.payload == b.payload⟩

/-- A frame in diagnostics. -/
def diagnosticText (f : Frame Float) : String :=
  "Frame \x7b timestamp: " ++ Decimal.diagnostic.text f.timestamp ++
    ", payload: " ++ String.ofList (Text.quotedBytes f.payload) ++ " \x7d"

end Frame

/-- What can go wrong with a queue. -/
inductive QueueError where
  | invalidCapacity (capacity : Nat)
  | empty
  deriving DecidableEq, Repr

/-- The text of a queue error. -/
def QueueError.message : QueueError → String
  | .invalidCapacity n => s!"Queue capacity must be at least 1, got {n}"
  | .empty => "Queue is empty"

end SerialLink
