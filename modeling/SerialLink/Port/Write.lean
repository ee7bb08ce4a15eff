import SerialLink.Bytes
import SerialLink.IoError

/-!
# SerialLink.Port.Write

Writing a whole payload to a device that may take it piecemeal.

1. The device is offered what is left until nothing is; an interrupted call is
   made again.
2. A device that takes nothing although something was offered is given up.
3. A transient failure is passed on only if no byte was taken.  Once part of a
   payload is out, writing it again would repeat that part, so a stall then counts
   as a broken device.
4. When everything is taken the device is flushed; a transient failure of that does
   not matter.
-/

namespace SerialLink

/-- How a device answers a write: it takes at most so many bytes, or it fails. -/
inductive WriteOutcome where
  | takes (n : Nat)
  | fails (e : IoError)
  deriving DecidableEq, Repr

/-- The outcomes a device has ready, one for each write; after them it takes all that it
is offered.  `flush` is the failure of its flush, if that fails. -/
structure Writer where
  outcomes : List WriteOutcome
  flush : Option IoError
  deriving DecidableEq, Repr

/-- What writing a payload came to: its result, the bytes the device took, the sizes it
was offered and the number of flushes. -/
structure WriteRecord where
  result : Except IoError Unit
  taken : Bytes
  offers : List Nat
  flushes : Nat

/-- The device took nothing of what it was offered. -/
def nothingTaken : IoError := ⟨.writeZero, "serial port accepted no data"⟩

/-- The device stopped after `done` of `total` bytes. -/
def stalled (done total : Nat) (e : IoError) : IoError :=
  ⟨.brokenPipe, s!"write stalled after {done} of {total} bytes: " ++ e.message⟩

/-- Offers `rest`, what is left of a payload of which `done` bytes are taken, until nothing
is left.  The answer is the result, the bytes taken and the sizes offered. -/
def offerAll (done : Nat) (rest : Bytes) :
    List WriteOutcome → Except IoError Unit × Bytes × List Nat
  | [] => if rest.isEmpty then (.ok (), [], []) else (.ok (), rest, [rest.length])
  | outcome :: outcomes =>
    if rest.isEmpty then (.ok (), [], [])
    else match outcome with
      | .takes n =>
        let k := min n rest.length
        if k = 0 then (.error nothingTaken, [], [rest.length])
        else
          let (result, taken, offers) := offerAll (done + k) (rest.drop k) outcomes
          (result, rest.take k ++ taken, rest.length :: offers)
      | .fails e =>
        if e.kind = .interrupted then
          let (result, taken, offers) := offerAll done rest outcomes
          (result, taken, rest.length :: offers)
        else if 0 < done && e.isTransient then
          (.error (stalled done (done + rest.length) e), [], [rest.length])
        else (.error e, [], [rest.length])

/-- Writes a payload and flushes the device. -/
def Writer.writePayload (w : Writer) (data : Bytes) : WriteRecord :=
  match offerAll 0 data w.outcomes with
  | (.error e, taken, offers) => ⟨.error e, taken, offers, 0⟩
  | (.ok (), taken, offers) =>
    let result := match w.flush with
      | some e => if e.isTransient then .ok () else .error e
      | none => .ok ()
    ⟨result, taken, offers, 1⟩

end SerialLink
