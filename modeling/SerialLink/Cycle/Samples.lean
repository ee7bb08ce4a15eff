import SerialLink.Cycle
import SerialLink.Decimal.Layout

/-!
# SerialLink.Cycle.Samples

Four cycles that may stand in the place of the standard one:

1. `upper` writes everything, then keeps what it reads in capital letters;
2. `loopback` receives what was to be sent;
3. `counter` receives the numbers from one on, one in each cycle;
4. `fragile` handles one payload, and breaks in several ways if the payload says so.
-/

namespace SerialLink

open Text

/-- The sample cycles; the counter knows the number it receives next. -/
inductive SampleCycle where
  | upper
  | loopback
  | counter (next : Nat)
  | fragile
  deriving DecidableEq, Repr

namespace SampleCycle

variable {τ : Type} [Reading τ] {δ : Type}

/-- A letter from `a` to `z` as a capital one; any other byte as it is. -/
def capital (b : UInt8) : UInt8 := if 0x61 ≤ b && b ≤ 0x7a then b - 0x20 else b

/-- Adds a payload to the history. -/
def received (w : Workspace τ δ) (payload : Bytes) : Workspace τ δ :=
  let (receive, clock) := w.receive.push w.clock [payload]
  { w with receive := receive, clock := clock }

variable [Transport δ]

/-- Writes all payloads.  Each is taken from the queue before it is written, and the first
failure is passed on. -/
def writeAll : (fuel : Nat) → Workspace τ δ → Except CycleFault Unit × Workspace τ δ
  | 0, w => (.ok (), w)
  | fuel + 1, w =>
    match w.send.pop with
    | .error _ => (.ok (), w)
    | .ok (payload, rest) =>
      match Transport.write w.device payload with
      | (.ok (), device) => writeAll fuel { w with send := rest, device := device }
      | (.error e, device) => (.error (.failed e), { w with send := rest, device := device })

/-- Writes all payloads, then receives what the device sent, in capital letters. -/
def runUpper (w : Workspace τ δ) : Except CycleFault Unit × Workspace τ δ :=
  match writeAll w.send.size w with
  | (.error e, w) => (.error e, w)
  | (.ok (), w) =>
    match Transport.read w.device with
    | (.error e, device) => (.error (.failed e), { w with device := device })
    | (.ok data, device) =>
      let w := { w with device := device }
      (.ok (), if data.isEmpty then w else received w (data.map capital))

/-- Receives all payloads that were to be sent. -/
def runLoopback (w : Workspace τ δ) : Workspace τ δ :=
  let (receive, clock) := w.receive.push w.clock w.send.toList
  { w with receive := receive, clock := clock, send := w.send.discardFront w.send.size }

/-- Handles the oldest payload. -/
def runFragile (w : Workspace τ δ) : Except CycleFault Unit × Workspace τ δ :=
  match w.send.pop with
  | .error _ => (.ok (), w)
  | .ok (payload, rest) =>
    let w := { w with send := rest }
    if (Utf8.bytes "panic").isPrefixOf payload then (.error .aborted, w)
    else if (Utf8.bytes "block").isPrefixOf payload then
      (.error (.failed ⟨.wouldBlock, "cycle blocked"⟩), w)
    else
      let w := received w (Utf8.bytes "sent")
      if (Utf8.bytes "fail").isPrefixOf payload then
        (.error (.failed ⟨.other, "cycle failed"⟩), w)
      else
        match Transport.write w.device payload with
        | (.ok (), device) => (.ok (), { w with device := device })
        | (.error e, device) => (.error (.failed e), { w with device := device })

instance : CustomCycle τ δ SampleCycle where
  run
    | .upper, w => let (result, w) := runUpper w; (result, .upper, w)
    | .loopback, w => (.ok (), .loopback, runLoopback w)
    | .counter n, w =>
      (.ok (), .counter (n + 1), received w (Utf8.encode (Decimal.digitText n)))
    | .fragile, w => let (result, w) := runFragile w; (result, .fragile, w)
  reset s := s

end SampleCycle

end SerialLink
