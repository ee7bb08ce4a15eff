import SerialLink.Cycle.Drain
import SerialLink.Cycle.Workspace
import SerialLink.Framing

/-!
# SerialLink.Cycle

The cycle that the loop runs again and again: it moves bytes between a device and copies
of the queues.

1. The standard cycle first drains the send queue into the device, then fills the history
   with what the device has sent, split into frames (`StandardCycle.run`).
2. Other cycles may be put in its place (`LoopCycle`).
-/

namespace SerialLink

/-! ## the standard cycle -/

/-- The standard cycle: how it frames what it reads, and how long it may go on writing. -/
structure StandardCycle where
  framer : Framer
  drainBudget : Duration
  deriving DecidableEq, Repr

namespace StandardCycle

/-- The budget for writing where none is chosen. -/
def defaultBudget : Duration := .ofMillis 500

/-- The standard cycle with the given framing. -/
def ofFraming (framing : FramingConfig) : StandardCycle := ⟨.create framing, defaultBudget⟩

/-- The cycle at the start of a loop: nothing is carried over. -/
def reset (c : StandardCycle) : StandardCycle := { c with framer := c.framer.reset }

variable {τ δ : Type} [Transport δ]

/-- Writes the payloads of the workspace. -/
def drain (c : StandardCycle) (elapsed : List Duration) (w : Workspace τ δ) :
    Except CycleFault Nat × Workspace τ δ :=
  let drained := SerialLink.drain c.drainBudget elapsed w.send w.device
  (drained.result.mapError .failed, { w with send := drained.send, device := drained.device })

/-- Reads what the device has sent, and adds its frames to the history.  The answer is the
number of frames. -/
def fill [Reading τ] (c : StandardCycle) (w : Workspace τ δ) :
    Except CycleFault Nat × StandardCycle × Workspace τ δ :=
  match Transport.read w.device with
  | (.error e, device) =>
    (if e.isTransient then .ok 0 else .error (.failed e), c, { w with device := device })
  | (.ok [], device) => (.ok 0, c, { w with device := device })
  | (.ok (b :: data), device) =>
    if c.framer.config.windowFits then
      let (frames, framer) := c.framer.feed (b :: data)
      let (receive, clock) := w.receive.push w.clock frames
      (.ok frames.length, { c with framer := framer },
        { w with device := device, receive := receive, clock := clock })
    else (.error .aborted, c, { w with device := device })

/-- One cycle: first drains, then fills. -/
def run [Reading τ] (c : StandardCycle) (elapsed : List Duration) (w : Workspace τ δ) :
    Except CycleFault Unit × StandardCycle × Workspace τ δ :=
  match c.drain elapsed w with
  | (.error e, w) => (.error e, c, w)
  | (.ok _, w) =>
    let (result, c, w) := c.fill w
    (result.map fun _ => (), c, w)

end StandardCycle

/-! ## the cycle of a loop -/

/-- The cycle that a loop runs. -/
inductive LoopCycle (σ : Type) where
  | standard (c : StandardCycle)
  | custom (state : σ)

namespace LoopCycle

variable {τ δ σ : Type}

/-- The cycle at the start of a loop. -/
def reset (τ δ : Type) [CustomCycle τ δ σ] : LoopCycle σ → LoopCycle σ
  | .standard c => .standard c.reset
  | .custom s => .custom (CustomCycle.reset τ δ s)

/-- One cycle. -/
def run [Reading τ] [Transport δ] [CustomCycle τ δ σ] (elapsed : List Duration)
    (w : Workspace τ δ) : LoopCycle σ → Except CycleFault Unit × LoopCycle σ × Workspace τ δ
  | .standard c => let (result, c, w) := c.run elapsed w; (result, .standard c, w)
  | .custom s => let (result, s, w) := CustomCycle.run s w; (result, .custom s, w)

end LoopCycle

end SerialLink
