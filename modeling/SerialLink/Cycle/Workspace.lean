import SerialLink.Queue.Receive
import SerialLink.Queue.Send
import SerialLink.Transport

/-!
# SerialLink.Cycle.Workspace

What a cycle of the loop works on, and how that comes into the live queues.

1. A cycle works on copies of the queues, its `Workspace`.
2. What it came to is then brought into the live queues (`Queues.reconcile`): the payloads
   that it took leave the live send queue, which may have grown meanwhile, and the history
   becomes that of the cycle.
3. Any function on workspaces can be a cycle (`CustomCycle`).
-/

namespace SerialLink

/-- Why a cycle ended the loop. -/
inductive CycleFault where
  /-- It reported a failure. -/
  | failed (e : IoError)
  /-- It broke off without a report. -/
  | aborted
  deriving DecidableEq, Repr

/-- What a cycle works on: an open device, copies of the queues, and a clock. -/
structure Workspace (τ δ : Type) where
  device : δ
  send : SendQueue
  receive : ReceiveQueue τ
  clock : Clock τ

/-- The queues of a connection. -/
structure Queues (τ : Type) where
  send : SendQueue
  receive : ReceiveQueue τ

/-- What a cycle came to: its result, how many payloads it took from its copy of the send
queue, and its copy of the history as it left it. -/
structure CycleReport (τ : Type) where
  result : Except CycleFault Unit
  taken : Nat
  receive : ReceiveQueue τ

/-- What a cycle came to that began with copies of the queues and left the workspace `w`. -/
def Queues.report {τ δ : Type} (copies : Queues τ) (result : Except CycleFault Unit)
    (w : Workspace τ δ) : CycleReport τ :=
  ⟨result, copies.send.size - w.send.size, w.receive⟩

/-- The live queues with what a cycle came to. -/
def Queues.reconcile {τ : Type} (live : Queues τ) (r : CycleReport τ) : Queues τ :=
  ⟨live.send.discardFront r.taken, r.receive⟩

/-- The queues when everything is cleared away. -/
def Queues.clear {τ : Type} (q : Queues τ) : Queues τ := ⟨.empty, q.receive.clear⟩

/-- A cycle in the place of the standard one, with its state. -/
class CustomCycle (τ δ σ : Type) where
  /-- One cycle. -/
  run : σ → Workspace τ δ → Except CycleFault Unit × σ × Workspace τ δ
  /-- The state at the start of a loop. -/
  reset : σ → σ

end SerialLink
