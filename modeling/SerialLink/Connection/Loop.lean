import SerialLink.Connection.State

/-!
# SerialLink.Connection.Loop

The loop of a connection, one turn at a time.

1. A timeout that a caller has set is passed on to the port.
2. Both queues are copied, and the cycle runs on the copies.
3. The copies are reconciled: what the cycle took leaves the live send queue, which may
   have grown meanwhile, and the history becomes that of the cycle.
4. A cycle that fails ends the loop after that: the port is closed, both queues are
   emptied and the loss is published.  A cycle that breaks off ends it at once: the port
   is closed and nothing else is touched.
-/

namespace SerialLink

/-- What a turn of the loop came to. -/
inductive Turn where
  | completed
  /-- The loop ended, because its cycle failed. -/
  | lost
  /-- The loop ended, because its cycle broke off. -/
  | aborted
  /-- There is no loop. -/
  | idle
  deriving DecidableEq, Repr

namespace Connection

variable {τ σ : Type}

/-- Passes a timeout that a caller has set on to the port.  That the port may refuse it
does not matter. -/
def applyTimeout (c : Connection τ σ) : Connection τ σ :=
  match c.loop, c.pendingTimeout with
  | .running h _, some timeout =>
    { c.withProvider (c.bench.provider.setTimeout h timeout).2 with pendingTimeout := none }
  | _, _ => c

/-- The device of a handle. -/
def line (c : Connection τ σ) (h : Mock.Handle) : Mock.Line :=
  ⟨h, (c.bench.provider.device? h.port).getD .fresh⟩

/-- Runs the cycle on copies of the queues; the live queues stay as they are.  `elapsed`
are the readings of the time that the cycle has spent. -/
def runCycle [Reading τ] [CustomCycle τ Mock.Line σ] (c : Connection τ σ) (copies : Queues τ)
    (elapsed : List Duration) : Option (CycleReport τ) × Connection τ σ :=
  match c.loop with
  | .running h cycle =>
    let (result, cycle, w) :=
      cycle.run elapsed ⟨c.line h, copies.send, copies.receive, c.clock⟩
    let provider := c.bench.provider.modify h.port fun _ => w.device.device
    (some (copies.report result w),
      { c.withProvider provider with loop := .running h cycle, clock := w.clock })
  | _ => (none, c)

/-- Brings what a cycle came to into the live queues, unless it broke off. -/
def settle (c : Connection τ σ) (r : CycleReport τ) : Connection τ σ :=
  match r.result with
  | .error .aborted => c
  | _ => { c with toQueues := c.toQueues.reconcile r }

/-- Ends the loop if its cycle failed or broke off. -/
def conclude (c : Connection τ σ) (result : Except CycleFault Unit) : Turn × Connection τ σ :=
  match c.loop with
  | .running h cycle =>
    match result with
    | .ok () => (.completed, c)
    | .error (.failed e) =>
      (.lost, { (c.closeHandle h).clearQueues with loop := .ended (some cycle) }.publish
        (.disconnected (c.activePort.getD "") (.transportLost e.message)))
    | .error .aborted => (.aborted, { c.closeHandle h with loop := .ended none })
  | _ => (.idle, c)

/-- What is told of a turn that ended the loop of this connection.  That its cycle broke off
is told only by a cycle in the place of the standard one; otherwise it is only seen that there
is no loop any more. -/
def told (c : Connection τ σ) : Turn → Turn
  | .aborted =>
    match c.loop with
    | .running _ (.standard _) => .lost
    | _ => .aborted
  | t => t

variable [Reading τ] [CustomCycle τ Mock.Line σ]

/-- One turn of the loop, in which nobody else touches the connection and no time passes. -/
def turn (c : Connection τ σ) : Turn × Connection τ σ :=
  let c := c.applyTimeout
  match c.runCycle c.toQueues [] with
  | (some report, c) =>
    let (t, d) := (c.settle report).conclude report.result
    (c.told t, d)
  | (none, c) => (.idle, c)

end Connection

end SerialLink
