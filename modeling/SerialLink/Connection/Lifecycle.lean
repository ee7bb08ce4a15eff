import SerialLink.Connection.State

/-!
# SerialLink.Connection.Lifecycle

How a connection goes down and comes up.

1. To disconnect is to stop the loop: its handle is closed, its cycle is parked and the
   queues are emptied (`Connection.disconnect`).  The loop may end on its own while one waits
   for it to stop (`Connection.bringDown`).
2. A loop that ended on its own is cleared away before the next one starts
   (`Connection.clearAway`).
3. A loop starts on a port just opened, with empty queues and nothing sent or received
   (`Connection.start`).
-/

namespace SerialLink

namespace Connection

variable {τ σ : Type}

/-! ## going down -/

/-- Stops the loop, closes the port and empties the queues.  Nothing happens if there is
no loop.  `wasUp` says whether the loop was running when this was asked for, and only then it
is published; by now it may have ended on its own. -/
def bringDown (c : Connection τ σ) (wasUp : Bool) (reason : DisconnectReason) :
    Connection τ σ :=
  let announce d := if wasUp then publish d (.disconnected (c.activePort.getD "") reason) else d
  match c.loop with
  | .stopped _ => c
  | .running h cycle =>
    announce { (c.closeHandle h).clearQueues with loop := .stopped (some cycle) }
  | .ended left => announce { c.clearQueues with loop := .stopped left }

/-- Takes the connection down when nothing else happens meanwhile. -/
def disconnect (c : Connection τ σ) (reason : DisconnectReason) : Connection τ σ :=
  c.bringDown c.isConnected reason

/-- Clears away a loop that ended on its own. -/
def clearAway (c : Connection τ σ) : Connection τ σ :=
  match c.loop with
  | .ended left => { c.clearQueues with loop := .stopped left }
  | _ => c

/-! ## coming up -/

/-- The settings with which the candidates are opened: those of the configuration, with
the timeout that is set now. -/
def openSettings (c : Connection τ σ) : PortSettings :=
  { c.config.portSettings with timeout := c.timeout }

/-- The standard cycle of this connection. -/
def standardCycle (c : Connection τ σ) : StandardCycle :=
  { StandardCycle.ofFraming c.config.framing with drainBudget := c.config.drainBudget }

/-- The cycle for the next loop: the one that is parked, or a standard one. -/
def nextCycle (c : Connection τ σ) : LoopCycle σ :=
  match c.loop with
  | .stopped (some cycle) => cycle
  | _ => .standard c.standardCycle

/-- Starts the loop on a port just opened. -/
def start [CustomCycle τ Mock.Line σ] (c : Connection τ σ) (h : Mock.Handle) : Connection τ σ :=
  { c.clearQueues with
    loop := .running h (c.nextCycle.reset τ Mock.Line)
    lastSent := none
    lastReceived := none
    activePort := some h.port }.publish (.connected h.port)

end Connection

end SerialLink
