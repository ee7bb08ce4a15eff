import SerialLink.Connection.Error
import SerialLink.Connection.Event
import SerialLink.Cycle
import SerialLink.Mock.Bench
import SerialLink.Text.Quoted

/-!
# SerialLink.Connection.State

A connection: a serial port chosen from a list of candidates, the loop that moves
bytes between it and two queues, and the settings that callers may change.

1. While a loop runs it holds a handle on the port and runs a cycle (`Loop.running`).
2. A loop that ended on its own has closed its handle; its cycle is left for whoever
   clears it away (`Loop.ended`).
3. The cycle of a loop that is gone waits for the next one (`Loop.stopped`).

The connection carries the devices and the clock that it uses, so that a run of it is
a sequence of such states.  `τ` are the readings of the clock, `σ` is the state of a
cycle in the place of the standard one.
-/

namespace SerialLink

/-- The loop of a connection. -/
inductive Loop (σ : Type) where
  /-- There is none.  The cycle for the next one, if it is not to be a fresh one. -/
  | stopped (parked : Option (LoopCycle σ))
  /-- It runs its cycle on an open port. -/
  | running (handle : Mock.Handle) (cycle : LoopCycle σ)
  /-- It ended on its own.  No cycle is left if that broke off. -/
  | ended (left : Option (LoopCycle σ))

namespace Loop

variable {σ : Type}

/-- The loop is running. -/
def isRunning : Loop σ → Bool
  | .running _ _ => true
  | _ => false

/-- The handle that the loop holds. -/
def handle? : Loop σ → Option Mock.Handle
  | .running h _ => some h
  | _ => none

end Loop

/-- The states of a connection. -/
inductive ConnectionState where
  | disconnected
  /-- Candidates are being opened. -/
  | connecting
  | connected
  deriving DecidableEq, Repr

/-- The name of a state. -/
def ConnectionState.name : ConnectionState → String
  | .disconnected => "Disconnected"
  | .connecting => "Connecting"
  | .connected => "Connected"

/-- A connection with the devices and the clock that it uses. -/
structure Connection (τ σ : Type) extends Queues τ where
  config : ConnectionConfig
  bench : Mock.Bench
  clock : Clock τ
  loop : Loop σ
  /-- Candidates are being opened. -/
  connecting : Bool
  /-- The port that was opened last. -/
  activePort : Option String
  /-- How long a caller waits for a response; without it, forever. -/
  timeout : Option Duration
  /-- The least time between two accepted sends. -/
  sendInterval : Duration
  /-- What the clock read at the last accepted send of this loop. -/
  lastSent : Option τ
  /-- The timestamp of the frame that a caller of this loop was given last. -/
  lastReceived : Option τ
  /-- A timeout that the loop has yet to set on the port. -/
  pendingTimeout : Option (Option Duration)
  events : EventLog

namespace Connection

variable {τ σ : Type}

/-- A connection that is down. -/
def create (config : ConnectionConfig) (bench : Mock.Bench) (clock : Clock τ)
    (cycle : Option (LoopCycle σ)) : Except ConnectionError (Connection τ σ) := do
  config.validate.mapError .config
  let receive ← (ReceiveQueue.create config.queueSize).mapError .queue
  return {
    config := config
    bench := bench
    clock := clock
    loop := .stopped cycle
    send := .empty
    receive := receive
    connecting := false
    activePort := none
    timeout := config.timeout
    sendInterval := config.sendInterval
    lastSent := none
    lastReceived := none
    pendingTimeout := none
    events := .empty }

/-! ## looking at a connection -/

/-- The loop is running. -/
def isConnected (c : Connection τ σ) : Bool := c.loop.isRunning

/-- The state of a connection. -/
def state (c : Connection τ σ) : ConnectionState :=
  if c.isConnected then .connected
  else if c.connecting then .connecting
  else .disconnected

/-- How many payloads wait to be written. -/
def pendingSends (c : Connection τ σ) : Nat := c.send.size

/-- How many frames are in the history. -/
def receivedCount (c : Connection τ σ) : Nat := c.receive.size

/-- The frames of the history, oldest first. -/
def receivedFrames (c : Connection τ σ) : List (Frame τ) := c.receive.toList

/-- The ports that are present. -/
def listPorts (c : Connection τ σ) : List PortInfo := c.bench.provider.availablePorts

/-- A connection in diagnostics; `id` stands for its name. -/
def diagnosticText (c : Connection τ σ) (id : String) : String :=
  let quoted s := String.ofList (Text.quotedName s)
  let optional : Option String → String
    | some s => "Some(" ++ s ++ ")"
    | none => "None"
  "Connection \x7b id: " ++ id ++ ", state: " ++ c.state.name ++
    ", port: " ++ optional (c.activePort.map quoted) ++
    ", ports: [" ++ ", ".intercalate (c.config.ports.map quoted) ++
    "], timeout: " ++ optional (c.timeout.map Duration.text) ++
    ", send_interval: " ++ c.sendInterval.text ++
    ", queue_size: " ++ toString c.config.queueSize ++ " \x7d"

/-! ## small changes -/

/-- Publishes an event. -/
def publish (c : Connection τ σ) (e : Event) : Connection τ σ :=
  { c with events := c.events.publish e }

/-- The connection over changed devices. -/
def withProvider (c : Connection τ σ) (p : Mock.Provider) : Connection τ σ :=
  { c with bench := c.bench.withProvider p }

/-- Empties both queues. -/
def clearQueues (c : Connection τ σ) : Connection τ σ :=
  { c with toQueues := c.toQueues.clear }

/-- Closes a handle. -/
def closeHandle (c : Connection τ σ) (h : Mock.Handle) : Connection τ σ :=
  c.withProvider (c.bench.provider.close h).2

end Connection

end SerialLink
