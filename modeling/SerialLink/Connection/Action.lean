import SerialLink.Connection.Loop
import SerialLink.Connection.Supervision
import SerialLink.Connection.Wait

/-!
# SerialLink.Connection.Action

All that can happen to a connection, and what is answered to it.

An action is an operation of the connection, a turn of its loop, or something that happens
to its devices or its clock.  A call that waits is two actions: it begins, and it returns.
What comes in between happens while the caller waits.
-/

namespace SerialLink

/-- What happens to a connection. -/
inductive Action (τ : Type) where
  | connect (incidents : List (Moment × Incident))
  | disconnect (reason : DisconnectReason)
  | reconnect (session : Option String) (timeout : Option Duration)
      (incidents : List (Moment × Incident))
  | poll (v : Supervision) (incidents : List (Moment × Incident))
  | supervise (v : Supervision) (kind : EventKind) (incidents : List (Moment × Incident))
  | tick (n : Nat)
  | send (values : List SendValue) (options : SendOptions)
  | sendMany (count : Nat)
  | receive (offset : Nat)
  | receiveText (offset : Nat) (readUntil : Option String) (strip : Bool)
  | available
  | frames
  /-- A caller begins to wait. -/
  | call (session : Option String) (request : Request τ)
  /-- Time passes until so many payloads wait to be written. -/
  | awaitPending (n : Nat)
  /-- The caller who began last has its answer, or no more time. -/
  | answer
  | setTimeout (timeout : Option Duration)
  | setTimeoutSecs (secs : Float)
  | setSendInterval (interval : Duration)
  | setSendIntervalSecs (secs : Float)
  | setClock (t : τ)
  | advanceClock (span : Duration)
  | overview
  | diagnostics (id : String)
  | listPorts
  | device (action : Mock.DeviceAction)
  | trySession (name : String)
  | session (name : String)
  | dropSession (name : String)
  | sessionState (name : String)
  | busy

/-- What a connection says about itself. -/
structure Overview where
  ports : List String
  baudRate : Nat
  capacity : Nat
  port : Option String
  isConnected : Bool
  timeout : Option Duration
  sendInterval : Duration
  deriving DecidableEq, Repr

/-- The answer to an action. -/
inductive Answer (τ : Type) where
  | done
  | refused (e : ConnectionError)
  /-- The operation does not come to an end. -/
  | unending
  /-- The operation broke off. -/
  | brokenOff
  /-- Somebody looked at the connection while it was busy. -/
  | watched (a : Answer τ) (seen : List Sighting)
  | truth (b : Bool)
  | count (n : Nat)
  | frame (f : Option (Frame τ))
  | text (t : Option (τ × List Char))
  | frames (fs : List (Frame τ))
  | turn (t : Turn)
  | timeout (t : Option Duration)
  /-- The result of a change, and the setting after it. -/
  | change (result : Except ConnectionError Unit) (setting : Option Duration)
  | reading (t : τ)
  | overview (o : Overview)
  | diagnostics (s : String)
  | ports (present : List PortInfo)
  | device (a : Mock.DeviceAnswer)
  /-- Another session holds the lock. -/
  | waits
  | noSession
  | session (state : ConnectionState) (port : Option String)
  | busy (locked connected : Bool)

end SerialLink
