import SerialLink.Connection.State
import SerialLink.Payload.Value
import SerialLink.Payload.Expected

/-!
# SerialLink.Connection.Traffic

What callers send and receive, and the settings they change.

1. A send is accepted only if the connection is up and the last accepted send of this
   loop is at least the send interval ago.  A caller first reads the clock (`Ticket`) and
   only then looks at the last accepted send (`Connection.accept`); others may come in
   between.
2. An accepted send whose payload finds the send queue full counts as accepted; the
   payload is dropped.
3. Frames are counted as available from the one on that a caller was given last.
-/

namespace SerialLink

/-- What a caller who sends has read: the clock, and the send interval. -/
structure Ticket (τ : Type) where
  now : τ
  interval : Duration
  deriving Repr

/-- A number of seconds as a timeout.  What is too long for a span of time, infinity
included, is none. -/
def timeoutOfSeconds (secs : Float) : Except ConnectionError (Option Duration) :=
  if secs.isNaN || secs < 0 then .error (.invalidTimeout secs)
  else .ok (Duration.ofSeconds? secs)

namespace Connection

variable {τ σ : Type}

/-! ## sending -/

/-- A caller begins to send; there is nothing to be had if the connection is down. -/
def ticket? (c : Connection τ σ) : Option (Ticket τ) × Connection τ σ :=
  if c.isConnected then
    let (now, clock) := c.clock.read
    (some ⟨now, c.sendInterval⟩, { c with clock := clock })
  else (none, c)

section

variable [Reading τ]

/-- The last accepted send is too recent for a caller. -/
def throttles (c : Connection τ σ) (t : Ticket τ) : Bool :=
  c.lastSent.any fun last => Reading.soonAfter last t.now t.interval

/-- A caller who has read the clock hands in a payload.  The answer tells whether it was
accepted. -/
def accept (c : Connection τ σ) (t : Ticket τ) (payload : Bytes) : Bool × Connection τ σ :=
  if c.throttles t then (false, c)
  else (true, { c with lastSent := some t.now, send := (c.send.push? payload).getD c.send })

/-- Sends values.  The answer tells whether they were accepted. -/
def sendValues (c : Connection τ σ) (values : List SendValue) (options : SendOptions) :
    Bool × Connection τ σ :=
  match c.ticket? with
  | (none, c) => (false, c)
  | (some t, c) => c.accept t (encode values options)

/-- Sends the numbers below `count` one by one, from zero on.  The answer is how many were
accepted. -/
def sendMany (c : Connection τ σ) (count : Nat) : Nat × Connection τ σ :=
  (List.range count).foldl
    (fun (accepted, c) n =>
      let (ok, c) := c.sendValues [.uint n] .default
      (if ok then accepted + 1 else accepted, c))
    (0, c)

end

/-! ## receiving -/

/-- The frame `offset` positions back from the newest, if the connection is up and the
history is that long. -/
def receiveAt (c : Connection τ σ) (offset : Nat) : Option (Frame τ) × Connection τ σ :=
  if c.isConnected then
    match c.receive.at? offset with
    | some f => (some f, { c with lastReceived := some f.timestamp })
    | none => (none, c)
  else (none, c)

/-- The frame that `receiveAt` gives, with its payload as text. -/
def receiveText (c : Connection τ σ) (offset : Nat) (readUntil : Option String) (strip : Bool) :
    Option (τ × List Char) × Connection τ σ :=
  let (frame, c) := c.receiveAt offset
  (frame.map fun f => (f.timestamp, payloadText f.payload readUntil strip), c)

/-- How many frames are later than the one that a caller was given last. -/
def available [Reading τ] (c : Connection τ σ) : Except ConnectionError Nat :=
  if c.isConnected then .ok (c.receive.countAfter c.lastReceived) else .error .notConnected

/-! ## settings -/

/-- Sets the timeout, also of the port if one is open. -/
def setTimeout (c : Connection τ σ) (timeout : Option Duration) : Connection τ σ :=
  { c with
    timeout := timeout
    pendingTimeout := if c.isConnected then some timeout else c.pendingTimeout }

/-- Sets the timeout to a number of seconds. -/
def setTimeoutSecs (c : Connection τ σ) (secs : Float) :
    Except ConnectionError Unit × Connection τ σ :=
  match timeoutOfSeconds secs with
  | .ok timeout => (.ok (), c.setTimeout timeout)
  | .error e => (.error e, c)

/-- Sets the least time between two accepted sends. -/
def setSendInterval (c : Connection τ σ) (interval : Duration) : Connection τ σ :=
  { c with sendInterval := interval }

/-- Sets the least time between two accepted sends to a number of seconds. -/
def setSendIntervalSecs (c : Connection τ σ) (secs : Float) :
    Except ConnectionError Unit × Connection τ σ :=
  match timeoutOfSeconds secs with
  | .ok interval => (.ok (), c.setSendInterval (interval.getD .longest))
  | .error e => (.error e, c)

end Connection

end SerialLink
