import SerialLink.Connection.Search
import SerialLink.Connection.Traffic

/-!
# SerialLink.Connection.Wait

Callers who wait for a frame.

1. A caller waits for the first frame later than the beginning of the call, or for a
   frame that is an expected response (`Wanted`).
2. A waiting caller looks at the history first (`Call.look`).  The call is settled when
   the frame is there; else it ends without one when the connection is down or no time
   was given.
3. A caller who sends the request again and again looks for the response between the
   sends.  Such a call begins with a send, and after every window without the response
   the request is sent once more; the time is looked at behind each send
   (`Call.passWindow`).
-/

namespace SerialLink

/-- What a caller waits for. -/
inductive Wanted (τ : Type) where
  /-- The first frame later than a reading. -/
  | next (since : τ)
  /-- An expected response later than a reading. -/
  | response (expected : Expected) (after : τ)

/-- The frame of a history that a caller waits for. -/
def Wanted.find? {τ : Type} [Reading τ] (w : Wanted τ) (q : ReceiveQueue τ) :
    Option (Frame τ) :=
  match w with
  | .next since => q.findAfter? since
  | .response expected after => (q.framesAfter after).find? fun f => expected.accepts f.payload

/-- A caller who waits.  `repeated` are the values that are sent again and again, and
`waited` is the time spent in the windows between these sends.  `outcome` is there when the
call is settled: the frame, or none. -/
structure Call (τ : Type) where
  wanted : Wanted τ
  timeout : Option Duration
  repeated : Option (List SendValue)
  waited : Duration
  outcome : Option (Option (Frame τ))

/-- The ways to wait for a frame. -/
inductive Request (τ : Type) where
  /-- The next frame. -/
  | next
  /-- An expected response, later than a reading or than the beginning of the call. -/
  | response (expected : Expected) (after : Option τ)
  /-- An expected response to values that are sent again and again. -/
  | exchange (expected : Expected) (values : List SendValue)
  /-- The next frame once values are sent. -/
  | firstAfter (values : List SendValue)

/-- The answer of a request is a frame, and not only whether there was one. -/
def Request.givesFrame {τ : Type} : Request τ → Bool
  | .next | .firstAfter _ => true
  | .response _ _ | .exchange _ _ => false

/-- The shortest time between two sends of the same request. -/
def shortestWindow : Duration := .ofMillis 100

namespace Call

variable {τ σ : Type}

/-- A call that has just begun. -/
def fresh (wanted : Wanted τ) (timeout : Option Duration) : Call τ :=
  ⟨wanted, timeout, none, .zero, none⟩

/-- The call is settled: this is its outcome. -/
def settle (k : Call τ) (outcome : Option (Frame τ)) : Call τ :=
  { k with outcome := some outcome }

/-- The call is settled. -/
def isSettled (k : Call τ) : Bool := k.outcome.isSome

/-- The time that is given to the call; none if it may take forever. -/
def limit (k : Call τ) : Option Duration := Search.reachable k.timeout

/-- The time of the call is up. -/
def isLate (k : Call τ) : Bool := k.limit.any (· ≤ k.waited)

variable [Reading τ]

/-- The caller looks for the frame, and gives up if the connection is down. -/
def look (k : Call τ) (c : Connection τ σ) : Call τ :=
  if k.isSettled then k
  else
    match k.wanted.find? c.receive with
    | some f => k.settle f
    | none => if c.isConnected then k else k.settle none

/-- The caller looks for the frame, and gives up if the connection is down or the time is
up. -/
def lookOnce (k : Call τ) (c : Connection τ σ) : Call τ :=
  let k := k.look c
  if k.isSettled || !k.isLate then k else k.settle none

/-- One send of a request that is sent again and again, and the first look after it.  The
call ends without a response if the connection is down or the time is up by then. -/
def sendAgain (k : Call τ) (values : List SendValue) (c : Connection τ σ) :
    Call τ × Connection τ σ :=
  if c.isConnected then
    let (_, c) := c.sendValues values .default
    (if k.isLate then k.settle none else k.look c, c)
  else (k.settle none, c)

/-- The time to the next send. -/
def window (k : Call τ) (c : Connection τ σ) : Duration :=
  let full := max c.sendInterval shortestWindow
  match k.limit with
  | some limit => min full (limit - k.waited)
  | none => full

/-- A window passes in which nothing arrives, and the request is sent again. -/
def passWindow (k : Call τ) (values : List SendValue) (c : Connection τ σ) :
    Call τ × Connection τ σ :=
  { k with waited := k.waited + k.window c }.sendAgain values c

/-- Windows pass until the call is settled or `goal` payloads wait.  When a send did not add
to them, no later one will. -/
def passWindows (goal : Nat) : (fuel : Nat) → Call τ → Connection τ σ → Call τ × Connection τ σ
  | 0, k, c => (k, c)
  | fuel + 1, k, c =>
    match k.repeated with
    | none => (k, c)
    | some values =>
      if k.isSettled || goal ≤ c.send.size then (k, c)
      else
        let (k, after) := k.passWindow values c
        if c.send.size < after.send.size then passWindows goal fuel k after else (k, after)

/-- The time of the call passes, and nothing arrives.  This is its outcome. -/
def expire (k : Call τ) (c : Connection τ σ) : Option (Frame τ) × Connection τ σ :=
  let (k, c) := passWindows (SendQueue.limit + 1) (SendQueue.limit + 1) k c
  (k.outcome.join, c)

end Call

namespace Connection

variable {τ σ : Type} [Reading τ]

/-- A call begins: the clock is read, what is to be sent is sent, and the history is looked
at for the first time. -/
def call (c : Connection τ σ) (request : Request τ) : Call τ × Connection τ σ :=
  let (now, ready) := c.clock.read
  let ready := { c with clock := ready }
  match request with
  | .next => ((Call.fresh (.next now) c.timeout).lookOnce ready, ready)
  | .response expected (some after) =>
    ((Call.fresh (.response expected after) c.timeout).lookOnce c, c)
  | .response expected none =>
    ((Call.fresh (.response expected now) c.timeout).lookOnce ready, ready)
  | .exchange expected values =>
    { Call.fresh (.response expected now) c.timeout with repeated := some values }.sendAgain
      values ready
  | .firstAfter values =>
    match ready.sendValues values .default with
    | (true, sent) => ((Call.fresh (.next now) sent.timeout).lookOnce sent, sent)
    | (false, sent) => ((Call.fresh (.next now) sent.timeout).settle none, sent)

end Connection

end SerialLink
