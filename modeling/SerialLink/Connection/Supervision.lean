import SerialLink.Connection.Search

/-!
# SerialLink.Connection.Supervision

A supervisor looks at a connection from time to time.

1. If the connection is up and its port is no longer listed, it is taken down.
2. If the connection is down and the supervisor is to bring it up again, it tries to
   reconnect for a while.
-/

namespace SerialLink

/-- How a connection is supervised. -/
structure Supervision where
  /-- The time between two looks at the connection. -/
  pollInterval : Duration
  /-- A connection that is down is brought up again. -/
  autoReconnect : Bool
  /-- The time for bringing it up, at each look. -/
  reconnectTimeout : Duration
  deriving DecidableEq, Repr

/-- A look every two seconds, and no attempt to bring a connection up. -/
def Supervision.default : Supervision where
  pollInterval := .ofSecs 2
  autoReconnect := false
  reconnectTimeout := .ofMillis 500

namespace Connection

variable {τ σ : Type}

/-- The port of the connection is listed. -/
def portIsListed (c : Connection τ σ) (port : String) : Bool :=
  c.listPorts.any (·.name == port)

/-- Takes the connection down if its port is no longer listed. -/
def checkPort (c : Connection τ σ) : Connection τ σ :=
  match c.activePort with
  | some port => if c.portIsListed port then c else c.disconnect .portRemoved
  | none => c

end Connection

namespace Search

variable {τ σ : Type} [CustomCycle τ Mock.Line σ]

/-- One look of the supervisor at the connection.  `elapsed` and `scans` are those of
`Search.reconnect`.  The answer tells whether the supervisor is still there: it is gone if its
call to reconnect broke off. -/
def watch (s : Search τ σ) (v : Supervision) (elapsed : Nat → Duration) (scans : Nat) :
    Bool × Search τ σ :=
  if s.conn.isConnected then (true, s.change Connection.checkPort)
  else if v.autoReconnect then
    let (verdict, s) := s.reconnect (some v.reconnectTimeout) elapsed scans
    (!verdict.isBrokenOff, s)
  else (true, s)

/-- The connection after one look of the supervisor. -/
def poll (s : Search τ σ) (v : Supervision) (elapsed : Nat → Duration) (scans : Nat) :
    Search τ σ :=
  (s.watch v elapsed scans).2

/-- The supervisor looks at the connection until an event of the given kind was published
that is not among the first `before`, at most `polls` times. -/
def pollUntil (v : Supervision) (elapsed : Nat → Duration) (scans : Nat) (kind : EventKind)
    (before : Nat) : (polls : Nat) → Search τ σ → Search τ σ
  | 0, s => s
  | polls + 1, s =>
    let (lasts, s) := s.watch v elapsed scans
    if !lasts || (s.conn.events.toList.drop before).any (·.kind == kind) then s
    else pollUntil v elapsed scans kind before polls s

/-- The supervisor is at work until an event of the given kind is published.  It is given up
when all incidents are over and nothing more can happen. -/
def supervise (s : Search τ σ) (v : Supervision) (elapsed : Nat → Duration) (scans : Nat)
    (kind : EventKind) : Search τ σ :=
  pollUntil v elapsed scans kind s.conn.events.toList.length (lastIncident s.incidents + 2) s

end Search

end SerialLink
