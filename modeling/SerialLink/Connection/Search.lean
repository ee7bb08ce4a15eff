import SerialLink.Connection.Traffic
import SerialLink.Connection.Lifecycle

/-!
# SerialLink.Connection.Search

How a connection finds a port among its candidates.

1. To connect is to open the first candidate that can be opened and to start the loop on
   it (`Search.scan`).
2. To reconnect is to try all candidates again and again until one opens or the time is
   up; the time is looked at only after all candidates have failed (`Search.retry`).  The
   passes are counted in 32 bits, and the call breaks off at the one that cannot be
   counted (`Verdict.brokenOff`).
3. Others go on meanwhile: devices come and go, and somebody sets the timeout or looks at
   the connection.  A search carries what is to happen at its moments (`Moment`): before
   the settings for a pass are read, before an attempt to open a port, and between a port
   that was opened and its loop.
-/

namespace SerialLink

/-- What others do while a connection looks for a port. -/
inductive Incident where
  /-- Something happens on the side of the devices. -/
  | device (action : Mock.DeviceAction)
  /-- Somebody looks at the connection. -/
  | sighting
  /-- Somebody sets the timeout of the connection. -/
  | setTimeout (timeout : Option Duration)
  deriving DecidableEq, Repr

/-- The moments of a search, counted from its beginning. -/
inductive Moment where
  /-- The settings for the `n`-th pass over the candidates are yet to be read. -/
  | pass (n : Nat)
  /-- The `n`-th attempt to open a port is about to be made. -/
  | attempt (n : Nat)
  /-- The `n`-th attempt has opened a port, which settles before the loop starts on it. -/
  | settling (n : Nat)
  deriving DecidableEq, Repr

/-- The number of a moment among those of its kind. -/
def Moment.number : Moment → Nat
  | .pass n | .attempt n | .settling n => n

/-- What somebody saw who looked at a connection that was about to open a port. -/
structure Sighting where
  /-- The port that was about to be opened or had been opened just before, if any. -/
  port : Option String
  state : ConnectionState
  isConnected : Bool
  deriving DecidableEq, Repr

/-- A connection that looks for a port: the incidents with their moments, the passes begun
and the attempts made so far, and what was seen, the latest first. -/
structure Search (τ σ : Type) where
  conn : Connection τ σ
  incidents : List (Moment × Incident)
  passes : Nat
  attempts : Nat
  seen : List Sighting

namespace Search

variable {τ σ : Type}

/-- The search of a connection before its first pass. -/
def begin (c : Connection τ σ) (incidents : List (Moment × Incident)) : Search τ σ :=
  ⟨c, incidents, 0, 0, []⟩

/-- What was seen, in order. -/
def sightings (s : Search τ σ) : List Sighting := s.seen.reverse

/-- The highest number of a moment with an incident. -/
def lastIncident (incidents : List (Moment × Incident)) : Nat :=
  (incidents.map (·.1.number)).foldl max 0

/-- The search with its connection changed. -/
def change (s : Search τ σ) (f : Connection τ σ → Connection τ σ) : Search τ σ :=
  { s with conn := f s.conn }

/-- An incident, when the given port is about to be opened or was opened just before. -/
def happen (port : Option String) (s : Search τ σ) : Incident → Search τ σ
  | .device action => s.change fun c => { c with bench := (c.bench.act action).2 }
  | .sighting => { s with seen := ⟨port, s.conn.state, s.conn.isConnected⟩ :: s.seen }
  | .setTimeout timeout => s.change (·.setTimeout timeout)

/-- The incidents of a moment. -/
def due (s : Search τ σ) (m : Moment) : List Incident :=
  (s.incidents.filter (·.1 == m)).map (·.2)

/-- What happens at a moment. -/
def meet (s : Search τ σ) (m : Moment) (port : Option String) : Search τ σ :=
  (s.due m).foldl (happen port) s

/-- The next pass over the candidates, which is counted, before their settings are read. -/
def enter (s : Search τ σ) : Search τ σ :=
  { s with passes := s.passes + 1 }.meet (.pass (s.passes + 1)) none

/-- The next attempt, which is counted, before the port is opened. -/
def approach (s : Search τ σ) (port : String) : Search τ σ :=
  { s with attempts := s.attempts + 1 }.meet (.attempt (s.attempts + 1)) (some port)

/-- An attempt to open a port. -/
def attempt (s : Search τ σ) (port : String) (settings : PortSettings) :
    Option Mock.Handle × Search τ σ :=
  let s := s.approach port
  let (result, p) := s.conn.bench.provider.openPort port settings
  (result.toOption, s.change (·.withProvider p))

/-- Tries the candidates in order until one opens. -/
def firstOpen (settings : PortSettings) :
    List String → Search τ σ → Option Mock.Handle × Search τ σ
  | [], s => (none, s)
  | port :: rest, s =>
    match s.attempt port settings with
    | (some h, s) => (some h, s)
    | (none, s) => firstOpen settings rest s

/-- A port just opened, when it has settled. -/
def settle (s : Search τ σ) (h : Mock.Handle) : Search τ σ :=
  s.meet (.settling s.attempts) (some h.port)

/-- The candidates are no longer being opened. -/
def finished (s : Search τ σ) : Search τ σ :=
  s.change fun c => { c with connecting := false }

variable [CustomCycle τ Mock.Line σ]

/-- Opens the first candidate that can be opened and starts the loop on it.  The answer
tells whether there was one. -/
def scan (s : Search τ σ) : Bool × Search τ σ :=
  let s := s.enter
  match firstOpen s.conn.openSettings s.conn.config.ports s with
  | (some h, s) => (true, (s.settle h).change (·.start h))
  | (none, s) => (false, s)

/-- The part of a timeout that can run out: a point in time `2 ^ 63` seconds away is out of
reach. -/
def reachable (timeout : Option Duration) : Option Duration :=
  timeout.filter fun t => t.secs < UInt64.size / 2

/-- What comes of trying the candidates again and again. -/
inductive Verdict where
  | returned (result : Except ConnectionError Unit)
  /-- The next pass has no number, and the call breaks off. -/
  | brokenOff
  /-- There is no answer within the passes that are allowed. -/
  | unfinished

/-- The call breaks off. -/
def Verdict.isBrokenOff : Verdict → Bool
  | .brokenOff => true
  | _ => false

/-- The number of the next pass when so many were made, if it has one. -/
def nextPass (made : UInt32) : Option UInt32 :=
  if made.toNat + 1 < UInt32.size then some (made + 1) else none

/-- Tries all candidates again and again until one opens or the time is up, when `made`
passes were made before.  `elapsed n` is the time spent when the `n`-th pass has failed.  At
most `scans` passes are made. -/
def retry (timeout : Option Duration) (elapsed : Nat → Duration) :
    (scans : Nat) → (made : UInt32) → Search τ σ → Verdict × Search τ σ
  | 0, _, s => (.unfinished, s)
  | scans + 1, made, s =>
    match nextPass made with
    | none => (.brokenOff, s)
    | some pass =>
      match (s.change (·.publish (.reconnecting pass))).scan with
      | (true, s) => (.returned (.ok ()), s)
      | (false, s) =>
        let spent := elapsed pass.toNat
        if (reachable timeout).any (· ≤ spent) then
          (.returned (.error (.reconnectTimeout spent)), s)
        else retry timeout elapsed scans pass s

/-- The search when its call is over.  A call that breaks off leaves the connection as if
candidates were still being opened. -/
def leave (s : Search τ σ) : Verdict → Search τ σ
  | .brokenOff => s
  | _ => s.finished

/-- Looks for a port in the given way, if the connection is not up; a loop that ended on its
own is cleared away first. -/
def unlessConnected {α : Type} (s : Search τ σ) (refuse : ConnectionError → α)
    (look : Search τ σ → α × Search τ σ) : α × Search τ σ :=
  let s := s.change Connection.clearAway
  if s.conn.isConnected then (refuse .alreadyConnected, s)
  else look (s.change fun c => { c with connecting := true })

/-- Opens the first candidate that can be opened. -/
def connect (s : Search τ σ) : Except ConnectionError Unit × Search τ σ :=
  s.unlessConnected .error fun s =>
    let (opened, s) := s.scan
    (if opened then .ok () else .error (.noPortAvailable s.conn.config.ports), s.finished)

/-- Tries the candidates until one opens or the time is up, in at most `scans` passes. -/
def reconnect (s : Search τ σ) (timeout : Option Duration) (elapsed : Nat → Duration)
    (scans : Nat) : Verdict × Search τ σ :=
  s.unlessConnected (fun e => .returned (.error e)) fun s =>
    let (verdict, s) := retry timeout elapsed scans 0 s
    (verdict, s.leave verdict)

end Search

/-! ## time that passes in pauses -/

/-- The time spent when the `n`-th pass has failed, if time passes only in the pauses
between passes: each is as long as the configuration says, but no longer than the time
left. -/
def ConnectionConfig.pausesBefore (c : ConnectionConfig) (timeout : Option Duration) (n : Nat) :
    Duration :=
  let spent := Duration.ofMillis ((n - 1) * c.retryIntervalMs)
  match timeout with
  | some t => min spent t
  | none => spent

/-- A number of passes that is enough if time passes only in the pauses between them: all
incidents are over, and so is the time. -/
def ConnectionConfig.scansWithin (c : ConnectionConfig) (timeout : Option Duration)
    (incidents : List (Moment × Incident)) : Nat :=
  let pauses := match timeout with
    | some t => t.nanos / (Duration.ofMillis c.retryIntervalMs).nanos
    | none => 0
  Search.lastIncident incidents + pauses + 2

end SerialLink
