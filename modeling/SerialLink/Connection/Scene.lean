import SerialLink.Connection.Action
import SerialLink.Connection.Session

/-!
# SerialLink.Connection.Scene

A connection in use, one action at a time.

1. A scene is a connection with the lock of its sessions and the callers who wait.
2. After each action the callers who wait look at what it came to (`Scene.step`).
3. The loop does nothing between its turns, except that it passes a timeout on to the
   port before the connection is taken down or supervised.
4. Time passes only where nothing else can happen: in the pauses between the scans of a
   reconnect, and while a caller waits for the next send or for the end of its time.
-/

namespace SerialLink

/-- A caller who waits: whether a frame is asked for, and the call; there is none if the
caller has no session. -/
structure Waiting (τ : Type) where
  givesFrame : Bool
  call : Option (Call τ)

/-- A connection with the lock of its sessions and the callers who wait, the one who began
last being the first. -/
structure Scene (τ σ : Type) where
  conn : Connection τ σ
  lock : SessionLock
  waiting : List (Waiting τ)

namespace Scene

variable {τ σ : Type}

/-- A scene in which nothing has happened yet. -/
def ofConnection (c : Connection τ σ) : Scene τ σ := ⟨c, .free, []⟩

/-- The scene with its connection changed. -/
def change (s : Scene τ σ) (f : Connection τ σ → Connection τ σ) : Scene τ σ :=
  { s with conn := f s.conn }

/-- What a connection says about itself. -/
def overview (c : Connection τ σ) : Overview where
  ports := c.config.ports
  baudRate := c.config.baudRate
  capacity := c.config.queueSize
  port := c.activePort
  isConnected := c.isConnected
  timeout := c.timeout
  sendInterval := c.sendInterval

/-- An action of somebody who needs a session of the given name, if any is given. -/
def withSession (s : Scene τ σ) (session : Option String)
    (act : Unit → Answer τ × Scene τ σ) : Answer τ × Scene τ σ :=
  if session.all s.lock.isHeldBy then act () else (.noSession, s)

/-- The answer of a search, with what was seen during it. -/
def searched (s : Scene τ σ) (result : Answer τ) (search : Search τ σ) :
    Answer τ × Scene τ σ :=
  (if search.seen.isEmpty then result else .watched result search.sightings,
    { s with conn := search.conn })

/-- The answer of an operation that may be refused. -/
def ofResult : Except ConnectionError Unit → Answer τ
  | .ok () => .done
  | .error e => .refused e

/-- The answer of an operation that may go on for long. -/
def ofVerdict : Search.Verdict → Answer τ
  | .returned result => ofResult result
  | .brokenOff => .brokenOff
  | .unfinished => .unending

/-- Takes the connection down, once the loop has passed a timeout on to the port. -/
def takeDown (s : Scene τ σ) (reason : DisconnectReason) : Scene τ σ :=
  s.change fun c => c.applyTimeout.disconnect reason

variable [Reading τ]

/-- The callers who wait look at the history. -/
def look (s : Scene τ σ) : Scene τ σ :=
  { s with waiting := s.waiting.map fun w => { w with call := w.call.map (·.look s.conn) } }

/-- Time passes until the caller who began last has made so many payloads wait. -/
def awaitPending (s : Scene τ σ) (n : Nat) : Scene τ σ :=
  match s.waiting with
  | ⟨givesFrame, some k⟩ :: rest =>
    let (k, c) := k.passWindows n (n + 1) s.conn
    { s with conn := c, waiting := ⟨givesFrame, some k⟩ :: rest }
  | _ => s

/-- A caller begins to wait. -/
def beginCall (s : Scene τ σ) (session : Option String) (request : Request τ) : Scene τ σ :=
  if session.all s.lock.isHeldBy then
    let (k, c) := s.conn.call request
    { s with conn := c, waiting := ⟨request.givesFrame, some k⟩ :: s.waiting }
  else { s with waiting := ⟨request.givesFrame, none⟩ :: s.waiting }

/-- The caller who began last returns. -/
def endCall (s : Scene τ σ) : Answer τ × Scene τ σ :=
  match s.waiting with
  | [] => (.done, s)
  | ⟨_, none⟩ :: rest => (.noSession, { s with waiting := rest })
  | ⟨givesFrame, some k⟩ :: rest =>
    let (outcome, c) := k.expire s.conn
    (if givesFrame then .frame outcome else .truth outcome.isSome,
      { s with conn := c, waiting := rest })

variable [CustomCycle τ Mock.Line σ]

/-- Several turns of the loop.  The callers look at the history after each. -/
def turns (s : Scene τ σ) : (n : Nat) → Turn × Scene τ σ
  | 0 => (if s.conn.isConnected then .completed else .idle, s)
  | n + 1 =>
    let (t, c) := s.conn.turn
    let s := { s with conn := c }.look
    if n = 0 then (t, s) else s.turns n

/-- An action, before the callers who wait look at what it came to. -/
def perform (s : Scene τ σ) : Action τ → Answer τ × Scene τ σ
  | .connect incidents =>
    let (result, search) := (Search.begin s.conn incidents).connect
    s.searched (ofResult result) search
  | .disconnect reason => (.done, s.takeDown reason)
  | .reconnect session timeout incidents =>
    s.withSession session fun _ =>
      let config := s.conn.config
      let (verdict, search) := (Search.begin s.conn incidents).reconnect timeout
        (config.pausesBefore timeout) (config.scansWithin timeout incidents)
      s.searched (ofVerdict verdict) search
  | .poll v incidents =>
    let config := s.conn.config
    let timeout := some v.reconnectTimeout
    let (lasts, search) := (Search.begin s.conn.applyTimeout incidents).watch v
      (config.pausesBefore timeout) (config.scansWithin timeout incidents)
    s.searched (if lasts then .done else .brokenOff) search
  | .supervise v kind incidents =>
    let config := s.conn.config
    let timeout := some v.reconnectTimeout
    s.searched .done <| (Search.begin s.conn.applyTimeout incidents).supervise v
      (config.pausesBefore timeout) (config.scansWithin timeout incidents) kind
  | .tick n => let (t, s) := s.turns n; (.turn t, s)
  | .send values options =>
    let (accepted, c) := s.conn.sendValues values options
    (.truth accepted, { s with conn := c })
  | .sendMany count =>
    let (accepted, c) := s.conn.sendMany count
    (.count accepted, { s with conn := c })
  | .receive offset =>
    let (frame, c) := s.conn.receiveAt offset
    (.frame frame, { s with conn := c })
  | .receiveText offset readUntil strip =>
    let (text, c) := s.conn.receiveText offset readUntil strip
    (.text text, { s with conn := c })
  | .available =>
    (match s.conn.available with
      | .ok n => .count n
      | .error e => .refused e, s)
  | .frames => (.frames s.conn.receivedFrames, s)
  | .call session request => (.done, s.beginCall session request)
  | .awaitPending n => (.done, s.awaitPending n)
  | .answer => s.endCall
  | .setTimeout timeout => (.timeout timeout, s.change (·.setTimeout timeout))
  | .setTimeoutSecs secs =>
    let (result, c) := s.conn.setTimeoutSecs secs
    (.change result c.timeout, { s with conn := c })
  | .setSendInterval interval => (.timeout interval, s.change (·.setSendInterval interval))
  | .setSendIntervalSecs secs =>
    let (result, c) := s.conn.setSendIntervalSecs secs
    (.change result c.sendInterval, { s with conn := c })
  | .setClock t => (.done, s.change fun c => { c with clock := .fixed t })
  | .advanceClock span =>
    let clock := s.conn.clock.advance span
    (.reading clock.current, s.change fun c => { c with clock := clock })
  | .overview => (.overview (overview s.conn), s)
  | .diagnostics id => (.diagnostics (s.conn.diagnosticText id), s)
  | .listPorts => (.ports s.conn.listPorts, s)
  | .device action =>
    let (a, bench) := s.conn.bench.act action
    (.device a, s.change fun c => { c with bench := bench })
  | .trySession name =>
    let (taken, lock) := s.lock.tryTake name
    (.truth taken, { s with lock := lock })
  | .session name =>
    let (taken, lock) := s.lock.tryTake name
    (if taken then .truth true else .waits, { s with lock := lock })
  | .dropSession name =>
    let (existed, lock) := s.lock.letGo name
    (.truth existed, { s with lock := lock })
  | .sessionState name =>
    s.withSession (some name) fun _ => (.session s.conn.state s.conn.activePort, s)
  | .busy => (.busy s.lock.isBusy s.conn.isConnected, s)

/-- An action, after which the callers who wait look at what it came to. -/
def step (s : Scene τ σ) (a : Action τ) : Answer τ × Scene τ σ :=
  let (answer, s) := s.perform a
  (answer, s.look)

/-- The scene after a sequence of actions. -/
def run (s : Scene τ σ) (actions : List (Action τ)) : Scene τ σ :=
  actions.foldl (fun s a => (s.step a).2) s

/-- The end of the scene: the connection is taken down, and whoever else holds a port closes
it. -/
def finish (s : Scene τ σ) : Scene τ σ :=
  (s.takeDown .requested).change fun c => { c with bench := c.bench.releaseAll }

/-- The subscriber takes what it has not yet taken. -/
def collect (s : Scene τ σ) : List Notice × Scene τ σ :=
  let (notices, events) := s.conn.events.collect
  (notices, s.change fun c => { c with events := events })

end Scene

end SerialLink
