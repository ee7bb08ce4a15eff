import SerialLink.Connection.Scene

/-!
# SerialLink.Proofs.Scenes

What a scene keeps.

Every action of a scene is made of a few operations of its connection.  So what each of these
keeps (`Scene.Kept`) is kept by every action (`Scene.Kept.perform`), and by every sequence of
actions (`Scene.Kept.run`).
-/

namespace SerialLink

variable {τ σ : Type} [Reading τ] [CustomCycle τ Mock.Line σ]

/-- A property of connections that all operations keep of which the actions of a scene are made. -/
structure Scene.Kept (P : Connection τ σ → Prop) : Prop where
  connect {s : Search τ σ} (h : P s.conn) : P s.connect.2.conn
  reconnect {s : Search τ σ} (h : P s.conn) (timeout : Option Duration)
    (elapsed : Nat → Duration) (scans : Nat) : P (s.reconnect timeout elapsed scans).2.conn
  disconnect {c : Connection τ σ} (h : P c) (reason : DisconnectReason) : P (c.disconnect reason)
  device {c : Connection τ σ} (h : P c) (action : Mock.DeviceAction) :
    P { c with bench := (c.bench.act action).2 }
  clock {c : Connection τ σ} (h : P c) (clock : Clock τ) : P { c with clock := clock }
  setTimeout {c : Connection τ σ} (h : P c) (timeout : Option Duration) : P (c.setTimeout timeout)
  setSendInterval {c : Connection τ σ} (h : P c) (interval : Duration) :
    P (c.setSendInterval interval)
  applyTimeout {c : Connection τ σ} (h : P c) : P c.applyTimeout
  turn {c : Connection τ σ} (h : P c) : P c.turn.2
  sendValues {c : Connection τ σ} (h : P c) (values : List SendValue) (options : SendOptions) :
    P (c.sendValues values options).2
  receiveAt {c : Connection τ σ} (h : P c) (offset : Nat) : P (c.receiveAt offset).2

namespace Scene.Kept

variable {P : Connection τ σ → Prop} {c : Connection τ σ}

/-! ## operations -/

theorem setTimeoutSecs (hP : Kept P) (h : P c) (secs : Float) : P (c.setTimeoutSecs secs).2 := by
  unfold Connection.setTimeoutSecs
  split
  · exact hP.setTimeout h _
  · exact h

theorem setSendIntervalSecs (hP : Kept P) (h : P c) (secs : Float) :
    P (c.setSendIntervalSecs secs).2 := by
  unfold Connection.setSendIntervalSecs
  split
  · exact hP.setSendInterval h _
  · exact h

theorem sendMany (hP : Kept P) (h : P c) (count : Nat) : P (c.sendMany count).2 := by
  unfold Connection.sendMany
  refine List.foldlRecOn (motive := fun sent : Nat × Connection τ σ => P sent.2) _ _ h
    fun sent hsent n _ => ?_
  exact hP.sendValues hsent [.uint n] .default

theorem poll (hP : Kept P) {s : Search τ σ} (h : P s.conn) (v : Supervision)
    (elapsed : Nat → Duration) (scans : Nat) : P (s.poll v elapsed scans).conn := by
  unfold Search.poll Search.watch
  split
  · show P s.conn.checkPort
    unfold Connection.checkPort
    split
    · split
      · exact h
      · exact hP.disconnect h .portRemoved
    · exact h
  · split
    · exact hP.reconnect h _ _ _
    · exact h

theorem pollUntil (hP : Kept P) {s : Search τ σ} (h : P s.conn) (v : Supervision)
    (elapsed : Nat → Duration) (scans : Nat) (kind : EventKind) (before polls : Nat) :
    P (Search.pollUntil v elapsed scans kind before polls s).conn := by
  induction polls generalizing s with
  | zero => exact h
  | succ polls ih =>
    have hpolled : P (s.watch v elapsed scans).2.conn := hP.poll h v elapsed scans
    unfold Search.pollUntil
    dsimp only
    split
    · exact hpolled
    · exact ih hpolled

/-! ## callers who wait -/

theorem sendAgain (hP : Kept P) (h : P c) (k : Call τ) (values : List SendValue) :
    P (k.sendAgain values c).2 := by
  unfold Call.sendAgain
  split
  · exact hP.sendValues h values .default
  · exact h

theorem passWindows (hP : Kept P) (h : P c) (goal fuel : Nat) (k : Call τ) :
    P (k.passWindows goal fuel c).2 := by
  induction fuel generalizing k c with
  | zero => exact h
  | succ fuel ih =>
    unfold Call.passWindows
    cases k.repeated with
    | none => exact h
    | some values =>
      have hpassed : P (k.passWindow values c).2 := hP.sendAgain h _ values
      dsimp only
      split
      · exact h
      · split
        · exact ih hpassed _
        · exact hpassed

theorem expire (hP : Kept P) (h : P c) (k : Call τ) : P (k.expire c).2 := by
  unfold Call.expire
  exact hP.passWindows h _ _ k

theorem call (hP : Kept P) (h : P c) (request : Request τ) : P (c.call request).2 := by
  have hready := hP.clock h c.clock.read.2
  unfold Connection.call
  match request with
  | .next => exact hready
  | .response expected (some after) => exact h
  | .response expected none => exact hready
  | .exchange expected values => exact hP.sendAgain hready _ values
  | .firstAfter values =>
    have hsent := hP.sendValues hready values .default
    dsimp only at hsent ⊢
    split
    next heq => rw [heq] at hsent; exact hsent
    next heq => rw [heq] at hsent; exact hsent

/-! ## actions -/

variable {s : Scene τ σ}

theorem takeDown (hP : Kept P) (h : P s.conn) (reason : DisconnectReason) :
    P (s.takeDown reason).conn :=
  hP.disconnect (hP.applyTimeout h) reason

theorem turns (hP : Kept P) (h : P s.conn) (n : Nat) : P (s.turns n).2.conn := by
  induction n generalizing s with
  | zero => exact h
  | succ n ih =>
    unfold Scene.turns
    dsimp only
    split
    · exact hP.turn h
    · exact ih (hP.turn h)

omit [Reading τ] [CustomCycle τ Mock.Line σ] in
theorem withSession (h : P s.conn) (session : Option String)
    {act : Unit → Answer τ × Scene τ σ} (hact : P (act ()).2.conn) :
    P (s.withSession session act).2.conn := by
  unfold Scene.withSession
  split
  · exact hact
  · exact h

theorem beginCall (hP : Kept P) (h : P s.conn) (session : Option String) (request : Request τ) :
    P (s.beginCall session request).conn := by
  unfold Scene.beginCall
  split
  · exact hP.call h request
  · exact h

theorem awaitPending (hP : Kept P) (h : P s.conn) (n : Nat) : P (s.awaitPending n).conn := by
  unfold Scene.awaitPending
  split
  · exact hP.passWindows h _ _ _
  · exact h

theorem endCall (hP : Kept P) (h : P s.conn) : P s.endCall.2.conn := by
  unfold Scene.endCall
  split
  · exact h
  · exact h
  · exact hP.expire h _

/-- What all operations keep, an action keeps. -/
theorem perform (hP : Kept P) (h : P s.conn) (a : Action τ) : P (s.perform a).2.conn := by
  cases a with
  | connect incidents => exact hP.connect (s := .begin s.conn incidents) h
  | disconnect reason => exact hP.takeDown h reason
  | reconnect session timeout incidents =>
    have hsearched := hP.reconnect (s := .begin s.conn incidents) h timeout
      (s.conn.config.pausesBefore timeout) (s.conn.config.scansWithin timeout incidents)
    exact withSession h session hsearched
  | poll v incidents =>
    have hpolled := hP.poll (s := .begin s.conn.applyTimeout incidents) (hP.applyTimeout h) v
      (s.conn.config.pausesBefore (some v.reconnectTimeout))
      (s.conn.config.scansWithin (some v.reconnectTimeout) incidents)
    exact hpolled
  | supervise v kind incidents =>
    exact hP.pollUntil (s := .begin s.conn.applyTimeout incidents) (hP.applyTimeout h) v _ _ _ _ _
  | tick n => exact hP.turns h n
  | send values options => exact hP.sendValues h values options
  | sendMany count => exact hP.sendMany h count
  | receive offset => exact hP.receiveAt h offset
  | receiveText offset => exact hP.receiveAt h offset
  | call session request => exact hP.beginCall h session request
  | awaitPending n => exact hP.awaitPending h n
  | answer => exact hP.endCall h
  | setTimeout timeout => exact hP.setTimeout h timeout
  | setTimeoutSecs secs => exact hP.setTimeoutSecs h secs
  | setSendInterval interval => exact hP.setSendInterval h interval
  | setSendIntervalSecs secs => exact hP.setSendIntervalSecs h secs
  | setClock t => exact hP.clock h _
  | advanceClock span => exact hP.clock h _
  | device action => exact hP.device h action
  | sessionState name => exact withSession h _ h
  | available | frames | overview | diagnostics | listPorts | trySession | session | dropSession
  | busy => exact h

/-- What all operations keep holds throughout a scene. -/
theorem run (hP : Kept P) (h : P s.conn) (actions : List (Action τ)) :
    P (s.run actions).conn := by
  induction actions generalizing s with
  | nil => exact h
  | cons a actions ih => exact ih (s := (s.step a).2) (hP.perform h a)

end Scene.Kept

end SerialLink
