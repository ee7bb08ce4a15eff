import SerialLink.Proofs.Ports
import SerialLink.Proofs.Scenes
import SerialLink.Proofs.Timeout

/-!
# SerialLink.Proofs.Ownership

The port that a connection holds open.

1. The loop that runs holds an open handle on the port that the connection names
   (`Connection.Attached`).  A connection owns what its loop holds (`Connection.Owns`): the open
   ports of the bench are those that others hold and that port.
2. What happens to a connection is taken apart into steps, which may come in any order
   (`Connection.Step`): candidates are tried, the loop goes through the phases of its turns, it
   is stopped, and the devices do something.  Each of them keeps up what is owned
   (`Connection.Owns.step`), and so does every course of them (`Connection.Owns.course`).
3. So a connection that is up holds one port open, the one that it names, and one that is down
   holds none (`Connection.holds_of_course`).  What happens in a scene is such a course
   (`Connection.Course.scene`).
-/

namespace SerialLink

/-! ## cycles -/

namespace Mock.Line

theorem isOpen_write (l : Line) (payload : Bytes) :
    (Transport.write l payload).2.device.isOpen = l.device.isOpen := by
  show (l.handle.write l.device payload).2.isOpen = _
  unfold Handle.write
  split
  · rfl
  · split
    · rfl
    · unfold Device.take
      dsimp only
      split <;> split <;> rfl

theorem isOpen_read (l : Line) : (Transport.read l).2.device.isOpen = l.device.isOpen := by
  show (l.handle.read l.device).2.isOpen = _
  unfold Handle.read
  split <;> rfl

/-- To use a port neither opens nor closes it. -/
theorem isOpen_used {l m : Line} (h : Transport.Used l m) : m.device.isOpen = l.device.isOpen :=
  h.keeps (f := fun l : Line => l.device.isOpen) isOpen_write isOpen_read

end Mock.Line

/-- A cycle in the place of the standard one leaves the port open that it works on. -/
def KeepsOpen (τ σ : Type) [CustomCycle τ Mock.Line σ] : Prop :=
  ∀ (s : σ) (w : Workspace τ Mock.Line),
    (CustomCycle.run s w).2.2.device.device.isOpen = w.device.device.isOpen

theorem LoopCycle.isOpen_run {τ σ : Type} [Reading τ] [CustomCycle τ Mock.Line σ]
    (hkeeps : KeepsOpen τ σ) (cycle : LoopCycle σ) (elapsed : List Duration)
    (w : Workspace τ Mock.Line) :
    (cycle.run elapsed w).2.2.device.device.isOpen = w.device.device.isOpen := by
  cases cycle with
  | standard c => exact Mock.Line.isOpen_used (c.used_run elapsed w)
  | custom s => exact hkeeps s w

theorem SampleCycle.keepsOpen {τ : Type} [Reading τ] : KeepsOpen τ SampleCycle :=
  fun s w => Mock.Line.isOpen_used (s.used_run w)

/-! ## the port of the loop -/

namespace Connection

variable {τ σ : Type} {b c d : Connection τ σ}

/-- The loop that runs has not closed its handle, and the connection names its port. -/
def Attached (c : Connection τ σ) : Prop :=
  ∀ (h : Mock.Handle) (cycle : LoopCycle σ), c.loop = .running h cycle →
    h.closed = false ∧ c.activePort = some h.port

namespace Attached

/-- A connection that is down has no loop that runs. -/
theorem of_down (hdown : c.isConnected = false) : c.Attached := by
  intro h cycle hloop
  rw [isConnected_of_loop hloop] at hdown
  contradiction

/-- The same loop and the same name of the port. -/
theorem congr (hc : c.Attached) (hloop : d.loop = c.loop) (hport : d.activePort = c.activePort) :
    d.Attached := by
  intro h cycle hrunning
  rw [hport]
  rw [hloop] at hrunning
  exact hc h cycle hrunning

theorem create {config : ConnectionConfig} {bench : Mock.Bench} {clock : Clock τ}
    {parked : Option (LoopCycle σ)} (hcreate : create config bench clock parked = .ok c) :
    c.Attached := by
  rw [create_eq hcreate]
  exact of_down rfl

theorem clearAway (hc : c.Attached) : c.clearAway.Attached := by
  by_cases hup : c.isConnected = true
  · rwa [Search.clearAway_of_isConnected hup]
  · have hdown : c.clearAway.isConnected = false := by
      simpa [Search.isConnected_clearAway] using hup
    exact of_down hdown

theorem conclude (hc : c.Attached) (result : Except CycleFault Unit) :
    (c.conclude result).2.Attached := by
  by_cases hup : (c.conclude result).2.isConnected = true
  · rwa [conclude_of_isConnected hup]
  · exact of_down (by simpa using hup)

theorem applyTimeout (hc : c.Attached) : c.applyTimeout.Attached := by
  have hcalm := c.applyTimeout_calm.1
  have hloop : c.applyTimeout.loop = c.loop := by rw [hcalm.eq]
  have hport : c.applyTimeout.activePort = c.activePort := by rw [hcalm.eq]
  exact hc.congr hloop hport

variable [CustomCycle τ Mock.Line σ]

theorem runCycle [Reading τ] (hc : c.Attached) (copies : Queues τ) (elapsed : List Duration) :
    (c.runCycle copies elapsed).2.Attached := by
  cases hup : c.isConnected with
  | false => rwa [runCycle_of_down hup]
  | true =>
    obtain ⟨handle, cycle, hloop⟩ := exists_loop_of_isConnected hup
    have hrun := runCycle_of_loop hloop copies elapsed
    dsimp only at hrun
    rw [hrun]
    -- the cycle has another state now, but its handle is the same
    intro h cycle' hrunning
    obtain ⟨rfl, -⟩ := Loop.running.inj hrunning
    exact hc handle cycle hloop

/-- A search starts a loop only on the port that it has just opened. -/
theorem kept : Search.Kept (Attached (τ := τ) (σ := σ)) where
  device hc _ := hc.congr rfl rfl
  retimed hc _ := hc.congr rfl rfl
  missed hc _ := hc.congr rfl rfl
  opened _ _ hopen := by
    intro h cycle hrunning
    obtain ⟨rfl, -⟩ := Loop.running.inj hrunning
    exact ⟨(Mock.Provider.isOpen_of_opened hopen).2.1, rfl⟩
  reconnecting hc _ := hc.congr rfl rfl
  connecting hc _ := hc.congr rfl rfl
  clearAway hc := hc.clearAway

end Attached

/-! ## what a connection owns -/

/-- The port is open because of the connection: nobody else holds it. -/
def Holds (c : Connection τ σ) (port : String) : Prop :=
  c.bench.provider.isOpen port = true ∧ c.bench.isHeld port = false

/-- The open ports are those that others hold and the port of the loop. -/
def Accounted (c : Connection τ σ) : Prop :=
  c.bench.Accounts (c.loop.handle?.map (·.port))

/-- The open ports are those that others hold and the port of the loop, which the connection
names. -/
structure Owns (c : Connection τ σ) : Prop where
  accounted : c.Accounted
  attached : c.Attached

/-- The loop, the devices and the name of the port are what they were. -/
structure Aside (c d : Connection τ σ) : Prop where
  loop : d.loop = c.loop
  bench : d.bench = c.bench
  activePort : d.activePort = c.activePort

theorem Routine.aside (h : c.Routine d) : c.Aside d := by
  rw [h.eq]
  exact ⟨rfl, rfl, rfl⟩

theorem handle?_of_down (hdown : c.isConnected = false) : c.loop.handle? = none := by
  unfold isConnected at hdown
  cases hloop : c.loop with
  | running h cycle => rw [hloop] at hdown; cases hdown
  | stopped parked => rfl
  | ended left => rfl

namespace Accounted

/-- A connection that is down has nothing open. -/
theorem of_down (hb : c.bench.Accounts none) (hdown : c.isConnected = false) : c.Accounted := by
  rwa [Accounted, handle?_of_down hdown]

theorem accounts_of_down (h : c.Accounted) (hdown : c.isConnected = false) :
    c.bench.Accounts none := by
  rwa [Accounted, handle?_of_down hdown] at h

theorem aside (h : c.Accounted) (haside : c.Aside d) : d.Accounted := by
  rwa [Accounted, haside.loop, haside.bench]

theorem clearAway (h : c.Accounted) : c.clearAway.Accounted := by
  unfold Connection.clearAway
  split
  next left hloop =>
    have haccounts := h
    rw [Accounted, hloop] at haccounts
    exact of_down haccounts rfl
  next => exact h

theorem applyTimeout (h : c.Accounted) : c.applyTimeout.Accounted := by
  unfold Connection.applyTimeout
  split
  next handle cycle timeout hloop hpending =>
    have hset : (c.bench.withProvider
        (c.bench.provider.setTimeout handle timeout).2).Accounts _ :=
      h.withProvider fun port => Mock.Provider.isOpen_setTimeout _ _ _
    exact hset
  next => exact h

variable [CustomCycle τ Mock.Line σ]

theorem runCycle [Reading τ] (h : c.Accounted) (hkeeps : KeepsOpen τ σ) (copies : Queues τ)
    (elapsed : List Duration) : (c.runCycle copies elapsed).2.Accounted := by
  cases hup : c.isConnected with
  | false =>
    rw [runCycle_of_down hup]
    exact h
  | true =>
    obtain ⟨handle, cycle, hloop⟩ := exists_loop_of_isConnected hup
    have hrun := runCycle_of_loop hloop copies elapsed
    have hkept := cycle.isOpen_run hkeeps elapsed
      ⟨c.line handle, copies.send, copies.receive, c.clock⟩
    dsimp only at hrun
    rw [hrun]
    have haccounts := h
    rw [Accounted, hloop] at haccounts
    refine haccounts.withProvider fun port => ?_
    refine Mock.Provider.isOpen_modify_of_keeps fun device hdevice => ?_
    rw [hkept]
    simp [line, hdevice]

/-- A search keeps the account: what does not open changes nothing, and what opens is given to a
loop. -/
theorem kept : Search.Kept (Accounted (τ := τ) (σ := σ)) where
  device h action := Mock.Bench.Accounts.act h action
  retimed h _ := h
  missed h hopen := Mock.Bench.Accounts.withProvider h fun _ =>
    Mock.Provider.isOpen_of_missed hopen
  opened h hdown hopen := ((h.accounts_of_down hdown).opened hopen).2
  reconnecting h _ := h
  connecting h _ := h
  clearAway h := h.clearAway

end Accounted

namespace Owns

theorem of_down (hb : c.bench.Accounts none) (hdown : c.isConnected = false) : c.Owns :=
  ⟨.of_down hb hdown, .of_down hdown⟩

/-- When the handle of the loop is closed, the connection has nothing open. -/
theorem closeHandle (h : c.Owns) {handle : Mock.Handle} {cycle : LoopCycle σ}
    (hloop : c.loop = .running handle cycle) : (c.closeHandle handle).bench.Accounts none := by
  have haccounts := h.accounted
  rw [Accounted, hloop] at haccounts
  exact haccounts.closed (h.attached handle cycle hloop).1

/-- What is held of a connection that owns what its loop holds. -/
theorem holds_iff (h : c.Owns) (port : String) :
    c.Holds port ↔ c.loop.handle?.map (·.port) = some port := by
  have hopen := h.accounted.isOpen_iff port
  constructor
  · intro hholds
    obtain hown | hheld := hopen.mp hholds.1
    · exact hown
    · rw [hholds.2] at hheld
      cases hheld
  · intro hown
    exact ⟨hopen.mpr (.inl hown), h.accounted.apart port hown⟩

theorem bringDown (h : c.Owns) (wasUp : Bool) (reason : DisconnectReason) :
    (c.bringDown wasUp reason).Owns := by
  refine of_down ?_ (c.isConnected_bringDown wasUp reason)
  unfold Connection.bringDown
  have haccounts := h.accounted
  cases hloop : c.loop with
  | stopped parked => rwa [Accounted, hloop] at haccounts
  | running handle cycle =>
    have hclosed := h.closeHandle hloop
    cases wasUp <;> exact hclosed
  | ended left =>
    rw [Accounted, hloop] at haccounts
    cases wasUp <;> exact haccounts

/-- The end of a turn: a loop that ends has closed its port. -/
theorem conclude (h : c.Owns) (result : Except CycleFault Unit) : (c.conclude result).2.Owns := by
  unfold Connection.conclude
  cases hloop : c.loop with
  | stopped parked => exact h
  | ended left => exact h
  | running handle cycle =>
    have hclosed := h.closeHandle hloop
    match result with
    | .ok () => exact h
    | .error (.failed e) => exact of_down hclosed rfl
    | .error .aborted => exact of_down hclosed rfl

end Owns

/-! ## steps -/

section

variable [Reading τ] [CustomCycle τ Mock.Line σ]

/-- What happens to a connection, step by step. -/
inductive Step : Connection τ σ → Connection τ σ → Prop
  /-- The candidates are tried, while incidents happen. -/
  | connect (s : Search τ σ) : Step s.conn s.connect.2.conn
  | reconnect (s : Search τ σ) (timeout : Option Duration) (elapsed : Nat → Duration)
      (scans : Nat) : Step s.conn (s.reconnect timeout elapsed scans).2.conn
  /-- The loop has stopped for somebody who waited for that. -/
  | bringDown (c : Connection τ σ) (wasUp : Bool) (reason : DisconnectReason) :
    Step c (c.bringDown wasUp reason)
  /-- Something happens on the side of the devices. -/
  | device (c : Connection τ σ) (action : Mock.DeviceAction) :
    Step c { c with bench := (c.bench.act action).2 }
  /-- The loop passes a timeout on to the port. -/
  | wake (c : Connection τ σ) : Step c c.applyTimeout
  /-- The cycle works on copies of the queues, in whatever state they were made. -/
  | work (c : Connection τ σ) (copies : Queues τ) (elapsed : List Duration) :
    Step c (c.runCycle copies elapsed).2
  /-- The turn is over, and so is the loop if its cycle failed or broke off. -/
  | conclude (c : Connection τ σ) (result : Except CycleFault Unit) :
    Step c (c.conclude result).2
  /-- Queues, settings, clock or log change. -/
  | aside {c d : Connection τ σ} (h : c.Aside d) : Step c d

/-- What may become of a connection. -/
def Course : Connection τ σ → Connection τ σ → Prop := Relation.ReflTransGen Step

/-- Each step leaves the loop that runs on the port that the connection names. -/
theorem Attached.step (hc : c.Attached) (hstep : Step c d) : d.Attached := by
  cases hstep with
  | connect s => exact Attached.kept.connect hc
  | reconnect s timeout elapsed scans => exact Attached.kept.reconnect hc timeout elapsed scans
  | bringDown _ wasUp reason => exact .of_down (c.isConnected_bringDown wasUp reason)
  | device _ action => exact hc.congr rfl rfl
  | wake => exact hc.applyTimeout
  | work _ copies elapsed => exact hc.runCycle copies elapsed
  | conclude _ result => exact hc.conclude result
  | aside haside => exact hc.congr haside.loop haside.activePort

theorem Attached.course (hc : c.Attached) (hcourse : c.Course d) : d.Attached := by
  induction hcourse with
  | refl => exact hc
  | tail _ hstep ih => exact ih.step hstep

/-- Each step keeps up what is owned. -/
theorem Owns.step (hkeeps : KeepsOpen τ σ) (h : c.Owns) (hstep : Step c d) : d.Owns := by
  refine ⟨?_, h.attached.step hstep⟩
  cases hstep with
  | connect s => exact Accounted.kept.connect h.accounted
  | reconnect s timeout elapsed scans =>
    exact Accounted.kept.reconnect h.accounted timeout elapsed scans
  | bringDown _ wasUp reason => exact (h.bringDown wasUp reason).accounted
  | device _ action => exact Mock.Bench.Accounts.act h.accounted action
  | wake => exact h.accounted.applyTimeout
  | work _ copies elapsed => exact h.accounted.runCycle hkeeps copies elapsed
  | conclude _ result => exact (h.conclude result).accounted
  | aside haside => exact h.accounted.aside haside

/-- Whatever becomes of a connection, it owns what its loop holds. -/
theorem Owns.course (hkeeps : KeepsOpen τ σ) (h : c.Owns) (hcourse : c.Course d) : d.Owns := by
  induction hcourse with
  | refl => exact h
  | tail _ hstep ih => exact ih.step hkeeps hstep

omit [Reading τ] [CustomCycle τ Mock.Line σ] in
theorem settle_aside (c : Connection τ σ) (report : CycleReport τ) :
    c.Aside (c.settle report) := by
  unfold settle
  split <;> exact ⟨rfl, rfl, rfl⟩

namespace Course

/-- A turn of the loop goes through its phases one after the other. -/
theorem turn (h : b.Course c) : b.Course c.turn.2 := by
  have hwork := (h.tail (.wake c)).tail (.work c.applyTimeout c.applyTimeout.toQueues [])
  rw [turn_eq]
  unfold turnDuring
  dsimp only
  cases hrun : c.applyTimeout.runCycle c.applyTimeout.toQueues [] with
  | mk report d =>
    rw [hrun] at hwork
    cases report with
    | none => exact hwork
    | some report => exact (hwork.tail (.aside (d.settle_aside report))).tail (.conclude _ _)

/-- What a scene does to its connection is a course. -/
theorem kept (c : Connection τ σ) : Scene.Kept c.Course where
  connect h := h.tail (.connect _)
  reconnect h timeout elapsed scans := h.tail (.reconnect _ timeout elapsed scans)
  disconnect h reason := h.tail (.bringDown _ _ reason)
  device h action := h.tail (.device _ action)
  clock h _ := h.tail (.aside ⟨rfl, rfl, rfl⟩)
  setTimeout h _ := h.tail (.aside ⟨rfl, rfl, rfl⟩)
  setSendInterval h _ := h.tail (.aside ⟨rfl, rfl, rfl⟩)
  applyTimeout h := h.tail (.wake _)
  turn h := h.turn
  sendValues h values options := h.tail (.aside (sendValues_routine _ values options).aside)
  receiveAt h offset := h.tail (.aside (receiveAt_routine _ offset).aside)

/-- Whatever is done in a scene, its connection goes through a course. -/
theorem scene (s : Scene τ σ) (actions : List (Action τ)) : s.conn.Course (s.run actions).conn :=
  (kept s.conn).run .refl actions

end Course

end

theorem owns_create {config : ConnectionConfig} {bench : Mock.Bench} {clock : Clock τ}
    {parked : Option (LoopCycle σ)} (hcreate : create config bench clock parked = .ok c)
    (hbench : bench.Accounts none) : c.Owns := by
  rw [create_eq hcreate]
  exact .of_down hbench rfl

variable [Reading τ] [CustomCycle τ Mock.Line σ]

/-- Let a connection be created on a bench on which nothing is open but what others hold, and
let anything happen to it.  If it is up, it holds one port open, the one that it names; if it is
down, it holds none.  When it is dropped, it holds none. -/
theorem holds_of_course (hkeeps : KeepsOpen τ σ) {config : ConnectionConfig} {bench : Mock.Bench}
    {clock : Clock τ} {parked : Option (LoopCycle σ)}
    (hcreate : create config bench clock parked = .ok c) (hbench : bench.Accounts none)
    (hcourse : c.Course d) :
    (d.isConnected = true → ∃ port, d.activePort = some port ∧
      ∀ name, d.Holds name ↔ name = port) ∧
    (d.isConnected = false → ∀ name, ¬d.Holds name) ∧
    ∀ name, ¬d.drop.Holds name := by
  have howns := (owns_create hcreate hbench).course hkeeps hcourse
  have hdown {e : Connection τ σ} (h : e.Owns) (he : e.isConnected = false) (name : String) :
      ¬e.Holds name := by
    rw [h.holds_iff, handle?_of_down he]
    exact nofun
  refine ⟨fun hup => ?_, hdown howns, ?_⟩
  · obtain ⟨handle, cycle, hloop⟩ := exists_loop_of_isConnected hup
    refine ⟨handle.port, (howns.attached handle cycle hloop).2, fun name => ?_⟩
    rw [howns.holds_iff, hloop]
    exact Option.some_inj.trans eq_comm
  · exact hdown (howns.bringDown _ .requested) (d.isConnected_bringDown _ .requested)

/-- Another one holds a candidate, the cycle breaks off, the port is pulled out, an attempt to come
up again fails, and during the next one the other candidate becomes free. -/
theorem holds_of_course_broken :
    ∃ c : Connection Float SampleCycle,
      create (.ofPorts ["A", "B"]) (.ofPorts ["A", "B"]) (.fixed 5.0) (some (.custom .fragile)) =
        .ok c ∧
      (Mock.Bench.ofPorts ["A", "B"]).Accounts none ∧
      let d := ((Scene.ofConnection c).run [.device (.hold "A"), .connect [],
        .send [.text "panic"] .default, .tick 1, .device (.unplug "B"),
        .reconnect none (some (.ofMillis 10)) [],
        .reconnect none none [(.attempt 4, .device (.release "A"))]]).conn
      c.Course d ∧ d.isConnected = true ∧ d.activePort = some "A" ∧
        (∀ name, d.Holds name ↔ name = "A") ∧ ∀ name, ¬d.drop.Holds name := by
  have hcreate : create (.ofPorts ["A", "B"]) (.ofPorts ["A", "B"]) (.fixed (5.0 : Float))
      (some (.custom SampleCycle.fragile)) = .ok _ := rfl
  refine ⟨_, hcreate, Mock.Bench.accounts_ofPorts _, ?_⟩
  intro d
  have hcourse : Course _ d := Course.scene (.ofConnection _) _
  have hup : d.isConnected = true := by decide +kernel
  have hport : d.activePort = some "A" := by decide +kernel
  obtain ⟨hheld, -, hdropped⟩ := holds_of_course SampleCycle.keepsOpen hcreate
    (Mock.Bench.accounts_ofPorts _) hcourse
  obtain ⟨port, hnamed, hholds⟩ := hheld hup
  obtain rfl : "A" = port := Option.some.inj (hport.symm.trans hnamed)
  exact ⟨hcourse, hup, hport, hholds, hdropped⟩

end Connection

end SerialLink
