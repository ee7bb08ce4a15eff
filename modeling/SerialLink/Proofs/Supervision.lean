import SerialLink.Proofs.Ownership

/-!
# SerialLink.Proofs.Supervision

A supervisor looks at a connection.

1. When nothing else happens meanwhile, a search opens the first candidate that can be opened
   (`Search.reconnect_of_find?`).
2. So a look takes down a connection whose port is no longer listed (`Connection.Removed`), and
   may bring up one that is down (`Connection.Restored`); whoever is not to bring connections up
   opens nothing (`Connection.OpensNothing`).  `Connection.poll_of_course` has all of this for
   any state that a connection can come to.
-/

namespace SerialLink

/-! ## the first candidate that can be opened -/

namespace Mock.Provider

variable {p : Provider} {port : String}

/-- The port can be opened now. -/
def isOpenable (p : Provider) (port : String) : Bool := (p.openFault? port).isNone

theorem openPort_of_isOpenable (hport : p.isOpenable port = true) (settings : PortSettings) :
    ∃ h q, p.openPort port settings = (.ok h, q) := by
  have hfault : p.openFault? port = none := Option.isNone_iff_eq_none.mp hport
  simp [openPort, hfault]

/-- An attempt to open a port that cannot be opened changes nothing for other attempts. -/
theorem openPort_of_not_isOpenable (hport : p.isOpenable port = false)
    (settings : PortSettings) :
    ∃ e q, p.openPort port settings = (.error e, q) ∧ q.isOpenable = p.isOpenable := by
  cases hfault : p.openFault? port with
  | none => simp [isOpenable, hfault] at hport
  | some fault =>
    refine ⟨⟨port, fault⟩, { p with attempts := port :: p.attempts }, ?_, rfl⟩
    rw [openPort, hfault]

end Mock.Provider

namespace Search

variable {τ σ : Type}

/-- If no incidents are to come, nothing happens at any moment. -/
theorem meet_of_quiet {s : Search τ σ} (hquiet : s.incidents = []) (m : Moment)
    (port : Option String) : s.meet m port = s := by
  simp [meet, due, hquiet]

theorem enter_of_quiet {s : Search τ σ} (hquiet : s.incidents = []) :
    s.enter = { s with passes := s.passes + 1 } :=
  meet_of_quiet (s := { s with passes := s.passes + 1 }) hquiet _ _

theorem approach_of_quiet {s : Search τ σ} (hquiet : s.incidents = []) (port : String) :
    s.approach port = { s with attempts := s.attempts + 1 } :=
  meet_of_quiet (s := { s with attempts := s.attempts + 1 }) hquiet _ _

/-- The first candidate that can be opened is opened, and only the devices change. -/
theorem firstOpen_of_find? (settings : PortSettings) {ports : List String} {s : Search τ σ}
    (hquiet : s.incidents = []) {port : String}
    (hfind : ports.find? s.conn.bench.provider.isOpenable = some port) :
    ∃ h s', firstOpen settings ports s = (some h, s') ∧ h.port = port ∧ s'.incidents = [] ∧
      ∃ p, s'.conn = s.conn.withProvider p ∧ p.isOpen port = true := by
  induction ports generalizing s with
  | nil => simp at hfind
  | cons candidate ports ih =>
    rw [firstOpen, attempt, approach_of_quiet hquiet]
    by_cases hopenable : s.conn.bench.provider.isOpenable candidate = true
    · obtain ⟨h, p, hopen⟩ := Mock.Provider.openPort_of_isOpenable hopenable settings
      obtain ⟨hport, -, -, hopened⟩ := Mock.Provider.isOpen_of_opened hopen
      have hfirst : candidate = port := by simpa [List.find?_cons, hopenable] using hfind
      subst hfirst
      simp only [hopen]
      exact ⟨h, _, rfl, hport, hquiet, p, rfl, (hopened candidate).mpr (.inl rfl)⟩
    · obtain ⟨e, p, hopen, hsame⟩ :=
        Mock.Provider.openPort_of_not_isOpenable (Bool.eq_false_iff.mpr hopenable) settings
      have hlater : ports.find? p.isOpenable = some port := by
        simpa [List.find?_cons, hopenable, hsame] using hfind
      simp only [hopen]
      exact ih (s := { s with attempts := s.attempts + 1 }.change (·.withProvider p)) hquiet hlater

variable [CustomCycle τ Mock.Line σ]

/-- A scan starts the loop on the first candidate that can be opened. -/
theorem scan_of_find? {s : Search τ σ} (hquiet : s.incidents = []) {port : String}
    (hfind : s.conn.config.ports.find? s.conn.bench.provider.isOpenable = some port) :
    ∃ s' h p, s.scan = (true, s') ∧ s'.conn = (s.conn.withProvider p).start h ∧ h.port = port ∧
      p.isOpen port = true := by
  obtain ⟨h, found, hfirst, hport, hstill, p, hconn, hopen⟩ :=
    firstOpen_of_find? (s := { s with passes := s.passes + 1 }) s.conn.openSettings hquiet hfind
  refine ⟨found.change (·.start h), h, p, ?_, ?_, hport, hopen⟩
  · simp only [scan, enter_of_quiet hquiet, hfirst, settle, meet_of_quiet hstill]
  · simp only [change, hconn]

/-- If a candidate can be opened, the first scan brings the connection up, and there is no other. -/
theorem reconnect_of_find? {s : Search τ σ} (hquiet : s.incidents = [])
    (hdown : s.conn.isConnected = false) {port : String}
    (hfind : s.conn.config.ports.find? s.conn.bench.provider.isOpenable = some port)
    (timeout : Option Duration) (elapsed : Nat → Duration) (scans : Nat) :
    ∃ h p, h.port = port ∧ p.isOpen port = true ∧
      (s.reconnect timeout elapsed (scans + 1)).2.conn =
        { (({ s.conn.clearAway with connecting := true }.publish
          (.reconnecting 1)).withProvider p).start h with connecting := false } := by
  have hfind' : s.starting.conn.config.ports.find? s.starting.conn.bench.provider.isOpenable =
      some port := by
    rw [starting_config, starting_bench, hfind]
  obtain ⟨s', h, p, hscan, hconn, hport, hopen⟩ := scan_of_find?
    (s := s.starting.change (·.publish (.reconnecting 1))) hquiet hfind'
  refine ⟨h, p, hport, hopen, ?_⟩
  rw [reconnect_of_down hdown, retry]
  simp only [nextPass_zero, hscan, leave, finished]
  simp only [change, hconn]
  rfl

end Search

/-! ## one look -/

namespace Connection

variable {τ σ : Type} {b c d : Connection τ σ}

/-- The connection was taken down because its port was not listed: that is published, and nothing
else is; the port is closed, and the queues are empty. -/
structure Removed (c : Connection τ σ) (port : String) (d : Connection τ σ) : Prop where
  isConnected : d.isConnected = false
  log : d.events.toList = c.events.toList ++ [.disconnected port .portRemoved]
  isOpen : d.bench.provider.isOpen port = false
  pendingSends : d.pendingSends = 0
  receivedCount : d.receivedCount = 0

/-- The connection was brought up at the first attempt: the port is open, and the queues are
empty. -/
structure Restored (c : Connection τ σ) (port : String) (d : Connection τ σ) : Prop where
  isConnected : d.isConnected = true
  activePort : d.activePort = some port
  log : d.events.toList = c.events.toList ++ [.reconnecting 1, .connected port]
  isOpen : d.bench.provider.isOpen port = true
  pendingSends : d.pendingSends = 0
  receivedCount : d.receivedCount = 0

/-- No port was opened, none was to be opened, and at most an end is published. -/
structure OpensNothing (c d : Connection τ σ) : Prop where
  openAttempts : d.bench.provider.openAttempts = c.bench.provider.openAttempts
  isOpen : ∀ port, d.bench.provider.isOpen port = true → c.bench.provider.isOpen port = true
  log : ∃ new : List Event, d.events.toList = c.events.toList ++ new ∧
    ∀ e ∈ new, e.kind = .disconnected

theorem OpensNothing.refl (c : Connection τ σ) : c.OpensNothing c where
  openAttempts := rfl
  isOpen _ h := h
  log := ⟨[], by simp, by simp⟩

/-- To take down a connection that is up closes the port that it names, and opens none. -/
theorem disconnect_of_attached (hc : c.Attached) (hup : c.isConnected = true) :
    ∃ port, c.activePort = some port ∧ c.Removed port (c.disconnect .portRemoved) ∧
      c.OpensNothing (c.disconnect .portRemoved) := by
  obtain ⟨h, cycle, hloop⟩ := exists_loop_of_isConnected hup
  obtain ⟨hfresh, hport⟩ := hc h cycle hloop
  have hlog := (disconnect_of_up hup .portRemoved).2
  rw [hport, Option.getD_some] at hlog
  have heq : c.disconnect .portRemoved = { (c.closeHandle h).clearQueues with
      loop := .stopped (some cycle), events := (c.disconnect .portRemoved).events } := by
    rw [hlog]
    simp [disconnect, bringDown, hup, hloop, publish, clearQueues, closeHandle, withProvider,
      hport]
  have hclose (name : String) :
      (c.disconnect .portRemoved).bench.provider.isOpen name = true ↔
        c.bench.provider.isOpen name = true ∧ name ≠ h.port := by
    rw [heq]
    exact Mock.Provider.isOpen_close hfresh
  refine ⟨h.port, hport, ?_, ?_⟩
  · refine ⟨c.isConnected_bringDown _ .portRemoved, ?_, ?_, ?_, ?_⟩
    · rw [hlog, EventLog.toList_publish]
    · have hnot := mt (hclose h.port).mp (by simp)
      simpa using hnot
    · rw [heq]
      rfl
    · rw [heq]
      rfl
  · refine ⟨?_, fun name hopen => ((hclose name).mp hopen).1,
      [.disconnected h.port .portRemoved], ?_, ?_⟩
    · rw [heq]
      show (c.bench.provider.close h).2.openAttempts = c.bench.provider.openAttempts
      simp [Mock.Provider.close, hfresh, Mock.Provider.modify, Mock.Provider.openAttempts]
    · rw [hlog, EventLog.toList_publish]
    · simp [Event.kind]

variable [Reading τ] [CustomCycle τ Mock.Line σ]

/-- A look at a connection that is up. -/
theorem poll_of_attached (hc : c.Attached) (hup : c.isConnected = true) (v : Supervision)
    (elapsed : Nat → Duration) (scans : Nat) :
    ∃ port, c.activePort = some port ∧
      ((c.perform (.poll [] v elapsed scans) = c ∧ c.portIsListed port = true) ∨
        (c.portIsListed port = false ∧ c.Removed port (c.perform (.poll [] v elapsed scans)) ∧
          c.OpensNothing (c.perform (.poll [] v elapsed scans)))) := by
  obtain ⟨port, hport, hremoved, hnothing⟩ := disconnect_of_attached hc hup
  refine ⟨port, hport, ?_⟩
  rw [perform_poll_of_up hup, checkPort, hport]
  by_cases hlisted : c.portIsListed port = true
  · exact .inl ⟨if_pos hlisted, hlisted⟩
  · simp only [if_neg hlisted]
    exact .inr ⟨by simpa using hlisted, hremoved, hnothing⟩

/-- A look at a connection that is down and is to be brought up, when a candidate can be opened. -/
theorem poll_of_find? (hdown : c.isConnected = false) {v : Supervision}
    (hauto : v.autoReconnect = true) {port : String}
    (hfind : c.config.ports.find? c.bench.provider.isOpenable = some port)
    (elapsed : Nat → Duration) (scans : Nat) :
    c.Restored port (c.perform (.poll [] v elapsed (scans + 1))) := by
  have hpoll : c.perform (.poll [] v elapsed (scans + 1)) =
      ((Search.begin c []).reconnect (some v.reconnectTimeout) elapsed (scans + 1)).2.conn :=
    (perform_poll_of_down hdown [] v elapsed (scans + 1)).trans (if_pos hauto)
  obtain ⟨h, p, hport, hopen, hconn⟩ := Search.reconnect_of_find? (s := Search.begin c [])
    rfl hdown hfind (some v.reconnectTimeout) elapsed scans
  rw [hpoll, hconn]
  subst hport
  refine ⟨rfl, rfl, ?_, hopen, rfl, rfl⟩
  simp [start, publish, clearQueues, withProvider, Search.begin, events_clearAway]

/-- Let anything have happened to a connection since it was created, and let a supervisor look at
it, while nothing else happens.  If the connection was up and is taken down, its port was not
listed, its end is published once and for that reason, the port is closed and the queues are
empty; if it stays up, it is as it was, and its port is listed.  A supervisor that is not to
bring connections up opens nothing and publishes no attempt.  One that is to do so brings a
connection that was down up on the first candidate that can be opened, with empty queues. -/
theorem poll_of_course {config : ConnectionConfig} {bench : Mock.Bench} {clock : Clock τ}
    {parked : Option (LoopCycle σ)} (hcreate : create config bench clock parked = .ok b)
    (hcourse : b.Course c) (v : Supervision) (elapsed : Nat → Duration) (scans : Nat) :
    let d := c.perform (.poll [] v elapsed (scans + 1))
    b.Course d ∧
      (c.isConnected = true → ∃ port, c.activePort = some port ∧
        (d.isConnected = false → c.portIsListed port = false ∧ c.Removed port d) ∧
        (d.isConnected = true → d = c ∧ d.portIsListed port = true)) ∧
      (v.autoReconnect = false → c.OpensNothing d) ∧
      (v.autoReconnect = true → c.isConnected = false → ∀ port,
        c.config.ports.find? c.bench.provider.isOpenable = some port → c.Restored port d) := by
  intro d
  have hattached : c.Attached := (Attached.create hcreate).course hcourse
  have hcourse' : b.Course d :=
    (Course.kept b).poll (s := Search.begin c []) hcourse v elapsed (scans + 1)
  refine ⟨hcourse', ?_, ?_, ?_⟩
  · intro hup
    obtain ⟨port, hport, ⟨hsame, hlisted⟩ | ⟨hgone, hremoved, -⟩⟩ :=
      poll_of_attached hattached hup v elapsed (scans + 1)
    · refine ⟨port, hport, fun hdown => ?_, fun _ => ⟨hsame, ?_⟩⟩
      · rw [show d = c from hsame, hup] at hdown
        contradiction
      · rwa [show d = c from hsame]
    · refine ⟨port, hport, fun _ => ⟨hgone, hremoved⟩, fun hstill => ?_⟩
      have hdown : d.isConnected = false := hremoved.isConnected
      rw [hdown] at hstill
      contradiction
  · intro hauto
    cases hup : c.isConnected with
    | true =>
      obtain ⟨port, -, ⟨hsame, -⟩ | ⟨-, -, hnothing⟩⟩ :=
        poll_of_attached hattached hup v elapsed (scans + 1)
      · rw [show d = c from hsame]
        exact .refl c
      · exact hnothing
    | false =>
      have hsame : d = c := by
        simp only [d, perform_poll_of_down hup, hauto, Bool.false_eq_true, if_false]
      rw [hsame]
      exact .refl c
  · intro hauto hdown port hfind
    exact poll_of_find? hdown hauto hfind elapsed scans

/-- The port is pulled out, which a supervisor sees before the loop does; the next look finds
another candidate. -/
theorem poll_of_course_unplugged :
    ∃ b : Connection Float SampleCycle,
      create (.ofPorts ["A", "B"]) (.ofPorts ["A", "B"]) (.fixed 5.0) none = .ok b ∧
      let c := ((Scene.ofConnection b).run [.connect [], .device (.unplug "A")]).conn
      let d := c.perform (.poll [] .default (fun _ => .zero) 1)
      let e := d.perform (.poll [] { Supervision.default with autoReconnect := true }
        (fun _ => .zero) 1)
      b.Course c ∧ c.isConnected = true ∧ c.activePort = some "A" ∧ c.Removed "A" d ∧
        c.OpensNothing d ∧ d.Restored "B" e := by
  have hcreate : create (.ofPorts ["A", "B"]) (.ofPorts ["A", "B"]) (.fixed (5.0 : Float))
      (none : Option (LoopCycle SampleCycle)) = .ok _ := rfl
  refine ⟨_, hcreate, ?_⟩
  intro c d e
  have hcourse : Course _ c := Course.scene (.ofConnection _) _
  have hup : c.isConnected = true := by decide +kernel
  have hport : c.activePort = some "A" := by decide +kernel
  have hdown : d.isConnected = false := by decide +kernel
  have hfind : d.config.ports.find? d.bench.provider.isOpenable = some "B" := by decide +kernel
  obtain ⟨hcourse', hlook, hnothing, -⟩ :=
    poll_of_course hcreate hcourse .default (fun _ => .zero) 0
  obtain ⟨port, hnamed, hremoved, -⟩ := hlook hup
  obtain rfl : "A" = port := Option.some.inj (hport.symm.trans hnamed)
  have hrestored := (poll_of_course hcreate hcourse'
    { Supervision.default with autoReconnect := true } (fun _ => .zero) 0).2.2.2
  exact ⟨hcourse, hup, hport, (hremoved hdown).2, hnothing rfl, hrestored rfl hdown "B" hfind⟩

end Connection

end SerialLink
