import SerialLink.Connection.Supervision

/-!
# SerialLink.Proofs.Search

What a search does to its connection.

1. Meanwhile others change the devices and the timeout (`Connection.Disturbed`).  Trying
   candidates changes the devices and publishes that candidates are tried, and nothing else
   (`Connection.Scanned`).
2. Before that, a loop that ended on its own is cleared away; after that, a loop is started
   if a port was opened (`Connection.Searched`).  To connect and to reconnect are searches
   (`Search.connect_searched`, `Search.reconnect_searched`), and they succeed exactly if a
   loop is started.  They leave a connection that is up as it is (`Search.connect_refused`).
3. What each step of a search keeps, the search keeps (`Search.Kept`).
-/

namespace SerialLink

/-! ## candidates -/

namespace Connection

variable {τ σ : Type}

theorem setTimeout_of_down {c : Connection τ σ} (hdown : c.isConnected = false)
    (timeout : Option Duration) : c.setTimeout timeout = { c with timeout := timeout } := by
  rw [setTimeout, hdown]
  rfl

/-- The second connection is the first after others have changed the devices and the timeout. -/
structure Disturbed (c d : Connection τ σ) : Prop where
  eq : d = { c with
    bench := d.bench
    timeout := d.timeout
    pendingTimeout := d.pendingTimeout }
  /-- A timeout that is set while the connection is down is not left for a loop. -/
  pendingTimeout : c.isConnected = false → d.pendingTimeout = c.pendingTimeout

namespace Disturbed

variable {b c d : Connection τ σ}

theorem isConnected (h : c.Disturbed d) : d.isConnected = c.isConnected := by
  rw [h.eq]
  rfl

theorem events (h : c.Disturbed d) : d.events = c.events := by
  rw [h.eq]

theorem refl (c : Connection τ σ) : c.Disturbed c :=
  ⟨rfl, fun _ => rfl⟩

theorem trans (h : b.Disturbed c) (h' : c.Disturbed d) : b.Disturbed d := by
  have hstill := h.isConnected
  obtain ⟨heq, hpending⟩ := h
  obtain ⟨heq', hpending'⟩ := h'
  refine ⟨?_, fun hdown => ?_⟩
  · rw [heq] at heq'
    exact heq'
  · rw [hpending' (hstill.trans hdown), hpending hdown]

/-- The devices change. -/
theorem bench (c : Connection τ σ) (b : Mock.Bench) : c.Disturbed { c with bench := b } :=
  ⟨rfl, fun _ => rfl⟩

/-- The timeout is set. -/
theorem setTimeout (c : Connection τ σ) (timeout : Option Duration) :
    c.Disturbed (c.setTimeout timeout) :=
  ⟨rfl, fun hdown => by rw [setTimeout_of_down hdown]⟩

end Disturbed

/-- The second connection is the first after candidates were tried, of which none opened. -/
structure Scanned (c d : Connection τ σ) : Prop where
  eq : d = { c with
    bench := d.bench
    connecting := d.connecting
    events := d.events
    timeout := d.timeout
    pendingTimeout := d.pendingTimeout }
  events : ∃ tried : List Event, (∀ e ∈ tried, e.kind = .reconnecting) ∧
    d.events.newestFirst = tried ++ c.events.newestFirst
  pendingTimeout : c.isConnected = false → d.pendingTimeout = c.pendingTimeout

namespace Scanned

variable {b c d : Connection τ σ}

theorem isConnected (h : c.Scanned d) : d.isConnected = c.isConnected := by
  rw [h.eq]
  rfl

theorem clock (h : c.Scanned d) : d.clock = c.clock := by
  rw [h.eq]

theorem refl (c : Connection τ σ) : c.Scanned c :=
  ⟨rfl, ⟨[], fun _ h => absurd h List.not_mem_nil, rfl⟩, fun _ => rfl⟩

theorem trans (h : b.Scanned c) (h' : c.Scanned d) : b.Scanned d := by
  have hstill := h.isConnected
  obtain ⟨heq, ⟨tried, hkind, hlog⟩, hpending⟩ := h
  obtain ⟨heq', ⟨tried', hkind', hlog'⟩, hpending'⟩ := h'
  refine ⟨?_, ⟨tried' ++ tried, ?_, ?_⟩, fun hdown => ?_⟩
  · rw [heq] at heq'
    exact heq'
  · intro e he
    cases List.mem_append.mp he with
    | inl hnew => exact hkind' e hnew
    | inr hold => exact hkind e hold
  · rw [hlog', hlog, List.append_assoc]
  · rw [hpending' (hstill.trans hdown), hpending hdown]

theorem of_disturbed (h : c.Disturbed d) : c.Scanned d where
  eq := by
    rw [h.eq]
  events := ⟨[], fun _ h => absurd h List.not_mem_nil, congrArg EventLog.newestFirst h.events⟩
  pendingTimeout := h.pendingTimeout

/-- It is noted whether candidates are being opened. -/
theorem connecting (c : Connection τ σ) (b : Bool) : c.Scanned { c with connecting := b } :=
  ⟨rfl, ⟨[], fun _ h => absurd h List.not_mem_nil, rfl⟩, fun _ => rfl⟩

/-- It is published that the candidates are tried. -/
theorem reconnecting (c : Connection τ σ) (n : UInt32) :
    c.Scanned (c.publish (.reconnecting n)) :=
  ⟨rfl, ⟨[.reconnecting n], fun _ h => List.mem_singleton.mp h ▸ rfl, rfl⟩, fun _ => rfl⟩

end Scanned

end Connection

namespace Search

variable {τ σ : Type}

theorem happen_disturbed (port : Option String) (s : Search τ σ) (i : Incident) :
    s.conn.Disturbed (s.happen port i).conn := by
  cases i with
  | device action => exact .bench s.conn _
  | sighting => exact .refl s.conn
  | setTimeout timeout => exact .setTimeout s.conn timeout

theorem meet_disturbed (s : Search τ σ) (m : Moment) (port : Option String) :
    s.conn.Disturbed (s.meet m port).conn :=
  List.foldlRecOn (motive := fun t => s.conn.Disturbed t.conn) (s.due m) (happen port)
    (.refl s.conn) fun t h i _ => h.trans (t.happen_disturbed port i)

theorem enter_disturbed (s : Search τ σ) : s.conn.Disturbed s.enter.conn :=
  meet_disturbed { s with passes := s.passes + 1 } _ _

theorem approach_disturbed (s : Search τ σ) (port : String) :
    s.conn.Disturbed (s.approach port).conn :=
  meet_disturbed { s with attempts := s.attempts + 1 } _ _

theorem settle_disturbed (s : Search τ σ) (h : Mock.Handle) :
    s.conn.Disturbed (s.settle h).conn :=
  s.meet_disturbed _ _

theorem tried_disturbed (s : Search τ σ) (port : String) (p : Mock.Provider) :
    s.conn.Disturbed ((s.approach port).change (·.withProvider p)).conn :=
  (s.approach_disturbed port).trans (.bench _ _)

theorem attempt_disturbed (s : Search τ σ) (port : String) (settings : PortSettings) :
    s.conn.Disturbed (s.attempt port settings).2.conn :=
  s.tried_disturbed port _

theorem firstOpen_disturbed (settings : PortSettings) (ports : List String) (s : Search τ σ) :
    s.conn.Disturbed (firstOpen settings ports s).2.conn := by
  induction ports generalizing s with
  | nil => exact .refl s.conn
  | cons port ports ih =>
    have hattempt := s.attempt_disturbed port settings
    unfold firstOpen
    cases h : s.attempt port settings with
    | mk opened s' =>
      rw [h] at hattempt
      cases opened with
      | some handle => exact hattempt
      | none => exact hattempt.trans (ih s')

/-- When a call is over, it is only noted whether candidates are still being opened. -/
theorem conn_leave (s : Search τ σ) (v : Verdict) :
    (s.leave v).conn = { s.conn with connecting := v.isBrokenOff && s.conn.connecting } := by
  cases v <;> rfl

variable [CustomCycle τ Mock.Line σ]

/-! ## scans -/

/-- The second connection is the first after a search; the answer tells whether a loop was
started. -/
inductive Looked (c : Connection τ σ) : Bool → Connection τ σ → Prop
  | missed {d : Connection τ σ} (h : c.Scanned d) : Looked c false d
  | opened {d : Connection τ σ} (h : c.Scanned d) (handle : Mock.Handle) :
    Looked c true (d.start handle)

theorem Looked.of_scanned {c d e : Connection τ σ} {opened : Bool} (h : c.Scanned d)
    (h' : Looked d opened e) : Looked c opened e := by
  cases h' with
  | missed hd => exact .missed (h.trans hd)
  | opened hd handle => exact .opened (h.trans hd) handle

/-- It is noted that no candidates are being opened any more. -/
theorem Looked.connecting {c d : Connection τ σ} {opened : Bool} (h : Looked c opened d)
    (b : Bool) : Looked c opened { d with connecting := b } := by
  cases h with
  | missed hd => exact .missed (hd.trans (.connecting _ b))
  | opened hd handle => exact .opened (hd.trans (.connecting _ b)) handle

theorem Looked.leave {c : Connection τ σ} {s : Search τ σ} {opened : Bool}
    (h : Looked c opened s.conn) (v : Verdict) : Looked c opened (s.leave v).conn := by
  rw [conn_leave]
  exact h.connecting _

theorem scan_looked (s : Search τ σ) : Looked s.conn s.scan.1 s.scan.2.conn := by
  have h := firstOpen_disturbed s.enter.conn.openSettings s.enter.conn.config.ports s.enter
  unfold scan
  dsimp only
  cases hopen : firstOpen s.enter.conn.openSettings s.enter.conn.config.ports s.enter with
  | mk opened s' =>
    rw [hopen] at h
    have hdisturbed := s.enter_disturbed.trans h
    cases opened with
    | some handle =>
      exact .opened (.of_disturbed (hdisturbed.trans (s'.settle_disturbed handle))) handle
    | none => exact .missed (.of_disturbed hdisturbed)

/-- The answer is that a port was opened. -/
def succeeded : Verdict → Bool
  | .returned (.ok ()) => true
  | _ => false

theorem retry_looked (timeout : Option Duration) (elapsed : Nat → Duration) (scans : Nat)
    (made : UInt32) (s : Search τ σ) :
    Looked s.conn (succeeded (retry timeout elapsed scans made s).1)
      (retry timeout elapsed scans made s).2.conn := by
  induction scans generalizing made s with
  | zero => exact .missed (.refl s.conn)
  | succ scans ih =>
    unfold retry
    cases nextPass made with
    | none => exact .missed (.refl s.conn)
    | some pass =>
      have hscan := (s.change (·.publish (.reconnecting pass))).scan_looked
      have hlooked := Looked.of_scanned (.reconnecting s.conn pass) hscan
      dsimp only
      cases h : (s.change (·.publish (.reconnecting pass))).scan with
      | mk opened s' =>
        rw [h] at hlooked
        cases opened with
        | true => exact hlooked
        | false =>
          dsimp only
          split
          · exact hlooked
          · cases hlooked with
            | missed hmissed => exact Looked.of_scanned hmissed (ih pass s')

end Search

/-! ## searches -/

/-- The second connection is the first after an attempt to bring it up; the answer tells
whether a loop was started. -/
inductive Connection.Searched {τ σ : Type} [CustomCycle τ Mock.Line σ] (c : Connection τ σ) :
    Bool → Connection τ σ → Prop
  /-- It is up already. -/
  | refused (h : c.isConnected = true) : Searched c false c
  /-- No candidate opened. -/
  | missed (h : c.isConnected = false) {d : Connection τ σ} (hd : c.clearAway.Scanned d) :
    Searched c false d
  /-- A candidate opened. -/
  | opened (h : c.isConnected = false) {d : Connection τ σ} (hd : c.clearAway.Scanned d)
    (handle : Mock.Handle) : Searched c true (d.start handle)

namespace Search

variable {τ σ : Type}

/-- Clearing away does not bring a connection up or down. -/
theorem isConnected_clearAway (c : Connection τ σ) :
    c.clearAway.isConnected = c.isConnected := by
  unfold Connection.clearAway Connection.isConnected
  cases h : c.loop <;> simp [h, Loop.isRunning]

theorem clock_clearAway (c : Connection τ σ) : c.clearAway.clock = c.clock := by
  unfold Connection.clearAway
  split <;> rfl

theorem clearAway_of_isConnected {c : Connection τ σ} (h : c.isConnected = true) :
    c.clearAway = c := by
  unfold Connection.clearAway
  unfold Connection.isConnected at h
  cases hloop : c.loop with
  | ended left => rw [hloop] at h; cases h
  | stopped parked => rfl
  | running handle cycle => rfl

/-- The search of a connection that is about to try its candidates. -/
def starting (s : Search τ σ) : Search τ σ :=
  s.change fun c => { c.clearAway with connecting := true }

theorem unlessConnected_of_up {α : Type} {s : Search τ σ} (hup : s.conn.isConnected = true)
    (refuse : ConnectionError → α) (look : Search τ σ → α × Search τ σ) :
    s.unlessConnected refuse look = (refuse .alreadyConnected, s) := by
  have hsame : s.change Connection.clearAway = s := by
    rw [change, clearAway_of_isConnected hup]
  dsimp only [unlessConnected]
  rw [hsame, if_pos hup]

theorem unlessConnected_of_down {α : Type} {s : Search τ σ} (hdown : s.conn.isConnected = false)
    (refuse : ConnectionError → α) (look : Search τ σ → α × Search τ σ) :
    s.unlessConnected refuse look = look s.starting := by
  have hcleared : (s.change Connection.clearAway).conn.isConnected ≠ true := by
    rw [change, isConnected_clearAway, hdown]
    exact Bool.false_ne_true
  rw [unlessConnected, if_neg hcleared]
  rfl

@[simp] theorem nextPass_zero : nextPass 0 = some 1 := rfl

theorem starting_config (s : Search τ σ) : s.starting.conn.config = s.conn.config := by
  show s.conn.clearAway.config = _
  unfold Connection.clearAway
  split <;> rfl

theorem starting_bench (s : Search τ σ) : s.starting.conn.bench = s.conn.bench := by
  show s.conn.clearAway.bench = _
  unfold Connection.clearAway
  split <;> rfl

theorem starting_isConnected (s : Search τ σ) :
    s.starting.conn.isConnected = s.conn.isConnected :=
  isConnected_clearAway s.conn

variable [CustomCycle τ Mock.Line σ]

/-- The candidates of a connection that is down are tried once. -/
theorem connect_of_down {s : Search τ σ} (hdown : s.conn.isConnected = false) :
    s.connect = (if s.starting.scan.1 then .ok ()
      else .error (.noPortAvailable s.starting.scan.2.conn.config.ports),
      s.starting.scan.2.finished) := by
  rw [connect, unlessConnected_of_down hdown]

/-- The candidates of a connection that is down are tried again and again. -/
theorem reconnect_of_down {s : Search τ σ} (hdown : s.conn.isConnected = false)
    (timeout : Option Duration) (elapsed : Nat → Duration) (scans : Nat) :
    let r := retry timeout elapsed scans 0 s.starting
    s.reconnect timeout elapsed scans = (r.1, r.2.leave r.1) := by
  rw [reconnect, unlessConnected_of_down hdown]

theorem Looked.searched {c d : Connection τ σ} {opened : Bool} (hdown : c.isConnected = false)
    (h : Looked c.clearAway opened d) : c.Searched opened d := by
  cases h with
  | missed hd => exact .missed hdown hd
  | opened hd handle => exact .opened hdown hd handle

/-- A search that is made unless the connection is up. -/
theorem unlessConnected_searched {α : Type} (s : Search τ σ) (refuse : ConnectionError → α)
    (look : Search τ σ → α × Search τ σ) (success : α → Bool)
    (hrefuse : ∀ e, success (refuse e) = false)
    (hlook : ∀ s : Search τ σ, Looked s.conn (success (look s).1) (look s).2.conn) :
    s.conn.Searched (success (s.unlessConnected refuse look).1)
      (s.unlessConnected refuse look).2.conn := by
  cases hup : s.conn.isConnected with
  | true =>
    rw [unlessConnected_of_up hup, hrefuse]
    exact .refused hup
  | false =>
    rw [unlessConnected_of_down hup]
    exact Looked.searched hup (.of_scanned (.connecting s.conn.clearAway true) (hlook s.starting))

/-- To connect is a search, which succeeds if a loop is started. -/
theorem connect_searched (s : Search τ σ) :
    s.conn.Searched (succeeded (.returned s.connect.1)) s.connect.2.conn := by
  refine unlessConnected_searched s .error _ (fun r => succeeded (.returned r)) (fun _ => rfl) ?_
  intro s
  have h := s.scan_looked
  cases hscan : s.scan with
  | mk opened s' =>
    rw [hscan] at h
    cases opened with
    | true => exact h.connecting false
    | false => exact h.connecting false

/-- To reconnect is a search, which succeeds if a loop is started. -/
theorem reconnect_searched (s : Search τ σ) (timeout : Option Duration)
    (elapsed : Nat → Duration) (scans : Nat) :
    s.conn.Searched (succeeded (s.reconnect timeout elapsed scans).1)
      (s.reconnect timeout elapsed scans).2.conn :=
  unlessConnected_searched s _ _ succeeded (fun _ => rfl) fun s =>
    (retry_looked timeout elapsed scans 0 s).leave _

end Search

namespace Connection

variable {τ σ : Type} [CustomCycle τ Mock.Line σ] {c d : Connection τ σ}

theorem Searched.opened_of_up {opened : Bool} (h : c.Searched opened d)
    (hdown : c.isConnected = false) (hup : d.isConnected = true) : opened = true := by
  cases h with
  | refused => rw [hup] at hdown; cases hdown
  | missed _ hscan =>
    rw [hscan.isConnected, Search.isConnected_clearAway, hdown] at hup
    cases hup
  | opened => rfl

/-- A search leaves a connection that is up as it is. -/
theorem Searched.eq_of_up {opened : Bool} (h : c.Searched opened d) (hup : c.isConnected = true) :
    d = c := by
  cases h with
  | refused => rfl
  | missed hdown => rw [hup] at hdown; cases hdown
  | opened hdown => rw [hup] at hdown; cases hdown

end Connection

namespace Search

variable {τ σ : Type} [CustomCycle τ Mock.Line σ]

omit [CustomCycle τ Mock.Line σ] in
/-- A search that answers that the connection is up already has left it as it is, and nothing has
happened meanwhile. -/
theorem unlessConnected_refused {α : Type} {s : Search τ σ} {refuse : ConnectionError → α}
    {look : Search τ σ → α × Search τ σ}
    (hlook : ∀ s : Search τ σ, (look s).1 ≠ refuse .alreadyConnected)
    (hrefused : (s.unlessConnected refuse look).1 = refuse .alreadyConnected) :
    (s.unlessConnected refuse look).2 = s := by
  cases hup : s.conn.isConnected with
  | true => rw [unlessConnected_of_up hup]
  | false =>
    rw [unlessConnected_of_down hup] at hrefused
    exact absurd hrefused (hlook s.starting)

theorem connect_refused {s : Search τ σ} (hrefused : s.connect.1 = .error .alreadyConnected) :
    s.connect.2 = s := by
  refine unlessConnected_refused (fun s => ?_) hrefused
  cases hscan : s.scan with
  | mk opened s' => cases opened <;> exact nofun

theorem retry_not_refused (timeout : Option Duration) (elapsed : Nat → Duration) (scans : Nat)
    (made : UInt32) (s : Search τ σ) :
    (retry timeout elapsed scans made s).1 ≠ .returned (.error .alreadyConnected) := by
  induction scans generalizing made s with
  | zero => exact nofun
  | succ scans ih =>
    unfold retry
    cases nextPass made with
    | none => exact nofun
    | some pass =>
      dsimp only
      cases (s.change (·.publish (.reconnecting pass))).scan with
      | mk opened s' =>
        cases opened with
        | true => exact nofun
        | false =>
          dsimp only
          split
          · exact nofun
          · exact ih pass s'

theorem reconnect_refused {s : Search τ σ} {timeout : Option Duration} {elapsed : Nat → Duration}
    {scans : Nat}
    (hrefused : (s.reconnect timeout elapsed scans).1 = .returned (.error .alreadyConnected)) :
    (s.reconnect timeout elapsed scans).2 = s :=
  unlessConnected_refused (retry_not_refused timeout elapsed scans 0) hrefused

/-! ## what a search keeps -/

/-- What a search keeps, whatever comes of it: what each of its steps keeps.  A port that was
opened is given a loop at once. -/
structure Kept (P : Connection τ σ → Prop) : Prop where
  /-- Something happens on the side of the devices. -/
  device {c : Connection τ σ} (h : P c) (action : Mock.DeviceAction) :
    P { c with bench := (c.bench.act action).2 }
  /-- The timeout changes. -/
  retimed {c : Connection τ σ} (h : P c) (timeout : Option Duration) :
    P { c with timeout := timeout }
  /-- A port does not open. -/
  missed {c : Connection τ σ} {port : String} {settings : PortSettings} {e : Mock.OpenError}
    {p : Mock.Provider} (h : P c)
    (hopen : c.bench.provider.openPort port settings = (.error e, p)) : P (c.withProvider p)
  /-- A port opens. -/
  opened {c : Connection τ σ} {port : String} {settings : PortSettings} {handle : Mock.Handle}
    {p : Mock.Provider} (h : P c) (hdown : c.isConnected = false)
    (hopen : c.bench.provider.openPort port settings = (.ok handle, p)) :
    P ((c.withProvider p).start handle)
  reconnecting {c : Connection τ σ} (h : P c) (n : UInt32) : P (c.publish (.reconnecting n))
  connecting {c : Connection τ σ} (h : P c) (b : Bool) : P { c with connecting := b }
  clearAway {c : Connection τ σ} (h : P c) : P c.clearAway

namespace Kept

variable {P : Connection τ σ → Prop}

theorem foldl_happen (hP : Kept P) (port : Option String) (due : List Incident) {s : Search τ σ}
    (h : P s.conn) (hdown : s.conn.isConnected = false) :
    P (due.foldl (happen port) s).conn := by
  induction due generalizing s with
  | nil => exact h
  | cons incident due ih =>
    have hstill := (s.happen_disturbed port incident).isConnected.trans hdown
    refine ih (s := s.happen port incident) ?_ hstill
    cases incident with
    | device action => exact hP.device h action
    | sighting => exact h
    | setTimeout timeout =>
      show P (s.conn.setTimeout timeout)
      rw [Connection.setTimeout_of_down hdown]
      exact hP.retimed h timeout

/-- What happens before the loop starts might as well happen after that. -/
theorem foldl_settle (hP : Kept P) (port : Option String) (due : List Incident)
    {s : Search τ σ} {handle : Mock.Handle} (h : P (s.conn.start handle))
    (hdown : s.conn.isConnected = false) :
    P ((due.foldl (happen port) s).conn.start handle) := by
  induction due generalizing s with
  | nil => exact h
  | cons incident due ih =>
    have hstill := (s.happen_disturbed port incident).isConnected.trans hdown
    refine ih (s := s.happen port incident) ?_ hstill
    cases incident with
    | device action => exact hP.device h action
    | sighting => exact h
    | setTimeout timeout =>
      show P ((s.conn.setTimeout timeout).start handle)
      rw [Connection.setTimeout_of_down hdown]
      exact hP.retimed h timeout

/-- If a candidate opens, a loop can be started on it. -/
theorem firstOpen (hP : Kept P) (settings : PortSettings) (ports : List String) {s : Search τ σ}
    (h : P s.conn) (hdown : s.conn.isConnected = false) :
    match firstOpen settings ports s with
    | (some handle, s) => P (s.conn.start handle)
    | (none, s) => P s.conn := by
  induction ports generalizing s with
  | nil => exact h
  | cons port ports ih =>
    have happroach : P (s.approach port).conn := hP.foldl_happen (some port) _ h hdown
    have hstill := (s.approach_disturbed port).isConnected.trans hdown
    unfold Search.firstOpen attempt
    dsimp only
    cases hopen : (s.approach port).conn.bench.provider.openPort port settings with
    | mk result p =>
      cases result with
      | ok handle => exact hP.opened happroach hstill hopen
      | error e =>
        exact ih (s := (s.approach port).change (·.withProvider p)) (hP.missed happroach hopen)
          hstill

theorem scan (hP : Kept P) {s : Search τ σ} (h : P s.conn) (hdown : s.conn.isConnected = false) :
    P s.scan.2.conn := by
  have henter : P s.enter.conn := hP.foldl_happen none _ h hdown
  have hstill := s.enter_disturbed.isConnected.trans hdown
  have hfirst := hP.firstOpen s.enter.conn.openSettings s.enter.conn.config.ports henter hstill
  have hdisturbed :=
    firstOpen_disturbed s.enter.conn.openSettings s.enter.conn.config.ports s.enter
  unfold Search.scan
  dsimp only
  cases hopen : Search.firstOpen s.enter.conn.openSettings s.enter.conn.config.ports s.enter with
  | mk opened s' =>
    rw [hopen] at hfirst hdisturbed
    cases opened with
    | some handle =>
      exact hP.foldl_settle (some handle.port) _ hfirst (hdisturbed.isConnected.trans hstill)
    | none => exact hfirst

theorem retry (hP : Kept P) (timeout : Option Duration) (elapsed : Nat → Duration)
    (scans : Nat) (made : UInt32) {s : Search τ σ} (h : P s.conn)
    (hdown : s.conn.isConnected = false) :
    P (retry timeout elapsed scans made s).2.conn := by
  induction scans generalizing made s with
  | zero => exact h
  | succ scans ih =>
    unfold Search.retry
    cases nextPass made with
    | none => exact h
    | some pass =>
      have hscan := hP.scan (s := s.change (·.publish (.reconnecting pass)))
        (hP.reconnecting h pass) hdown
      have hlooked := (s.change (·.publish (.reconnecting pass))).scan_looked
      dsimp only
      cases hresult : (s.change (·.publish (.reconnecting pass))).scan with
      | mk opened s' =>
        rw [hresult] at hscan hlooked
        cases opened with
        | true => exact hscan
        | false =>
          dsimp only
          split
          · exact hscan
          · cases hlooked with
            | missed hmissed => exact ih pass hscan (hmissed.isConnected.trans hdown)

theorem leave (hP : Kept P) {s : Search τ σ} (h : P s.conn) (v : Verdict) :
    P (s.leave v).conn := by
  rw [conn_leave]
  exact hP.connecting h _

theorem unlessConnected (hP : Kept P) {α : Type} {s : Search τ σ}
    (h : P s.conn) (refuse : ConnectionError → α) {look : Search τ σ → α × Search τ σ}
    (hlook : ∀ s : Search τ σ, P s.conn → s.conn.isConnected = false → P (look s).2.conn) :
    P (s.unlessConnected refuse look).2.conn := by
  cases hup : s.conn.isConnected with
  | true =>
    rw [unlessConnected_of_up hup]
    exact h
  | false =>
    rw [unlessConnected_of_down hup]
    exact hlook s.starting (hP.connecting (hP.clearAway h) true)
      (s.starting_isConnected.trans hup)

theorem connect (hP : Kept P) {s : Search τ σ} (h : P s.conn) : P s.connect.2.conn :=
  hP.unlessConnected h _ fun _ hs hdown => hP.connecting (hP.scan hs hdown) false

theorem reconnect (hP : Kept P) {s : Search τ σ} (h : P s.conn) (timeout : Option Duration)
    (elapsed : Nat → Duration) (scans : Nat) :
    P (s.reconnect timeout elapsed scans).2.conn :=
  hP.unlessConnected h _ fun _ hs hdown => hP.leave (hP.retry timeout elapsed scans 0 hs hdown) _

end Kept

end Search

end SerialLink
