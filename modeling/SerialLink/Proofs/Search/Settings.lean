import SerialLink.Proofs.Ports
import SerialLink.Proofs.Search

/-!
# SerialLink.Proofs.Search.Settings

The timeout with which a search opens a port.

1. The settings are read when a pass over the candidates begins, and a port is opened with the
   timeout that is set then (`Search.timeout_firstOpen`).
2. A timeout that is set later, but before the loop starts, reaches neither the port nor the
   loop.  If there is none, the connection comes up on a port that has its timeout
   (`Search.portTimeout?_connect`, `Search.portTimeout?_reconnect`).
3. A search in which no timeout is set leaves that of the connection as it was (`Search.Still`).
-/

namespace SerialLink

/-! ## devices -/

namespace Mock

namespace Provider

variable {p q : Provider} {port : String} {h : Handle}

theorem timeout_modify (p : Provider) (h : Handle) (f : Device → Device) :
    (p.modify h.port f).timeout h = (p.device? h.port).bind fun d => (f d).timeout := by
  rw [timeout, device?_modify, if_pos rfl, Option.bind_map]
  rfl

/-- What leaves the timeout of a device alone changes no timeout. -/
theorem timeout_modify_of_keeps {f : Device → Device} (hf : ∀ d, (f d).timeout = d.timeout) :
    (p.modify port f).timeout h = p.timeout h := by
  rw [timeout, device?_modify]
  split
  · rw [Option.bind_map]
    exact congrArg (p.device? h.port).bind (funext hf)
  · rfl

theorem timeout_add : (p.add port).timeout h = p.timeout h := by
  rw [timeout, device?_add, timeout]
  cases p.device? h.port with
  | some d => rfl
  | none => split <;> rfl

/-- A port that was opened has the timeout of the settings. -/
theorem timeout_openPort {settings : PortSettings}
    (hopen : p.openPort port settings = (.ok h, q)) : q.timeout h = settings.timeout := by
  unfold openPort at hopen
  cases hfault : p.openFault? port with
  | some fault => rw [hfault] at hopen; cases hopen
  | none =>
    rw [hfault] at hopen
    cases hopen
    refine (timeout_modify _ _ _).trans ?_
    unfold openFault? at hfault
    cases hdevice : p.device? port with
    | none => rw [hdevice] at hfault; cases hfault
    | some d => exact congrArg (Option.bind · fun d => (opened settings d).timeout) hdevice

end Provider

/-- Somebody opens or closes a port. -/
def DeviceAction.usesPort : DeviceAction → Bool
  | .hold _ | .release _ => true
  | _ => false

namespace Bench

variable {b : Bench} {h : Handle}

theorem timeout_change {port : String} {f : Device → Device}
    (hf : ∀ d, (f d).timeout = d.timeout) :
    (b.change port f).2.provider.timeout h = b.provider.timeout h := by
  unfold change
  split
  · exact Provider.timeout_modify_of_keeps hf
  · rfl

/-- Only to open a port changes a timeout. -/
theorem timeout_act {action : DeviceAction} (hunused : action.usesPort = false) :
    (b.act action).2.provider.timeout h = b.provider.timeout h := by
  cases action with
  | add port => exact Provider.timeout_add
  | inject | reply | echo | limit | unplug | replug => exact timeout_change fun _ => rfl
  | written | status | attempts | list => rfl
  | hold | release => cases hunused

end Bench

end Mock

/-! ## incidents -/

/-- The incident sets the timeout of the connection. -/
def Incident.setsTimeout : Incident → Bool
  | .setTimeout _ => true
  | _ => false

/-- At the given moment, the incident does not part the timeout of the connection from that of
its port: the settings are yet to be read, or no timeout is set, and nobody else opens or
closes a port that the connection has opened. -/
def Incident.inTime : Moment → Incident → Bool
  | .pass _, _ => true
  | .attempt _, i => !i.setsTimeout
  | .settling _, .device action => !action.usesPort
  | .settling _, i => !i.setsTimeout

/-- The timeout of the port, if one is open. -/
def Connection.portTimeout? {τ σ : Type} (c : Connection τ σ) : Option (Option Duration) :=
  c.loop.handle?.map c.bench.provider.timeout

namespace Search

variable {τ σ : Type} {s t u : Search τ σ}

theorem mem_due {m : Moment} {i : Incident} : i ∈ s.due m ↔ (m, i) ∈ s.incidents := by
  simp [due]

/-- What happens at a moment leaves the timeout alone if no incident sets it then. -/
theorem timeout_meet {m : Moment} (hunset : ∀ i ∈ s.due m, i.setsTimeout = false)
    (port : Option String) : (s.meet m port).conn.timeout = s.conn.timeout := by
  refine List.foldlRecOn (motive := fun t : Search τ σ => t.conn.timeout = s.conn.timeout)
    (s.due m) (happen port) rfl fun t h i hi => ?_
  cases i with
  | device | sighting => exact h
  | setTimeout => cases hunset _ hi

/-- The timeout of a port that was opened stays while it settles. -/
theorem portTimeout_settle {handle : Mock.Handle}
    (hdue : ∀ i ∈ s.due (.settling s.attempts), i.inTime (.settling s.attempts) = true) :
    (s.settle handle).conn.bench.provider.timeout handle =
      s.conn.bench.provider.timeout handle := by
  refine List.foldlRecOn (motive := fun t : Search τ σ => t.conn.bench.provider.timeout handle =
    s.conn.bench.provider.timeout handle) (s.due (.settling s.attempts)) (happen _) rfl
    fun t h i hi => ?_
  have hintime := hdue i hi
  cases i with
  | device action => exact (Mock.Bench.timeout_act (Bool.not_eq_true' _ ▸ hintime)).trans h
  | sighting => exact h
  | setTimeout => cases hintime

/-! ## searches in which no timeout is set -/

/-- The second search is the first some time later; if none of the incidents sets the timeout,
that is what it was. -/
structure Still (s t : Search τ σ) : Prop where
  incidents : t.incidents = s.incidents
  timeout : (∀ e ∈ s.incidents, e.2.setsTimeout = false) → t.conn.timeout = s.conn.timeout

theorem Still.refl (s : Search τ σ) : s.Still s :=
  ⟨rfl, fun _ => rfl⟩

theorem Still.trans (h : s.Still t) (h' : t.Still u) : s.Still u :=
  ⟨h'.incidents.trans h.incidents, fun hunset =>
    (h'.timeout fun e he => hunset e (h.incidents ▸ he)).trans (h.timeout hunset)⟩

theorem meet_still (s : Search τ σ) (m : Moment) (port : Option String) :
    s.Still (s.meet m port) where
  incidents := List.foldlRecOn (motive := fun t : Search τ σ => t.incidents = s.incidents)
    (s.due m) (happen port) rfl fun t h i _ => by cases i <;> exact h
  timeout hunset := timeout_meet (fun i hi => hunset (m, i) (mem_due.mp hi)) port

theorem attempt_still (s : Search τ σ) (port : String) (settings : PortSettings) :
    s.Still (s.attempt port settings).2 :=
  have h := meet_still { s with attempts := s.attempts + 1 } (.attempt (s.attempts + 1)) (some port)
  ⟨h.incidents, h.timeout⟩

theorem firstOpen_still (settings : PortSettings) (ports : List String) (s : Search τ σ) :
    s.Still (firstOpen settings ports s).2 := by
  induction ports generalizing s with
  | nil => exact .refl s
  | cons port ports ih =>
    have hattempt := s.attempt_still port settings
    unfold firstOpen
    cases h : s.attempt port settings with
    | mk opened s' =>
      rw [h] at hattempt
      cases opened with
      | some handle => exact hattempt
      | none => exact hattempt.trans (ih s')

theorem leave_still (s : Search τ σ) (v : Verdict) : s.Still (s.leave v) := by
  cases v <;> exact ⟨rfl, fun _ => rfl⟩

theorem starting_still (s : Search τ σ) : s.Still s.starting := by
  refine ⟨rfl, fun _ => ?_⟩
  show s.conn.clearAway.timeout = _
  unfold Connection.clearAway
  split <;> rfl

theorem enter_still (s : Search τ σ) : s.Still s.enter :=
  have h := meet_still { s with passes := s.passes + 1 } (.pass (s.passes + 1)) none
  ⟨h.incidents, h.timeout⟩

variable [CustomCycle τ Mock.Line σ]

theorem scan_still (s : Search τ σ) : s.Still s.scan.2 := by
  have h := s.enter_still.trans
    (firstOpen_still s.enter.conn.openSettings s.enter.conn.config.ports s.enter)
  unfold scan
  dsimp only
  cases hopen : firstOpen s.enter.conn.openSettings s.enter.conn.config.ports s.enter with
  | mk opened s' =>
    rw [hopen] at h
    cases opened with
    | none => exact h
    | some handle =>
      have hsettled := h.trans (s'.meet_still (.settling s'.attempts) (some handle.port))
      exact ⟨hsettled.incidents, hsettled.timeout⟩

theorem retry_still (timeout : Option Duration) (elapsed : Nat → Duration) (scans : Nat)
    (made : UInt32) (s : Search τ σ) : s.Still (retry timeout elapsed scans made s).2 := by
  induction scans generalizing made s with
  | zero => exact .refl s
  | succ scans ih =>
    unfold retry
    cases nextPass made with
    | none => exact .refl s
    | some pass =>
      have hscan := (s.change (·.publish (.reconnecting pass))).scan_still
      dsimp only
      cases hresult : (s.change (·.publish (.reconnecting pass))).scan with
      | mk opened s' =>
        rw [hresult] at hscan
        have hlater : s.Still s' := ⟨hscan.incidents, hscan.timeout⟩
        cases opened with
        | true => exact hlater
        | false =>
          dsimp only
          split
          · exact hlater
          · exact hlater.trans (ih pass s')

theorem connect_still (s : Search τ σ) : s.Still s.connect.2 := by
  cases hup : s.conn.isConnected with
  | true =>
    rw [connect, unlessConnected_of_up hup]
    exact .refl s
  | false =>
    rw [connect_of_down hup]
    exact s.starting_still.trans
      (s.starting.scan_still.trans (s.starting.scan.2.leave_still .unfinished))

theorem reconnect_still (s : Search τ σ) (timeout : Option Duration) (elapsed : Nat → Duration)
    (scans : Nat) : s.Still (s.reconnect timeout elapsed scans).2 := by
  cases hup : s.conn.isConnected with
  | true =>
    rw [reconnect, unlessConnected_of_up hup]
    exact .refl s
  | false =>
    rw [reconnect_of_down hup]
    exact s.starting_still.trans ((s.starting.retry_still timeout elapsed scans 0).trans
      (leave_still _ _))

/-! ## the port that is opened -/

section

omit [CustomCycle τ Mock.Line σ]

theorem timeout_attempt {settings : PortSettings} {port : String} {h : Mock.Handle}
    (hopen : s.attempt port settings = (some h, t)) :
    t.conn.bench.provider.timeout h = settings.timeout := by
  unfold attempt at hopen
  dsimp only at hopen
  cases hresult : (s.approach port).conn.bench.provider.openPort port settings with
  | mk result provider =>
    rw [hresult] at hopen
    cases result with
    | error e => cases hopen
    | ok h' =>
      cases hopen
      exact Mock.Provider.timeout_openPort hresult

theorem timeout_firstOpen {settings : PortSettings} {ports : List String} {h : Mock.Handle}
    (hopen : firstOpen settings ports s = (some h, t)) :
    t.conn.bench.provider.timeout h = settings.timeout := by
  induction ports generalizing s with
  | nil => cases hopen
  | cons port ports ih =>
    unfold firstOpen at hopen
    cases hattempt : s.attempt port settings with
    | mk opened tried =>
      rw [hattempt] at hopen
      cases opened with
      | none => exact ih hopen
      | some h' =>
        cases hopen
        exact timeout_attempt hattempt

/-- While candidates are tried, the timeout stays if it is not set just before an attempt. -/
theorem conn_timeout_firstOpen (settings : PortSettings) (ports : List String) {s : Search τ σ}
    (hunset : ∀ n i, (.attempt n, i) ∈ s.incidents → i.setsTimeout = false) :
    (firstOpen settings ports s).2.conn.timeout = s.conn.timeout := by
  induction ports generalizing s with
  | nil => rfl
  | cons port ports ih =>
    have htimeout : (s.attempt port settings).2.conn.timeout = s.conn.timeout :=
      timeout_meet (s := { s with attempts := s.attempts + 1 })
        (fun i hi => hunset _ i (mem_due.mp hi)) _
    have hsame := (s.attempt_still port settings).incidents
    unfold firstOpen
    cases h : s.attempt port settings with
    | mk opened s' =>
      rw [h] at htimeout hsame
      cases opened with
      | some handle => exact htimeout
      | none => exact (ih fun n i hi => hunset n i (hsame ▸ hi)).trans htimeout

end

/-- A pass that opens a port leaves it and the connection with the same timeout. -/
theorem portTimeout?_scan (hopened : s.scan.1 = true)
    (hintime : ∀ e ∈ s.incidents, e.2.inTime e.1 = true) :
    s.scan.2.conn.portTimeout? = some s.scan.2.conn.timeout := by
  have hlater := s.enter_still.trans
    (firstOpen_still s.enter.conn.openSettings s.enter.conn.config.ports s.enter)
  have htimeout := conn_timeout_firstOpen s.enter.conn.openSettings s.enter.conn.config.ports
    (s := s.enter) fun n i hi =>
      Bool.not_eq_true' _ ▸ hintime (.attempt n, i) (s.enter_still.incidents ▸ hi)
  unfold scan at hopened ⊢
  dsimp only at hopened ⊢
  cases hopen : firstOpen s.enter.conn.openSettings s.enter.conn.config.ports s.enter with
  | mk opened s' =>
    rw [hopen] at hlater htimeout hopened
    cases opened with
    | none => cases hopened
    | some h =>
      have hdue : ∀ i ∈ s'.due (.settling s'.attempts), i.inTime (.settling s'.attempts) = true :=
        fun i hi => hintime _ (hlater.incidents ▸ mem_due.mp hi)
      have hunset : ∀ i ∈ s'.due (.settling s'.attempts), i.setsTimeout = false := by
        intro i hi
        cases i with
        | device | sighting => rfl
        | setTimeout => cases hdue _ hi
      have hport : (s'.settle h).conn.bench.provider.timeout h = s'.conn.timeout :=
        (portTimeout_settle hdue).trans ((timeout_firstOpen hopen).trans htimeout.symm)
      have hconn : (s'.settle h).conn.timeout = s'.conn.timeout := timeout_meet hunset _
      exact congrArg some (hport.trans hconn.symm)

theorem portTimeout?_retry {timeout : Option Duration} {elapsed : Nat → Duration} {scans : Nat}
    {made : UInt32} (hsucceeded : succeeded (retry timeout elapsed scans made s).1 = true)
    (hintime : ∀ e ∈ s.incidents, e.2.inTime e.1 = true) :
    (retry timeout elapsed scans made s).2.conn.portTimeout? =
      some (retry timeout elapsed scans made s).2.conn.timeout := by
  induction scans generalizing made s with
  | zero => cases hsucceeded
  | succ scans ih =>
    unfold retry at hsucceeded ⊢
    cases hpass : nextPass made with
    | none => rw [hpass] at hsucceeded; cases hsucceeded
    | some pass =>
      rw [hpass] at hsucceeded
      have hstill := (s.change (·.publish (.reconnecting pass))).scan_still
      have hport := portTimeout?_scan (s := s.change (·.publish (.reconnecting pass)))
      dsimp only at hsucceeded ⊢
      cases hscan : (s.change (·.publish (.reconnecting pass))).scan with
      | mk opened s' =>
        rw [hscan] at hsucceeded hstill hport
        cases opened with
        | true => exact hport rfl hintime
        | false =>
          dsimp only at hsucceeded ⊢
          split at hsucceeded
          next => cases hsucceeded
          next htime =>
            rw [if_neg htime]
            exact ih hsucceeded fun e he => hintime e (hstill.incidents ▸ he)

theorem portTimeout?_connect (hdown : s.conn.isConnected = false)
    (hsucceeded : succeeded (.returned s.connect.1) = true)
    (hintime : ∀ e ∈ s.incidents, e.2.inTime e.1 = true) :
    s.connect.2.conn.portTimeout? = some s.connect.2.conn.timeout := by
  rw [connect_of_down hdown] at hsucceeded ⊢
  refine portTimeout?_scan (s := s.starting) ?_ hintime
  cases hscan : s.starting.scan.1 with
  | true => rfl
  | false => rw [hscan] at hsucceeded; cases hsucceeded

theorem portTimeout?_reconnect {timeout : Option Duration} {elapsed : Nat → Duration} {scans : Nat}
    (hdown : s.conn.isConnected = false)
    (hsucceeded : succeeded (s.reconnect timeout elapsed scans).1 = true)
    (hintime : ∀ e ∈ s.incidents, e.2.inTime e.1 = true) :
    (s.reconnect timeout elapsed scans).2.conn.portTimeout? =
      some (s.reconnect timeout elapsed scans).2.conn.timeout := by
  rw [reconnect_of_down hdown] at hsucceeded ⊢
  have hport := portTimeout?_retry (s := s.starting) hsucceeded hintime
  cases hverdict : (retry timeout elapsed scans 0 s.starting).1 with
  | returned result => exact hport
  | brokenOff => exact hport
  | unfinished => exact hport

end Search

end SerialLink
