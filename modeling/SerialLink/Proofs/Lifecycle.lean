import SerialLink.Connection.Wait
import SerialLink.Cycle.Samples
import SerialLink.Proofs.Interplay.Ending

/-!
# SerialLink.Proofs.Lifecycle

What is published of the life of a connection, from its creation until it is dropped.

1. Everything that may be done to a connection is a `Deed`, which is a call or a turn of the
   loop, done as a whole.  (`Interplay` has the smaller steps.)
2. A log is in order if it leads from one session to the next: a session starts only when
   none is up, ends on the port on which it started, and candidates are tried only between
   sessions (`Event.pass`).
3. What a deed publishes shows in what it did to the session (`Connection.Publishes`), and
   the log of any run leads to the session that is up (`Connection.InStep`).
-/

namespace SerialLink

/-! ## logs in order -/

namespace Event

/-- The port of the session that is up after an event, given the one before it.  An event that
is out of order leads nowhere. -/
def pass : Option String → Event → Option (Option String)
  | none, .connected port => some (some port)
  | none, .reconnecting _ => some none
  | some port, .disconnected closed _ => if closed = port then some none else none
  | _, _ => none

/-- The port of the session that is up after a log. -/
def passAll (session : Option String) (log : List Event) : Option (Option String) :=
  log.foldlM pass session

theorem passAll_append (session : Option String) (log log' : List Event) :
    passAll session (log ++ log') = (passAll session log).bind (passAll · log') :=
  List.foldlM_append

/-- Candidates are tried while no session is up, and none is up after that. -/
theorem passAll_tried {tried : List Event} (htried : ∀ e ∈ tried, e.kind = .reconnecting) :
    passAll none tried = some none := by
  induction tried with
  | nil => rfl
  | cons e tried ih =>
    obtain ⟨hkind, hrest⟩ := List.forall_mem_cons.mp htried
    cases e with
    | connected => cases hkind
    | disconnected => cases hkind
    | reconnecting n => exact ih hrest

end Event

/-! ## deeds -/

/-- What is done to a connection, as a whole: a call returns before anything else is done, and
no cycle runs while the connection is taken down or its loop is started.  Only a call that looks
for a port lets others change the devices and the timeout meanwhile. -/
inductive Deed (τ : Type) where
  | connect (incidents : List (Moment × Incident))
  | reconnect (incidents : List (Moment × Incident)) (timeout : Option Duration)
      (elapsed : Nat → Duration) (scans : Nat)
  | disconnect
  /-- A supervisor looks at the connection. -/
  | poll (incidents : List (Moment × Incident)) (v : Supervision) (elapsed : Nat → Duration)
      (scans : Nat)
  /-- A turn of the loop; `elapsed` are the readings of the time that its cycle has spent. -/
  | turn (elapsed : List Duration)
  /-- Values are sent, also again by a caller who waits for the response. -/
  | send (values : List SendValue) (options : SendOptions)
  | receive (offset : Nat)
  /-- A caller begins to wait for a frame. -/
  | call (request : Request τ)
  | setTimeout (timeout : Option Duration)
  | setSendInterval (interval : Duration)
  /-- A subscriber takes the events that it has not yet taken. -/
  | collect
  /-- The devices change in any way. -/
  | devices (bench : Mock.Bench)
  /-- The clock is set in any way. -/
  | clock (clock : Clock τ)

/-- The deed may bring the connection up. -/
def Deed.isSearch {τ : Type} : Deed τ → Bool
  | .connect _ | .reconnect .. | .poll .. => true
  | _ => false

namespace Connection

variable {τ σ : Type}

/-- The port of the session that is up. -/
def session (c : Connection τ σ) : Option String :=
  if c.isConnected then some (c.activePort.getD "") else none

section

variable [Reading τ] [CustomCycle τ Mock.Line σ]

/-- A turn of the loop whose cycle reads the given times, and what came of it. -/
def turnDuring (c : Connection τ σ) (elapsed : List Duration) : Turn × Connection τ σ :=
  let c := c.applyTimeout
  match c.runCycle c.toQueues elapsed with
  | (some report, c) => (c.settle report).conclude report.result
  | (none, c) => (.idle, c)

/-- A turn in which no time passes, with what is told of it. -/
theorem turn_eq (c : Connection τ σ) :
    c.turn = ((c.applyTimeout.runCycle c.applyTimeout.toQueues []).2.told (c.turnDuring []).1,
      (c.turnDuring []).2) := by
  unfold turn turnDuring
  dsimp only
  cases c.applyTimeout.runCycle c.applyTimeout.toQueues [] with
  | mk report d => cases report <;> rfl

/-- What a deed makes of a connection. -/
def perform (c : Connection τ σ) : Deed τ → Connection τ σ
  | .connect incidents => (Search.begin c incidents).connect.2.conn
  | .reconnect incidents timeout elapsed scans =>
    ((Search.begin c incidents).reconnect timeout elapsed scans).2.conn
  | .disconnect => c.disconnect .requested
  | .poll incidents v elapsed scans => ((Search.begin c incidents).poll v elapsed scans).conn
  | .turn elapsed => (c.turnDuring elapsed).2
  | .send values options => (c.sendValues values options).2
  | .receive offset => (c.receiveAt offset).2
  | .call request => (c.call request).2
  | .setTimeout timeout => c.setTimeout timeout
  | .setSendInterval interval => c.setSendInterval interval
  | .collect => { c with events := c.events.collect.2 }
  | .devices bench => { c with bench := bench }
  | .clock clock => { c with clock := clock }

/-- What a sequence of deeds makes of a connection. -/
def performAll (c : Connection τ σ) (deeds : List (Deed τ)) : Connection τ σ :=
  deeds.foldl perform c

/-- The end of a connection: nobody holds it any more. -/
def drop (c : Connection τ σ) : Connection τ σ := c.perform .disconnect

/-- The deed is a turn of the loop whose cycle breaks off. -/
def breaksOff (c : Connection τ σ) : Deed τ → Bool
  | .turn elapsed => (c.turnDuring elapsed).1 == .aborted
  | _ => false

/-- No cycle breaks off. -/
def Unbroken (c : Connection τ σ) : List (Deed τ) → Prop
  | [] => True
  | d :: deeds => c.breaksOff d = false ∧ (c.perform d).Unbroken deeds

/-- The reason that is given when a deed ends a session. -/
inductive Ends (c : Connection τ σ) : Deed τ → DisconnectReason → Prop
  /-- The cycle failed. -/
  | lost {elapsed : List Duration} (message : String) (h : (c.turnDuring elapsed).1 = .lost) :
    Ends c (.turn elapsed) (.transportLost message)
  /-- A supervisor did not find the port. -/
  | removed {incidents : List (Moment × Incident)} {v : Supervision} {elapsed : Nat → Duration}
      {scans : Nat} {port : String} (hport : c.activePort = some port)
      (hgone : c.portIsListed port = false) :
    Ends c (.poll incidents v elapsed scans) .portRemoved
  | requested : Ends c .disconnect .requested

/-- What a deed publishes shows in what it did to the session. -/
inductive Publishes (c : Connection τ σ) (d : Deed τ) : List Event → Prop
  /-- The session is what it was. -/
  | nothing (h : (c.perform d).session = c.session) : Publishes c d []
  /-- Candidates were tried, but none opened. -/
  | missed (hsearch : d.isSearch = true) (hbefore : c.session = none)
      (hafter : (c.perform d).session = none) {tried : List Event}
      (htried : ∀ e ∈ tried, e.kind = .reconnecting) : Publishes c d tried
  /-- Candidates were tried, and one opened. -/
  | opened (hsearch : d.isSearch = true) (hbefore : c.session = none) {port : String}
      (hafter : (c.perform d).session = some port) {tried : List Event}
      (htried : ∀ e ∈ tried, e.kind = .reconnecting) :
    Publishes c d (tried ++ [.connected port])
  /-- The session ended. -/
  | ended {port : String} (hbefore : c.session = some port)
      (hafter : (c.perform d).session = none) {reason : DisconnectReason}
      (hreason : c.Ends d reason) : Publishes c d [.disconnected port reason]

end

/-! ## deeds that leave the session alone -/

/-- The session is left alone, and nothing is published. -/
structure Quiet (c d : Connection τ σ) : Prop where
  session : d.session = c.session
  log : d.events.toList = c.events.toList

variable {b c d : Connection τ σ}

theorem Quiet.refl (c : Connection τ σ) : c.Quiet c :=
  ⟨rfl, rfl⟩

theorem Quiet.of_eq (h : d = c) : c.Quiet d :=
  h ▸ .refl c

theorem Quiet.trans (h : b.Quiet c) (h' : c.Quiet d) : b.Quiet d :=
  ⟨h'.session.trans h.session, h'.log.trans h.log⟩

theorem Calm.quiet (h : c.Calm d) : c.Quiet d := by
  refine ⟨?_, congrArg List.reverse h.events⟩
  rw [h.eq]
  rfl

theorem session_of_down (hdown : c.isConnected = false) : c.session = none := by
  rw [session, hdown]
  rfl

theorem session_of_up (hup : c.isConnected = true) : c.session = some (c.activePort.getD "") := by
  rw [session, hup]
  rfl

/-- Nothing but the queues, the clock and what is remembered of sends and receipts is changed. -/
structure Routine (c d : Connection τ σ) : Prop where
  eq : d = { c with
    toQueues := d.toQueues
    clock := d.clock
    lastSent := d.lastSent
    lastReceived := d.lastReceived }

theorem Routine.refl (c : Connection τ σ) : c.Routine c :=
  ⟨rfl⟩

theorem Routine.trans (h : b.Routine c) (h' : c.Routine d) : b.Routine d := by
  obtain ⟨heq⟩ := h'
  rw [h.eq] at heq
  exact ⟨heq⟩

theorem Routine.quiet (h : c.Routine d) : c.Quiet d := by
  rw [h.eq]
  exact ⟨rfl, rfl⟩

theorem receiveAt_routine (c : Connection τ σ) (offset : Nat) :
    c.Routine (c.receiveAt offset).2 := by
  rw [c.receiveAt_eq offset]
  exact ⟨rfl⟩

theorem ticket?_routine (c : Connection τ σ) : c.Routine c.ticket?.2 := by
  unfold ticket?
  split
  · exact ⟨rfl⟩
  · exact .refl c

section

variable [Reading τ]

theorem accept_routine (c : Connection τ σ) (t : Ticket τ) (payload : Bytes) :
    c.Routine (c.accept t payload).2 := by
  unfold accept
  split
  · exact .refl c
  · exact ⟨rfl⟩

theorem sendValues_routine (c : Connection τ σ) (values : List SendValue)
    (options : SendOptions) : c.Routine (c.sendValues values options).2 := by
  have hticket := c.ticket?_routine
  unfold sendValues
  cases h : c.ticket? with
  | mk ticket d =>
    rw [h] at hticket
    cases ticket with
    | none => exact hticket
    | some t => exact hticket.trans (d.accept_routine t _)

theorem sendAgain_routine (k : Call τ) (values : List SendValue) (c : Connection τ σ) :
    c.Routine (k.sendAgain values c).2 := by
  unfold Call.sendAgain
  split
  · exact sendValues_routine c values .default
  · exact .refl c

theorem call_routine (c : Connection τ σ) (request : Request τ) :
    c.Routine (c.call request).2 := by
  have hread : c.Routine { c with clock := c.clock.read.2 } := ⟨rfl⟩
  cases request with
  | next => exact hread
  | response expected after =>
    cases after with
    | none => exact hread
    | some after => exact .refl c
  | exchange expected values => exact hread.trans (sendAgain_routine _ values _)
  | firstAfter values =>
    have hsend := sendValues_routine { c with clock := c.clock.read.2 } values .default
    unfold call
    dsimp only
    cases h : { c with clock := c.clock.read.2 }.sendValues values .default with
    | mk accepted sent =>
      rw [h] at hsend
      cases accepted with
      | true => exact hread.trans hsend
      | false => exact hread.trans hsend

end

/-! ## deeds that start or end a session -/

theorem disconnect_of_down (hdown : c.isConnected = false) (reason : DisconnectReason) :
    (c.disconnect reason).session = none ∧ (c.disconnect reason).events = c.events := by
  unfold disconnect
  rw [hdown, bringDown_of_down hdown]
  exact ⟨session_of_down ((Search.isConnected_clearAway c).trans hdown), c.events_clearAway⟩

theorem disconnect_of_up (hup : c.isConnected = true) (reason : DisconnectReason) :
    (c.disconnect reason).session = none ∧
      (c.disconnect reason).events =
        c.events.publish (.disconnected (c.activePort.getD "") reason) := by
  refine ⟨session_of_down (c.isConnected_bringDown _ reason), ?_⟩
  obtain ⟨h, cycle, hloop⟩ := exists_loop_of_isConnected hup
  unfold disconnect bringDown
  rw [hup, hloop]
  rfl

theorem settle_quiet (c : Connection τ σ) (report : CycleReport τ) : c.Quiet (c.settle report) := by
  unfold settle
  split
  · exact .refl c
  · exact ⟨rfl, rfl⟩

/-- The loop of the connection ended because its cycle failed, and that is published. -/
structure Lost (c d : Connection τ σ) : Prop where
  session : d.session = none
  log : ∃ port message, c.session = some port ∧
    d.events.toList = c.events.toList ++ [.disconnected port (.transportLost message)]

theorem Lost.of_quiet (h : b.Quiet c) (h' : c.Lost d) : b.Lost d := by
  obtain ⟨port, message, hport, hlog⟩ := h'.log
  exact ⟨h'.session, port, message, h.session.symm.trans hport, by rw [hlog, h.log]⟩

/-- At the end of a turn the session is left alone, unless the cycle failed. -/
theorem conclude_cases (c : Connection τ σ) {result : Except CycleFault Unit}
    (hunbroken : (c.conclude result).1 ≠ .aborted) :
    c.Quiet (c.conclude result).2 ∨
      (c.conclude result).1 = .lost ∧ c.Lost (c.conclude result).2 := by
  unfold conclude at hunbroken ⊢
  cases hloop : c.loop with
  | stopped parked => exact .inl (.refl c)
  | ended left => exact .inl (.refl c)
  | running handle cycle =>
    rw [hloop] at hunbroken
    match result with
    | .ok () => exact .inl (.refl c)
    | .error (.failed e) =>
      have hsession := session_of_up (isConnected_of_loop hloop)
      exact .inr ⟨rfl, rfl, _, e.message, hsession, EventLog.toList_publish _ _⟩
    | .error .aborted => exact absurd rfl hunbroken

variable [CustomCycle τ Mock.Line σ]

/-- What a search publishes, if it may. -/
theorem Searched.published {opened : Bool} (h : c.Searched opened d) :
    (d.session = c.session ∧ d.events = c.events) ∨
      c.session = none ∧ ∃ tried : List Event, (∀ e ∈ tried, e.kind = .reconnecting) ∧
        ((d.session = none ∧ d.events.toList = c.events.toList ++ tried) ∨
          ∃ port, d.session = some port ∧
            d.events.toList = c.events.toList ++ (tried ++ [.connected port])) := by
  have hlog {e : Connection τ σ} (hscan : c.clearAway.Scanned e) : ∃ tried : List Event,
      (∀ e ∈ tried, e.kind = .reconnecting) ∧ e.events.toList = c.events.toList ++ tried := by
    obtain ⟨tried, hkind, hnewest⟩ := hscan.events
    refine ⟨tried.reverse, fun e he => hkind e (List.mem_reverse.mp he), ?_⟩
    rw [EventLog.toList, hnewest, List.reverse_append, c.events_clearAway]
    rfl
  cases h with
  | refused hup => exact .inl ⟨rfl, rfl⟩
  | missed hdown hscan =>
    obtain ⟨tried, hkind, hevents⟩ := hlog hscan
    have hgone := hscan.isConnected.trans ((Search.isConnected_clearAway c).trans hdown)
    exact .inr ⟨session_of_down hdown, tried, hkind, .inl ⟨session_of_down hgone, hevents⟩⟩
  | opened hdown hscan handle =>
    obtain ⟨tried, hkind, hevents⟩ := hlog hscan
    refine .inr ⟨session_of_down hdown, tried, hkind, .inr ⟨handle.port, rfl, ?_⟩⟩
    rw [← List.append_assoc, ← hevents]
    exact EventLog.toList_publish _ _

variable [Reading τ]

theorem runCycle_quiet (c : Connection τ σ) (copies : Queues τ) (elapsed : List Duration) :
    c.Quiet (c.runCycle copies elapsed).2 := by
  cases hup : c.isConnected with
  | false =>
    rw [runCycle_of_down hup]
    exact .refl c
  | true =>
    obtain ⟨handle, cycle, hloop⟩ := exists_loop_of_isConnected hup
    have hrun := runCycle_of_loop hloop copies elapsed
    dsimp only at hrun
    rw [hrun]
    refine ⟨?_, rfl⟩
    rw [session_of_up hup]
    rfl

/-- A turn of the loop leaves the session alone, unless its cycle fails. -/
theorem turnDuring_cases (c : Connection τ σ) (elapsed : List Duration)
    (hunbroken : (c.turnDuring elapsed).1 ≠ .aborted) :
    c.Quiet (c.turnDuring elapsed).2 ∨
      (c.turnDuring elapsed).1 = .lost ∧ c.Lost (c.turnDuring elapsed).2 := by
  have hrun := c.applyTimeout_calm.1.quiet.trans
    (c.applyTimeout.runCycle_quiet c.applyTimeout.toQueues elapsed)
  unfold turnDuring at hunbroken ⊢
  dsimp only at hunbroken ⊢
  cases h : c.applyTimeout.runCycle c.applyTimeout.toQueues elapsed with
  | mk report d =>
    rw [h] at hrun hunbroken
    cases report with
    | none => exact .inl hrun
    | some report =>
      have hsettle := hrun.trans (d.settle_quiet report)
      obtain hquiet | ⟨hlost, hend⟩ := conclude_cases _ hunbroken
      · exact .inl (hsettle.trans hquiet)
      · exact .inr ⟨hlost, hend.of_quiet hsettle⟩

theorem perform_poll_of_up (hup : c.isConnected = true) (incidents : List (Moment × Incident))
    (v : Supervision) (elapsed : Nat → Duration) (scans : Nat) :
    c.perform (.poll incidents v elapsed scans) = c.checkPort :=
  congrArg (fun r : Bool × Search τ σ => r.2.conn) (if_pos hup)

theorem perform_poll_of_down (hdown : c.isConnected = false)
    (incidents : List (Moment × Incident)) (v : Supervision) (elapsed : Nat → Duration)
    (scans : Nat) :
    c.perform (.poll incidents v elapsed scans) = if v.autoReconnect then
      c.perform (.reconnect incidents (some v.reconnectTimeout) elapsed scans) else c := by
  refine (congrArg (fun r : Bool × Search τ σ => r.2.conn)
    (if_neg (Bool.eq_false_iff.mp hdown))).trans ?_
  split
  · rfl
  · rfl

/-- A supervisor leaves a connection that is up as it is, unless its port is no longer listed. -/
theorem poll_of_up (hup : c.isConnected = true) (incidents : List (Moment × Incident))
    (v : Supervision) (elapsed : Nat → Duration) (scans : Nat) :
    c.perform (.poll incidents v elapsed scans) = c ∨
      c.perform (.poll incidents v elapsed scans) = c.disconnect .portRemoved ∧
        ∃ port, c.activePort = some port ∧ c.portIsListed port = false := by
  rw [perform_poll_of_up hup]
  unfold checkPort
  cases hport : c.activePort with
  | none => exact .inl rfl
  | some port =>
    dsimp only
    split
    next => exact .inl rfl
    next hgone => exact .inr ⟨rfl, port, rfl, Bool.eq_false_iff.mpr hgone⟩

/-- A supervisor leaves a connection that is down as it is, or tries to bring it up. -/
theorem poll_of_down (hdown : c.isConnected = false) (incidents : List (Moment × Incident))
    (v : Supervision) (elapsed : Nat → Duration) (scans : Nat) :
    c.perform (.poll incidents v elapsed scans) = c ∨
      c.perform (.poll incidents v elapsed scans) =
        c.perform (.reconnect incidents (some v.reconnectTimeout) elapsed scans) := by
  rw [perform_poll_of_down hdown]
  split
  · exact .inr rfl
  · exact .inl rfl

/-! ## every deed -/

/-- A deed that leaves the session alone publishes nothing. -/
theorem Quiet.publishes {deed : Deed τ} (h : c.Quiet (c.perform deed)) :
    ∃ new, c.Publishes deed new ∧ (c.perform deed).events.toList = c.events.toList ++ new :=
  ⟨[], .nothing h.session, by rw [h.log, List.append_nil]⟩

theorem Searched.publishes {deed : Deed τ} (hdeed : deed.isSearch = true) {opened : Bool}
    (h : c.Searched opened (c.perform deed)) :
    ∃ new, c.Publishes deed new ∧ (c.perform deed).events.toList = c.events.toList ++ new := by
  obtain ⟨hsession, hlog⟩ | ⟨hbefore, tried, hkind, ⟨hafter, hlog⟩ | ⟨port, hafter, hlog⟩⟩ :=
    h.published
  · exact Quiet.publishes ⟨hsession, by rw [hlog]⟩
  · exact ⟨tried, .missed hdeed hbefore hafter hkind, hlog⟩
  · exact ⟨_, .opened hdeed hbefore hafter hkind, hlog⟩

/-- A deed that takes the connection down publishes that if a session was up. -/
theorem publishes_of_disconnect {deed : Deed τ} {reason : DisconnectReason}
    (hperform : c.perform deed = c.disconnect reason) (hreason : c.Ends deed reason) :
    ∃ new, c.Publishes deed new ∧ (c.perform deed).events.toList = c.events.toList ++ new := by
  cases hup : c.isConnected with
  | false =>
    obtain ⟨hafter, hlog⟩ := disconnect_of_down hup reason
    refine Quiet.publishes ⟨?_, ?_⟩
    · rw [hperform, hafter, session_of_down hup]
    · rw [hperform, hlog]
  | true =>
    obtain ⟨hafter, hlog⟩ := disconnect_of_up hup reason
    rw [← hperform] at hafter hlog
    refine ⟨_, .ended (session_of_up hup) hafter hreason, ?_⟩
    rw [hlog, EventLog.toList_publish]

theorem perform_publishes (c : Connection τ σ) (deed : Deed τ)
    (hunbroken : c.breaksOff deed = false) :
    ∃ new, c.Publishes deed new ∧ (c.perform deed).events.toList = c.events.toList ++ new := by
  cases deed with
  | connect incidents => exact (Search.begin c incidents).connect_searched.publishes rfl
  | reconnect incidents timeout elapsed scans =>
    exact ((Search.begin c incidents).reconnect_searched timeout elapsed scans).publishes rfl
  | disconnect => exact publishes_of_disconnect rfl .requested
  | poll incidents v elapsed scans =>
    cases hup : c.isConnected with
    | true =>
      obtain hpoll | ⟨hpoll, port, hport, hgone⟩ := poll_of_up hup incidents v elapsed scans
      · exact Quiet.publishes (.of_eq hpoll)
      · exact publishes_of_disconnect hpoll (.removed hport hgone)
    | false =>
      obtain hpoll | hpoll := poll_of_down hup incidents v elapsed scans
      · exact Quiet.publishes (.of_eq hpoll)
      · have hsearch := (Search.begin c incidents).reconnect_searched (some v.reconnectTimeout)
          elapsed scans
        exact Searched.publishes rfl ((congrArg (c.Searched _) hpoll).mpr hsearch)
  | turn elapsed =>
    obtain hquiet | ⟨hlost, hafter, port, message, hbefore, hlog⟩ :=
      c.turnDuring_cases elapsed (bne_iff_ne.mp (congrArg not hunbroken))
    · exact Quiet.publishes hquiet
    · exact ⟨_, .ended (d := .turn elapsed) hbefore hafter (.lost message hlost), hlog⟩
  | send values options => exact Quiet.publishes (c.sendValues_routine values options).quiet
  | receive offset => exact Quiet.publishes (c.receiveAt_routine offset).quiet
  | call request => exact Quiet.publishes (c.call_routine request).quiet
  | setTimeout => exact Quiet.publishes ⟨rfl, rfl⟩
  | setSendInterval => exact Quiet.publishes ⟨rfl, rfl⟩
  | collect => exact Quiet.publishes ⟨rfl, rfl⟩
  | devices => exact Quiet.publishes ⟨rfl, rfl⟩
  | clock => exact Quiet.publishes ⟨rfl, rfl⟩

/-! ## runs -/

/-- The log leads to the session that is up. -/
def InStep (c : Connection τ σ) : Prop :=
  Event.passAll none c.events.toList = some c.session

theorem InStep.perform (h : c.InStep) (deed : Deed τ) (hunbroken : c.breaksOff deed = false) :
    (c.perform deed).InStep := by
  obtain ⟨new, hnew, hlog⟩ := c.perform_publishes deed hunbroken
  unfold InStep at h ⊢
  rw [hlog, Event.passAll_append, h, Option.bind_some]
  cases hnew with
  | nothing hsame => rw [hsame]; rfl
  | missed _ hbefore hafter hkind => rw [hbefore, hafter, Event.passAll_tried hkind]
  | opened _ hbefore hafter hkind =>
    rw [hbefore, hafter, Event.passAll_append, Event.passAll_tried hkind]
    rfl
  | ended hbefore hafter _ =>
    rw [hbefore, hafter]
    simp [Event.passAll, Event.pass]

theorem InStep.performAll {deeds : List (Deed τ)} (h : c.InStep)
    (hunbroken : c.Unbroken deeds) : (c.performAll deeds).InStep := by
  induction deeds generalizing c with
  | nil => exact h
  | cons deed deeds ih => exact ih (h.perform deed hunbroken.1) hunbroken.2

theorem performAll_append (c : Connection τ σ) (deeds deeds' : List (Deed τ)) :
    c.performAll (deeds ++ deeds') = (c.performAll deeds).performAll deeds' :=
  List.foldl_append

theorem unbroken_append {deeds deeds' : List (Deed τ)} :
    c.Unbroken (deeds ++ deeds') ↔
      c.Unbroken deeds ∧ (c.performAll deeds).Unbroken deeds' := by
  induction deeds generalizing c with
  | nil => exact (iff_of_eq (true_and _)).symm
  | cons deed deeds ih => exact (and_congr_right fun _ => ih).trans and_assoc.symm

omit [Reading τ] [CustomCycle τ Mock.Line σ] in
theorem create_inStep {config : ConnectionConfig} {bench : Mock.Bench} {clock : Clock τ}
    {parked : Option (LoopCycle σ)} (hcreate : create config bench clock parked = .ok c) :
    c.InStep := by
  rw [create_eq hcreate]
  rfl

/-- The log of a connection that was created, used in any way and dropped is in order, and no
session is up at its end; after each deed it leads to the session that is up.  Each deed
publishes what it did to the session and nothing else; to disconnect when none is up publishes
nothing.  Calls are whole here, so no cycle fails or breaks off inside of one: neither while the
loop is being stopped nor before the start of a session is published. -/
theorem log_of_dropped {config : ConnectionConfig} {bench : Mock.Bench} {clock : Clock τ}
    {parked : Option (LoopCycle σ)} (hcreate : create config bench clock parked = .ok c)
    {deeds : List (Deed τ)} (hunbroken : c.Unbroken deeds) :
    Event.passAll none (c.performAll deeds).drop.events.toList = some none ∧
      ∀ before deed after, deeds ++ [.disconnect] = before ++ deed :: after →
        let b := c.performAll before
        Event.passAll none b.events.toList = some b.session ∧
          (∃ new, b.Publishes deed new ∧
            (b.perform deed).events.toList = b.events.toList ++ new) ∧
          (deed = .disconnect → b.session = none → (b.perform deed).events = b.events) := by
  have hinit := create_inStep hcreate
  have hall : c.Unbroken (deeds ++ [.disconnect]) :=
    unbroken_append.mpr ⟨hunbroken, rfl, trivial⟩
  constructor
  · have hend := (hinit.performAll hunbroken).perform .disconnect rfl
    have hdown : (c.performAll deeds).drop.session = none :=
      session_of_down ((c.performAll deeds).isConnected_bringDown _ .requested)
    exact hend.trans (congrArg some hdown)
  · intro before deed after hsplit
    rw [hsplit] at hall
    obtain ⟨hbefore, hdeed, -⟩ := unbroken_append.mp hall
    refine ⟨hinit.performAll hbefore, perform_publishes _ deed hdeed, ?_⟩
    rintro rfl hnone
    cases hup : (c.performAll before).isConnected with
    | false => exact (disconnect_of_down hup .requested).2
    | true => rw [session_of_up hup] at hnone; cases hnone

/-- Three sessions: the cycle of the first fails, a supervisor ends the second, and the third is
up when the connection is dropped. -/
theorem log_of_dropped_three_sessions :
    ∃ c : Connection Float SampleCycle,
      create (.ofPorts ["A"]) (.ofPorts ["A"]) (.fixed 5.0) (some (.custom .fragile)) = .ok c ∧
      let deeds := [.connect [], .send [.text "fail"] .default, .turn [], .disconnect,
        .reconnect [] none (fun _ => .zero) 1, .devices (.ofPorts []),
        .poll [] .default (fun _ => .zero) 1, .disconnect, .devices (.ofPorts ["A"]), .connect []]
      c.Unbroken deeds ∧
      (c.performAll deeds).drop.events.toList =
        [.connected "A", .disconnected "A" (.transportLost "cycle failed"), .reconnecting 1,
          .connected "A", .disconnected "A" .portRemoved,
          .connected "A", .disconnected "A" .requested] ∧
      Event.passAll none (c.performAll deeds).drop.events.toList = some none := by
  have hcreate : create (.ofPorts ["A"]) (.ofPorts ["A"]) (.fixed (5.0 : Float))
      (some (.custom SampleCycle.fragile)) = .ok _ := rfl
  refine ⟨_, hcreate, ?_⟩
  intro deeds
  refine ⟨?unbroken, ?_, (log_of_dropped hcreate ?unbroken).1⟩
  · exact ⟨rfl, rfl, by decide +kernel, rfl, rfl, rfl, rfl, rfl, rfl, rfl, trivial⟩
  · decide +kernel

end Connection

end SerialLink
