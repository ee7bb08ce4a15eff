import SerialLink.Cycle.Samples
import SerialLink.Proofs.Interplay.Simulation

/-!
# SerialLink.Proofs.Interplay.Ending

What is left of a loop when it has ended.

1. A loop that is stopped, or whose cycle fails, leaves nothing behind, and its end is
   published (`Interplay.Over.of_publish`).
2. A cycle that breaks off ends its loop without either: the queues stay as they are until the
   next attempt to bring the connection up or to take it down, and nothing is published, unless
   somebody was already waiting for the loop to stop (`Interplay.Underway.over_of_abort`).
3. A payload that is handed in when the loop is gone, by a caller who was permitted to send
   before, stays in the queue for as long (`Interplay.Aftermath.push`).
-/

namespace SerialLink

/-- The events published since a loop was last started, the newest first. -/
def EventLog.sinceConnected (l : EventLog) : List Event :=
  l.newestFirst.takeWhile fun e => e.kind != .connected

/-- If there ever was a loop, the end of the last one is published. -/
def Connection.Announced {τ σ : Type} (c : Connection τ σ) : Prop :=
  ∀ port, c.activePort = some port →
    ∃ reason, Event.disconnected port reason ∈ c.events.sinceConnected

/-! ## what is published -/

namespace EventLog

theorem sinceConnected_publish_of_ne {l : EventLog} {e : Event} (h : e.kind ≠ .connected) :
    (l.publish e).sinceConnected = e :: l.sinceConnected :=
  List.takeWhile_cons_of_pos (bne_iff_ne.mpr h)

theorem sinceConnected_connected (l : EventLog) (port : String) :
    (l.publish (.connected port)).sinceConnected = [] :=
  List.takeWhile_cons_of_neg (by simp [Event.kind])

end EventLog

namespace Connection

variable {τ σ : Type} {c d : Connection τ σ}

theorem Announced.congr (h : c.Announced) (hport : d.activePort = c.activePort)
    (hlog : ∀ port reason, Event.disconnected port reason ∈ d.events.sinceConnected ↔
      Event.disconnected port reason ∈ c.events.sinceConnected) : d.Announced := by
  intro port hactive
  obtain ⟨reason, hmem⟩ := h port (hport ▸ hactive)
  exact ⟨reason, (hlog port reason).mpr hmem⟩

theorem activePort_clearAway (c : Connection τ σ) : c.clearAway.activePort = c.activePort := by
  unfold clearAway
  split <;> rfl

theorem events_clearAway (c : Connection τ σ) : c.clearAway.events = c.events := by
  unfold clearAway
  split <;> rfl

theorem toQueues_clearAway (h : c.loop.hasEnded = true) :
    c.clearAway.toQueues = c.toQueues.clear := by
  unfold clearAway
  cases hloop : c.loop with
  | ended left => rfl
  | stopped parked => rw [hloop] at h; cases h
  | running handle cycle => rw [hloop] at h; cases h

theorem clearAway_of_not_hasEnded (h : c.loop.hasEnded = false) : c.clearAway = c := by
  unfold clearAway
  cases hloop : c.loop with
  | ended left => rw [hloop] at h; cases h
  | stopped parked => rfl
  | running handle cycle => rfl

/-- To take a connection down that was down is to clear away what is left of its loop. -/
theorem bringDown_of_down (hdown : c.isConnected = false) (reason : DisconnectReason) :
    c.bringDown false reason = c.clearAway := by
  unfold bringDown clearAway
  unfold isConnected at hdown
  cases hloop : c.loop with
  | ended left => rfl
  | stopped parked => rfl
  | running handle cycle => rw [hloop] at hdown; cases hdown

/-- Trying candidates does not publish the end of a loop. -/
theorem Scanned.mem_sinceConnected (h : c.Scanned d) (port : String) (reason : DisconnectReason) :
    Event.disconnected port reason ∈ d.events.sinceConnected ↔
      Event.disconnected port reason ∈ c.events.sinceConnected := by
  obtain ⟨tried, hkind, hlog⟩ := h.events
  have hskip : ∀ e ∈ tried, (e.kind != .connected) = true := fun e he => by
    rw [hkind e he]
    rfl
  unfold EventLog.sinceConnected
  rw [hlog, List.takeWhile_append_of_pos hskip, List.mem_append]
  refine or_iff_right fun hmem => ?_
  cases hkind _ hmem

end Connection

namespace Interplay

variable {τ σ : Type} {p : τ → Prop} {i j : Interplay τ σ}

/-- What is known while a loop runs. -/
structure Underway (c : Connection τ σ) (broken late : Bool) : Prop where
  broken : broken = false
  late : late = false
  port : ∃ port, c.activePort = some port
  silent : ∀ port reason, Event.disconnected port reason ∉ c.events.sinceConnected

/-- What is known when there is no loop. -/
structure Over (c : Connection τ σ) (broken late : Bool) : Prop where
  announced : c.Announced ↔ broken = false
  received : broken = false → c.receive.toList = []
  sent : broken = false → late = false → c.send.toList = []
  late : late = true → c.send.toList ≠ []

/-- What is known in any case. -/
structure Aftermath (i : Interplay τ σ) : Prop where
  up : i.conn.isConnected = true → Underway i.conn i.broken i.late
  down : i.conn.isConnected = false → Over i.conn i.broken i.late

/-- Who waits for a loop to stop has seen whether there is one. -/
structure Awaited (i : Interplay τ σ) : Prop where
  idle : ∀ reason, i.stopping = some (false, reason) → i.conn.isConnected = false
  loop : ∀ reason, i.stopping = some (true, reason) → ∀ parked, i.conn.loop ≠ .stopped parked

/-! ## the ways in which a loop ends -/

variable {c d : Connection τ σ}

/-- A loop ends with empty queues, and its end is published. -/
theorem Over.of_publish (reason : DisconnectReason) (hport : d.activePort = c.activePort)
    (hqueues : d.toQueues = c.toQueues.clear)
    (hlog : d.events = c.events.publish (.disconnected (c.activePort.getD "") reason)) :
    Over d false false where
  announced := by
    refine ⟨fun _ => rfl, fun _ port hactive => ⟨reason, ?_⟩⟩
    rw [hport] at hactive
    rw [hlog, EventLog.sinceConnected_publish_of_ne (by simp [Event.kind]), hactive]
    exact List.mem_cons_self
  received _ := by
    rw [hqueues]
    rfl
  sent _ _ := by
    rw [hqueues]
    rfl
  late := nofun

/-- A loop whose cycle breaks off is not announced to have ended. -/
theorem Underway.over_of_abort {broken late : Bool} (h : Underway c broken late)
    (hport : d.activePort = c.activePort) (hlog : d.events = c.events) : Over d true late where
  announced := by
    refine ⟨fun hannounced => ?_, nofun⟩
    obtain ⟨port, hactive⟩ := h.port
    obtain ⟨reason, hmem⟩ := hannounced port (hport.trans hactive)
    rw [hlog] at hmem
    exact absurd hmem (h.silent port reason)
  received := nofun
  sent := nofun
  late hlate := by rw [h.late] at hlate; cases hlate

/-- When no loop runs, an attempt to bring the connection up clears away what is left of the
last one, if that ended on its own. -/
theorem Over.clearAway {broken late : Bool} (h : Over c broken late)
    (hscan : c.clearAway.Scanned d) : Over d broken (late && !c.loop.hasEnded) := by
  have hport : d.activePort = c.activePort := by
    rw [hscan.eq]
    exact c.activePort_clearAway
  have hmem := hscan.mem_sinceConnected
  rw [c.events_clearAway] at hmem
  have hannounced : d.Announced ↔ c.Announced :=
    ⟨fun h => h.congr hport.symm fun port reason => (hmem port reason).symm,
      fun h => h.congr hport hmem⟩
  have hqueues : d.toQueues = c.clearAway.toQueues := by rw [hscan.eq]
  cases hended : c.loop.hasEnded with
  | true =>
    rw [Connection.toQueues_clearAway hended] at hqueues
    refine ⟨hannounced.trans h.announced, fun _ => ?_, fun _ _ => ?_, fun hlate => ?_⟩
    · rw [hqueues]
      rfl
    · rw [hqueues]
      rfl
    · rw [Bool.not_true, Bool.and_false] at hlate
      cases hlate
  | false =>
    rw [Connection.clearAway_of_not_hasEnded hended] at hqueues
    rw [Bool.not_false, Bool.and_true]
    refine ⟨hannounced.trans h.announced, ?_, ?_, ?_⟩
    · rw [hqueues]
      exact h.received
    · rw [hqueues]
      exact h.sent
    · rw [hqueues]
      exact h.late

theorem Aftermath.of_up (hup : i.conn.isConnected = true)
    (h : Underway i.conn i.broken i.late) : i.Aftermath :=
  ⟨fun _ => h, fun hdown => absurd (hup.symm.trans hdown) Bool.noConfusion⟩

theorem Aftermath.of_down (hdown : i.conn.isConnected = false)
    (h : Over i.conn i.broken i.late) : i.Aftermath :=
  ⟨fun hup => absurd (hup.symm.trans hdown) Bool.noConfusion, fun _ => h⟩

/-- What is known depends on the queues, the port, the log and the marks only, and not on the
queues while a loop runs. -/
theorem Aftermath.congr (h : i.Aftermath) (hconn : j.conn.isConnected = i.conn.isConnected)
    (hqueues : i.conn.isConnected = false → j.conn.toQueues = i.conn.toQueues)
    (hport : j.conn.activePort = i.conn.activePort)
    (hlog : j.conn.events.newestFirst = i.conn.events.newestFirst)
    (hbroken : j.broken = i.broken) (hlate : j.late = i.late) : j.Aftermath := by
  have hsince : j.conn.events.sinceConnected = i.conn.events.sinceConnected := by
    unfold EventLog.sinceConnected
    rw [hlog]
  cases hup : i.conn.isConnected with
  | true =>
    obtain ⟨hunbroken, hintime, hactive, hsilent⟩ := h.up hup
    refine .of_up (hconn.trans hup) ⟨hbroken.trans hunbroken, hlate.trans hintime, ?_, ?_⟩
    · rw [hport]
      exact hactive
    · rw [hsince]
      exact hsilent
  | false =>
    have hover := h.down hup
    have hsend : j.conn.send = i.conn.send := congrArg Queues.send (hqueues hup)
    have hreceive : j.conn.receive = i.conn.receive := congrArg Queues.receive (hqueues hup)
    refine .of_down (hconn.trans hup) ⟨?_, ?_, ?_, ?_⟩
    · rw [hbroken, ← hover.announced]
      unfold Connection.Announced
      rw [hport, hsince]
    · rw [hbroken, hreceive]
      exact hover.received
    · rw [hbroken, hlate, hsend]
      exact hover.sent
    · rw [hlate, hsend]
      exact hover.late

/-- Whoever waits does so until the loop has stopped, and nobody starts another one. -/
theorem Awaited.congr (h : i.Awaited) (hstop : j.stopping = i.stopping)
    (hdown : i.conn.isConnected = false → j.conn.isConnected = false)
    (hloop : (∀ parked, i.conn.loop ≠ .stopped parked) → ∀ parked, j.conn.loop ≠ .stopped parked) :
    j.Awaited :=
  ⟨fun reason heq => hdown (h.idle reason (hstop ▸ heq)),
    fun reason heq => hloop (h.loop reason (hstop ▸ heq))⟩

/-- Nobody waits. -/
theorem Awaited.of_none (hnone : i.stopping = none) : i.Awaited := by
  constructor
  · intro reason heq
    rw [hnone] at heq
    cases heq
  · intro reason heq
    rw [hnone] at heq
    cases heq

/-- The loop has stopped for somebody who waited for that. -/
theorem Aftermath.bringDown (h : i.Aftermath) (hwaits : i.Awaited) {wasUp : Bool}
    {reason : DisconnectReason} (hstop : i.stopping = some (wasUp, reason)) :
    (i.bringDown wasUp reason).Aftermath := by
  refine .of_down (i.conn.isConnected_bringDown wasUp reason) ?_
  show Over (i.conn.bringDown wasUp reason) (i.broken && !wasUp)
    (i.late && !i.conn.loop.hasEnded)
  cases wasUp with
  | false =>
    have hdown := hwaits.idle reason hstop
    rw [Connection.bringDown_of_down hdown, Bool.not_false, Bool.and_true]
    exact (h.down hdown).clearAway (.refl _)
  | true =>
    rw [Bool.not_true, Bool.and_false]
    unfold Connection.bringDown
    cases hloop : i.conn.loop with
    | stopped parked => exact absurd hloop (hwaits.loop reason hstop parked)
    | ended left =>
      rw [Loop.hasEnded, Bool.not_true, Bool.and_false]
      exact Over.of_publish (c := i.conn) reason rfl rfl rfl
    | running handle cycle =>
      have hunderway := h.up (Connection.isConnected_of_loop hloop)
      rw [hunderway.late, Bool.false_and]
      exact Over.of_publish (c := i.conn) reason rfl rfl rfl

/-- The turn of a loop is over: either the loop goes on, or its cycle has failed. -/
theorem Aftermath.conclude (h : i.Aftermath) (hup : i.conn.isConnected = true)
    {result : Except CycleFault Unit} (hresult : result ≠ .error .aborted) :
    (i.conclude result).Aftermath := by
  obtain ⟨handle, cycle, hloop⟩ := Connection.exists_loop_of_isConnected hup
  obtain ⟨hbroken, hlate, hport, hsilent⟩ := h.up hup
  unfold Interplay.conclude Connection.conclude
  rw [hloop]
  match result with
  | .ok () => exact .of_up hup ⟨hbroken, hlate, hport, hsilent⟩
  | .error (.failed e) =>
    refine .of_down rfl ?_
    rw [hbroken, hlate]
    exact Over.of_publish (c := i.conn) (.transportLost e.message) rfl rfl rfl
  | .error .aborted => exact absurd rfl hresult

theorem Aftermath.abort (h : i.Aftermath) (hup : i.conn.isConnected = true) :
    i.abort.Aftermath := by
  obtain ⟨handle, cycle, hloop⟩ := Connection.exists_loop_of_isConnected hup
  unfold Interplay.abort Connection.conclude
  rw [hloop]
  exact .of_down rfl ((h.up hup).over_of_abort rfl rfl)

/-- A payload that the queue takes is late if there is no loop. -/
theorem Aftermath.push (h : i.Aftermath) {payload : Bytes} {send : SendQueue}
    (hpush : i.conn.send.push? payload = some send) : (i.push payload send).Aftermath := by
  cases hconn : i.conn.isConnected with
  | true =>
    obtain ⟨hbroken, hlate, hport, hsilent⟩ := h.up hconn
    refine .of_up hconn ⟨hbroken, ?_, hport, hsilent⟩
    rw [Interplay.push, hconn, Bool.not_true, Bool.or_false]
    exact hlate
  | false =>
    have hover := h.down hconn
    refine .of_down hconn ⟨hover.announced, hover.received, fun _ hlate => ?_, fun _ => ?_⟩
    · rw [Interplay.push, hconn, Bool.not_false, Bool.or_true] at hlate
      cases hlate
    · show send.toList ≠ []
      rw [SendQueue.toList_push? hpush]
      exact List.concat_ne_nil payload i.conn.send.toList

variable [CustomCycle τ Mock.Line σ]

theorem Aftermath.search (h : i.Aftermath) {opened : Bool} (hsearch : i.conn.Searched opened c) :
    (i.become c).Aftermath := by
  cases hsearch with
  | refused hup =>
    obtain ⟨hbroken, hlate, hport, hsilent⟩ := h.up hup
    rw [become_of_isConnected hup, hlate, Bool.false_and]
    exact .of_up hup ⟨hbroken, rfl, hport, hsilent⟩
  | missed hdown hscan =>
    have hgone := hscan.isConnected.trans ((Search.isConnected_clearAway i.conn).trans hdown)
    rw [become_of_down hgone]
    exact .of_down hgone ((h.down hdown).clearAway hscan)
  | opened hdown hscan handle =>
    rw [become_start hdown]
    refine .of_up rfl ⟨rfl, rfl, ⟨handle.port, rfl⟩, fun port reason hmem => ?_⟩
    change _ ∈ (EventLog.publish _ (.connected handle.port)).sinceConnected at hmem
    rw [EventLog.sinceConnected_connected] at hmem
    cases hmem

theorem Aftermath.change (hcoherent : i.Coherent p) (hwaits : i.Awaited) (h : i.Aftermath)
    (hchange : Change p i j) : j.Aftermath := by
  have hup := hcoherent.isConnected
  cases hchange with
  | searched _ hsearch => exact h.search hsearch
  | stopping => exact h.congr rfl (fun _ => rfl) rfl rfl rfl rfl
  | stopped hstop => exact h.bringDown hwaits hstop
  | calm hcalm =>
    exact h.congr hcalm.isConnected (fun _ => by rw [hcalm.eq]) (by rw [hcalm.eq]) hcalm.events
      rfl rfl
  | throttled => exact h
  | permitted => exact h.congr rfl (fun _ => rfl) rfl rfl rfl rfl
  | queued hpush => exact h.push hpush
  | given => exact h.congr rfl (fun _ => rfl) rfl rfl rfl rfl
  | copied => exact h.congr rfl (fun _ => rfl) rfl rfl rfl rfl
  | worked _ hloop =>
    exact h.congr (Connection.isConnected_of_loop hloop).symm (fun _ => rfl) rfl rfl rfl rfl
  | settled hphase =>
    refine h.congr rfl (fun hdown => ?_) rfl rfl rfl rfl
    rw [hup (by rw [hphase]; exact nofun)] at hdown
    cases hdown
  | concluded hphase =>
    refine h.conclude (hup (by rw [hphase]; exact nofun)) fun heq => ?_
    exact hcoherent.settled (heq ▸ hphase)
  | aborted hphase => exact h.abort (hup (by rw [hphase]; exact nofun))

theorem Awaited.change (h : i.Awaited) (hchange : Change p i j) : j.Awaited := by
  cases hchange with
  | searched hfree =>
    refine .of_none ?_
    unfold become
    split
    · rfl
    · exact hfree
  | stopping hfree reason =>
    constructor
    · intro reason' heq
      exact congrArg Prod.fst (Option.some.inj heq)
    · intro reason' heq parked hloop
      have hup : i.conn.isConnected = true := congrArg Prod.fst (Option.some.inj heq)
      obtain ⟨handle, cycle, hrunning⟩ := Connection.exists_loop_of_isConnected hup
      rw [hrunning] at hloop
      cases hloop
  | stopped => exact .of_none rfl
  | calm hcalm => exact h.congr rfl hcalm.isConnected.trans (by rw [hcalm.eq]; exact id)
  | throttled => exact h
  | permitted => exact h.congr rfl id id
  | queued => exact h.congr rfl id id
  | given => exact h.congr rfl id id
  | copied => exact h.congr rfl id id
  | worked _ hloop =>
    exact h.congr rfl ((Connection.isConnected_of_loop hloop).symm.trans) fun _ _ => nofun
  | settled => exact h.congr rfl id id
  | concluded =>
    refine h.congr rfl (fun hdown => ?_) fun hloop => Connection.conclude_ne_stopped hloop _
    rw [Interplay.conclude, Connection.conclude_of_down hdown]
    exact hdown
  | aborted =>
    refine h.congr rfl (fun hdown => ?_) fun hloop => Connection.conclude_ne_stopped hloop _
    rw [Interplay.abort, Connection.conclude_of_down hdown]
    exact hdown

variable [Reading τ]

theorem Reachable.aftermath (hi : Reachable p i) : i.Awaited ∧ i.Aftermath := by
  induction hi with
  | create hcreate =>
    rw [Connection.create_eq hcreate]
    exact ⟨.of_none rfl, .of_down rfl ⟨⟨fun _ => rfl, fun _ => nofun⟩, fun _ => rfl, fun _ _ => rfl,
      nofun⟩⟩
  | step hi hstep ih =>
    obtain ⟨hwaits, haftermath⟩ := ih
    exact ⟨hwaits.change hstep.change, haftermath.change hi.coherent hwaits hstep.change⟩

/-- When there is no loop, nothing is left of the last one and its end is published, unless its
cycle broke off or a payload was handed in too late. -/
theorem nothing_left_iff (hi : Reachable p i) (hdown : i.conn.isConnected = false) :
    (i.conn.pendingSends = 0 ∧ i.conn.receivedCount = 0 ∧ i.conn.receivedFrames = [] ∧
        i.conn.Announced) ↔
      i.broken = false ∧ i.late = false := by
  have hover := hi.aftermath.2.down hdown
  constructor
  · rintro ⟨hpending, -, -, hannounced⟩
    refine ⟨hover.announced.mp hannounced, ?_⟩
    rw [← Bool.not_eq_true]
    intro hlate
    refine hover.late hlate (List.eq_nil_of_length_eq_zero ?_)
    rw [← SendQueue.size_eq_length]
    exact hpending
  · rintro ⟨hbroken, hlate⟩
    have hsend := hover.sent hbroken hlate
    have hreceive := hover.received hbroken
    refine ⟨?_, ?_, hreceive, hover.announced.mpr hbroken⟩
    · rw [Connection.pendingSends, SendQueue.size_eq_length, hsend]
      rfl
    · rw [Connection.receivedCount, ReceiveQueue.size_eq_length, hreceive]
      rfl

/-- A cycle that fails has taken one of two payloads; the other one is gone with the loop, and so
is one that was handed in meanwhile. -/
theorem nothing_left_after_failure :
    ∃ i : Interplay Float SampleCycle, Reachable (fun _ => True) i ∧
      i.conn.isConnected = false ∧ i.journal.queued = ["fail", "b", "c"].map Text.Utf8.bytes ∧
      i.conn.pendingSends = 0 ∧ i.conn.receivedCount = 0 ∧ i.conn.receivedFrames = [] ∧
      i.conn.Announced := by
  have hcreate : Connection.create (.ofPorts ["A"]) (.ofPorts ["A"]) (.fixed (5.0 : Float))
      (some (.custom SampleCycle.fragile)) = .ok _ := rfl
  have h₀ : Reachable (fun _ => True) _ := .create hcreate ⟨trivial, fun _ _ => trivial⟩
  have h₁ := h₀.step (.connect _ rfl (.begin _ []) rfl)
  have h₂ := (h₁.step (.permit _ ⟨5.0, .zero⟩)).step (.push _ (Text.Utf8.bytes "fail") rfl)
  have h₃ := (h₂.step (.permit _ ⟨5.0, .zero⟩)).step (.push _ (Text.Utf8.bytes "b") rfl)
  have h₄ := h₃.step (.copy _ rfl rfl)
  have h₅ := h₄.step (.work _ rfl rfl [] (fun _ h => h.eq_take.symm) ⟨trivial, fun _ _ => trivial⟩)
  have h₆ := (h₅.step (.permit _ ⟨5.0, .zero⟩)).step (.push _ (Text.Utf8.bytes "c") rfl)
  have h₇ := (h₆.step (.settle _ rfl nofun)).step (.conclude _ rfl)
  refine ⟨_, h₇, ?_, ?_, ?_⟩
  · decide +kernel
  · decide +kernel
  · refine (nothing_left_iff h₇ ?_).mpr ⟨?_, ?_⟩
    · decide +kernel
    · decide +kernel
    · decide +kernel

/-- A cycle that breaks off leaves the payload that it took in the send queue, and nobody is
told that the loop ended. -/
theorem exists_left_behind :
    ∃ i : Interplay Float SampleCycle, Reachable (fun _ => True) i ∧ i.phase = .resting ∧
      i.stopping = none ∧ i.conn.isConnected = false ∧ i.late = false ∧
      i.conn.pendingSends = 1 ∧ i.conn.activePort = some "A" ∧
      i.conn.events.toList = [.connected "A"] ∧ ¬ i.conn.Announced := by
  have hcreate : Connection.create (.ofPorts ["A"]) (.ofPorts ["A"]) (.fixed (5.0 : Float))
      (some (.custom SampleCycle.fragile)) = .ok _ := rfl
  have h₀ : Reachable (fun _ => True) _ := .create hcreate ⟨trivial, fun _ _ => trivial⟩
  have h₁ := h₀.step (.connect _ rfl (.begin _ []) rfl)
  have h₂ := (h₁.step (.permit _ ⟨5.0, .zero⟩)).step (.push _ (Text.Utf8.bytes "panic") rfl)
  have h₃ := h₂.step (.copy _ rfl rfl)
  have h₄ := h₃.step (.work _ rfl rfl [] (fun _ h => h.eq_take.symm) ⟨trivial, fun _ _ => trivial⟩)
  have h₅ := h₄.step (.abort _ rfl rfl)
  refine ⟨_, h₅, rfl, rfl, rfl, rfl, rfl, rfl, rfl, fun hannounced => ?_⟩
  obtain ⟨reason, hmem⟩ := hannounced "A" rfl
  cases hmem

end Interplay

end SerialLink
