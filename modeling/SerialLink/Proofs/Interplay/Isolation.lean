import SerialLink.Cycle.Samples
import SerialLink.Proofs.Interplay.Simulation
import SerialLink.Proofs.LoopRun.Intake

/-!
# SerialLink.Proofs.Interplay.Isolation

A loop knows nothing of the loops before it.

1. Whatever became of a connection before, when it is brought up it begins anew: both queues
   are empty and the cycle carries nothing over (`Interplay.Opened.began`).
2. As long as no send was accepted since then, none is remembered, and as long as nobody was
   given a frame, no receipt is (`Interplay.Unmarked`).
3. The frames that are received are those of the bytes read since then
   (`Interplay.Began.received_framed`), and so are those that callers were given
   (`Interplay.Began.given_isInfix`).
-/

namespace SerialLink

namespace Connection

variable {τ σ : Type} [Reading τ] {c : Connection τ σ}

/-- When no send is remembered, a payload is accepted, whatever the caller has read. -/
theorem accept_first (hlast : c.lastSent = none) (t : Ticket τ) (payload : Bytes) :
    (c.accept t payload).1 = true := by
  have hthrottle : ¬ c.throttles t = true := by simp [throttles, hlast]
  simp [accept, hthrottle]

theorem sendValues_first (hup : c.isConnected = true) (hlast : c.lastSent = none)
    (values : List SendValue) (options : SendOptions) :
    (c.sendValues values options).1 = true := by
  unfold sendValues ticket?
  rw [if_pos hup]
  exact accept_first (c := { c with clock := c.clock.read.2 }) hlast _ _

/-- When no receipt is remembered, all frames are available. -/
theorem available_first (hup : c.isConnected = true) (hlast : c.lastReceived = none)
    (hlow : ∀ f ∈ c.receivedFrames, Reading.isLowest f.timestamp = false) :
    c.available = .ok c.receivedCount := by
  unfold available
  rw [if_pos hup, hlast, ReceiveQueue.countAfter_none hlow]
  rfl

end Connection

namespace Interplay

/-! ## being brought up -/

variable {τ σ : Type} [CustomCycle τ Mock.Line σ] {p : τ → Prop} {i j k : Interplay τ σ}
  {h : Mock.Handle} {cycle : LoopCycle σ} {c : StandardCycle}

/-- The connection was down and is brought up. -/
inductive Opened : Interplay τ σ → Interplay τ σ → Prop
  | connect (i : Interplay τ σ) (s : Search τ σ) (hs : s.conn = i.conn)
      (h : s.connect.1 = .ok ()) : Opened i (i.become s.connect.2.conn)
  | reconnect (i : Interplay τ σ) (s : Search τ σ) (hs : s.conn = i.conn)
      (timeout : Option Duration) (elapsed : Nat → Duration) (scans : Nat)
      (h : (s.reconnect timeout elapsed scans).1 = .returned (.ok ())) :
    Opened i (i.become (s.reconnect timeout elapsed scans).2.conn)

theorem become_of_opened {c : Connection τ σ} (hsearch : i.conn.Searched true c) :
    ∃ d handle, i.conn.clearAway.Scanned d ∧ i.become c = fresh (d.start handle) := by
  cases hsearch with
  | opened hdown hscan handle => exact ⟨_, handle, hscan, become_start hdown _ handle⟩

/-- A connection that is brought up begins anew. -/
theorem Opened.eq_fresh (hopened : Opened i j) :
    ∃ d handle, i.conn.clearAway.Scanned d ∧ j = fresh (d.start handle) := by
  cases hopened with
  | connect s hs h =>
    have hsearch := s.connect_searched
    rw [h] at hsearch
    exact become_of_opened (hs ▸ hsearch)
  | reconnect s hs timeout elapsed scans h =>
    have hsearch := s.reconnect_searched timeout elapsed scans
    rw [h] at hsearch
    exact become_of_opened (hs ▸ hsearch)

/-! ## marks -/

/-- As long as no send is accepted, none is remembered; as long as nobody is given a frame, no
receipt is remembered. -/
structure Unmarked (i : Interplay τ σ) : Prop where
  lastSent : i.sent = false → i.conn.lastSent = none
  lastReceived : i.given = [] → i.conn.lastReceived = none

theorem unmarked_start (c : Connection τ σ) (handle : Mock.Handle) :
    (fresh (c.start handle)).Unmarked :=
  ⟨fun _ => rfl, fun _ => rfl⟩

theorem Unmarked.change (hi : i.Unmarked) (hchange : Change p i j)
    (hup : i.conn.isConnected = true) (hstays : j.conn.isConnected = true) : j.Unmarked := by
  cases hchange with
  | searched _ hsearch =>
    rw [become_of_searched hup hsearch]
    exact ⟨hi.lastSent, hi.lastReceived⟩
  | stopping => exact ⟨hi.lastSent, hi.lastReceived⟩
  | stopped =>
    rw [Interplay.bringDown, i.conn.isConnected_bringDown] at hstays
    cases hstays
  | calm hcalm =>
    rw [hcalm.eq]
    exact ⟨hi.lastSent, hi.lastReceived⟩
  | throttled => exact hi
  | permitted => exact ⟨nofun, hi.lastReceived⟩
  | queued => exact ⟨hi.lastSent, hi.lastReceived⟩
  | given mark frames hmark =>
    refine ⟨hi.lastSent, fun hnone => ?_⟩
    obtain ⟨hgiven, hframes⟩ := List.append_eq_nil_iff.mp hnone
    exact (hmark hframes).trans (hi.lastReceived hgiven)
  | copied => exact ⟨hi.lastSent, hi.lastReceived⟩
  | worked => exact ⟨hi.lastSent, hi.lastReceived⟩
  | settled => exact ⟨hi.lastSent, hi.lastReceived⟩
  | concluded =>
    unfold Interplay.conclude at hstays ⊢
    rw [Connection.conclude_of_isConnected hstays]
    exact ⟨hi.lastSent, hi.lastReceived⟩
  | aborted =>
    unfold Interplay.abort at hstays ⊢
    rw [Connection.conclude_of_isConnected hstays]
    exact ⟨hi.lastSent, hi.lastReceived⟩

/-- A frame that a caller is given stands in the history at that moment. -/
theorem Change.given_subset (hchange : Change p i j) (hup : i.conn.isConnected = true)
    (hstays : j.conn.isConnected = true) :
    ∀ f ∈ j.given, f ∈ i.given ∨ f ∈ i.conn.receivedFrames := by
  intro f hf
  cases hchange with
  | searched _ hsearch =>
    rw [become_of_searched hup hsearch] at hf
    exact .inl hf
  | given _ _ _ hheld => exact (List.mem_append.mp hf).imp_right (hheld f)
  | _ => exact .inl hf

/-! ## how a loop begins -/

/-- The connection as it was when its loop started with the standard cycle. -/
structure Began (p : τ → Prop) (i : Interplay τ σ) (h : Mock.Handle) (c : StandardCycle) :
    Prop where
  loop : i.conn.loop = .running h (.standard c)
  start : ∃ queues c₀ device clock, clock.All p ∧ c = c₀.reset ∧
    i.run h (.standard c) = LoopRun.start queues (.standard c₀) device clock
  given : i.given = []
  unmarked : i.Unmarked

theorem Began.empty (hj : j.Began p h c) :
    j.conn.pendingSends = 0 ∧ j.conn.receivedCount = 0 ∧ c.framer.pending = 0 := by
  obtain ⟨queues, c₀, device, clock, -, rfl, hstart⟩ := hj.start
  have hqueues : j.conn.toQueues = queues.clear := congrArg LoopRun.queues hstart
  rw [Connection.pendingSends, Connection.receivedCount, hqueues]
  exact ⟨rfl, rfl, rfl⟩

/-! ## staying up -/

variable [Reading τ]

/-- Whatever became of the connection before, this is how it begins. -/
theorem Opened.began (hi : Reachable p i) (hopened : Opened i j)
    (hloop : j.conn.loop = .running h (.standard c)) : j.Began p h c := by
  obtain ⟨d, handle, hscan, rfl⟩ := hopened.eq_fresh
  obtain ⟨rfl, hcycle⟩ := Loop.running.inj hloop
  have hclock : d.clock.All p := by
    rw [hscan.clock, Search.clock_clearAway]
    exact hi.coherent.clock
  refine ⟨hloop, ?_, rfl, unmarked_start d handle⟩
  cases hnext : d.nextCycle with
  | custom state => rw [hnext] at hcycle; cases hcycle
  | standard c₀ =>
    rw [hnext] at hcycle
    refine ⟨d.toQueues, c₀, (d.start handle).line handle, d.clock, hclock,
      (LoopCycle.standard.inj hcycle).symm, ?_⟩
    rw [← hcycle]
    rfl

/-- What can happen while the connection stays up. -/
abbrev Stays (p : τ → Prop) : Interplay τ σ → Interplay τ σ → Prop :=
  Relation.ReflTransGen fun i j => Step p i j ∧ j.conn.isConnected = true

theorem Stays.run (hstays : Stays p i j) (hloop : i.conn.loop = .running h cycle) :
    ∃ cycle', j.conn.loop = .running h cycle' ∧
      LoopRun.Course p (i.run h cycle) (j.run h cycle') := by
  induction hstays with
  | refl => exact ⟨cycle, hloop, .refl⟩
  | tail _ hstep ih =>
    obtain ⟨cycle', hloop', hcourse⟩ := ih
    cases hstep.1.run hloop' with
    | inl hdown => rw [hstep.2] at hdown; cases hdown
    | inr hmore =>
      obtain ⟨cycle'', hloop'', hmore⟩ := hmore
      exact ⟨cycle'', hloop'', hcourse.trans hmore⟩

theorem Stays.unmarked (hstays : Stays p i j) (hi : i.Unmarked)
    (hup : i.conn.isConnected = true) : j.Unmarked ∧ j.conn.isConnected = true := by
  induction hstays with
  | refl => exact ⟨hi, hup⟩
  | tail _ hstep ih => exact ⟨ih.1.change hstep.1.change ih.2 hstep.2, hstep.2⟩

/-! ## what is received -/

/-- Its loop has run a course from its start on. -/
theorem Began.course (hj : j.Began p h c) (hstays : Stays p j k) :
    ∃ cycle queues c₀ device clock, k.conn.loop = .running h cycle ∧ clock.All p ∧
      LoopRun.Course p (LoopRun.start queues (.standard c₀) device clock) (k.run h cycle) := by
  obtain ⟨queues, c₀, device, clock, hclock, -, hstart⟩ := hj.start
  obtain ⟨cycle, hloop, hcourse⟩ := hstays.run hj.loop
  rw [hstart] at hcourse
  exact ⟨cycle, queues, c₀, device, clock, hloop, hclock, hcourse⟩

theorem Began.received_isInfix (hj : j.Began p h c) (hstays : Stays p j k) :
    ∀ f ∈ k.conn.receivedFrames, f.payload <:+: k.journal.record.read := by
  obtain ⟨cycle, queues, c₀, device, clock, -, -, hcourse⟩ := hj.course hstays
  exact LoopRun.received_isInfix hcourse

/-- Under a stable framing, the history holds the latest of the frames that one feeding of all
bytes read since then gives. -/
theorem Began.received_framed (hj : j.Began p h c) (hstays : Stays p j k)
    (hstable : c.framer.config.Stable) (hfits : c.framer.config.windowFits = true)
    (hphase : ∀ report, k.phase ≠ .worked report) :
    k.conn.receive.payloads =
      ((Framer.create c.framer.config).feed k.journal.record.read).1.rtake
        j.conn.receive.capacity := by
  obtain ⟨queues, c₀, device, clock, -, rfl, hstart⟩ := hj.start
  obtain ⟨cycle, -, hcourse⟩ := hstays.run hj.loop
  rw [hstart] at hcourse
  have hcapacity : j.conn.receive.capacity = queues.receive.capacity :=
    congrArg (·.queues.receive.capacity) hstart
  rw [hcapacity]
  exact LoopRun.received_framed (c := c₀) hstable hfits hcourse hphase

/-- Frames that callers were given were received before. -/
theorem Began.given_isInfix (hj : j.Began p h c) (hstays : Stays p j k) :
    ∀ f ∈ k.given, f.payload <:+: k.journal.record.read := by
  induction hstays with
  | refl => rw [hj.given]; exact nofun
  | tail hstays hstep ih =>
    obtain ⟨cycle, -, -, -, -, hloop, -, -⟩ := hj.course hstays
    have hup := Connection.isConnected_of_loop hloop
    obtain ⟨cycle', -, hcourse⟩ := Stays.run (.single hstep) hloop
    have hread := (LoopRun.record_read_prefix hcourse).isInfix
    intro f hf
    cases hstep.1.change.given_subset hup hstep.2 f hf with
    | inl hgiven => exact (ih f hgiven).trans hread
    | inr hheld => exact (hj.received_isInfix hstays f hheld).trans hread

theorem Began.unmarked_after (hj : j.Began p h c) (hstays : Stays p j k) :
    k.Unmarked ∧ k.conn.isConnected = true :=
  hstays.unmarked hj.unmarked (Connection.isConnected_of_loop hj.loop)

/-! ## what is left of earlier loops -/

variable {σ : Type} [CustomCycle Float Mock.Line σ]

/-- When a connection is brought up, whatever became of it before, and its loop runs the
standard cycle, then nothing of an earlier loop is left: both queues are empty, and the cycle
carries nothing over.  As long as the connection stays up, the first send is accepted,
whatever the interval and the clock; until a caller is given a frame all frames are
available, if the clock gives finite readings; frames stand in what was read since the
connection was brought up; and what was written since then was queued since then. -/
theorem isolated_of_opened {p : Float → Prop} {i j k : Interplay Float σ} (hi : Reachable p i)
    (hopened : Opened i j) {h : Mock.Handle} {c : StandardCycle}
    (hloop : j.conn.loop = .running h (.standard c)) (hstays : Stays p j k) :
    (j.conn.pendingSends = 0 ∧ j.conn.receivedCount = 0 ∧ c.framer.pending = 0) ∧
      (k.sent = false → (∀ t payload, (k.conn.accept t payload).1 = true) ∧
        ∀ values options, (k.conn.sendValues values options).1 = true) ∧
      ((∀ t, p t → t.isFinite = true) → k.given = [] →
        k.conn.available = .ok k.conn.receivedCount) ∧
      (∀ f, f ∈ k.conn.receivedFrames ∨ f ∈ k.given → f.payload <:+: k.journal.record.read) ∧
      k.journal.record.written <+: k.journal.queued := by
  have hj : j.Began p h c := hopened.began hi hloop
  obtain ⟨hmarks, hup⟩ := hj.unmarked_after hstays
  obtain ⟨cycle, queues, c₀, device, clock, -, hclock, hcourse⟩ := hj.course hstays
  refine ⟨hj.empty, fun hsent => ?_, fun hfinite hgiven => ?_, fun f hf => ?_, ?_⟩
  · have hlast := hmarks.lastSent hsent
    exact ⟨Connection.accept_first hlast, Connection.sendValues_first hup hlast⟩
  · refine Connection.available_first hup (hmarks.lastReceived hgiven) fun f hf => ?_
    have hordered : Reading.Ordered p := Reading.ordered_float.mono fun t ht =>
      Reading.isNaN_of_isFinite (hfinite t ht)
    have hinOrder := LoopRun.received_inOrder hordered hclock hcourse
    have hreading : p f.timestamp := hinOrder.readings f hf
    exact Reading.isLowest_of_isFinite (hfinite _ hreading)
  · cases hf with
    | inl hheld => exact hj.received_isInfix hstays f hheld
    | inr hgiven => exact hj.given_isInfix hstays f hgiven
  · exact LoopRun.written_prefix hcourse

/-- A cycle broke off with a payload in the queue.  The connection is brought up again, now with
the standard cycle; another payload is sent, and the device answers it. -/
theorem isolated_after_abort :
    ∃ i j k : Interplay Float SampleCycle,
      i.conn.pendingSends = 1 ∧ Opened i j ∧ j.conn.pendingSends = 0 ∧
      k.conn.receivedFrames.map Frame.payload = [Text.Utf8.bytes "hi"] ∧
      k.journal.record.read = Text.Utf8.bytes "hi" ∧
      k.journal.record.written = [Text.Utf8.bytes "x"] ∧
      k.conn.available = .ok k.conn.receivedCount ∧
      (∀ f, f ∈ k.conn.receivedFrames ∨ f ∈ k.given → f.payload <:+: k.journal.record.read) ∧
      k.journal.record.written <+: k.journal.queued := by
  have hfinite : (5.0 : Float).isFinite = true := by decide +kernel
  have hclock : (Clock.fixed (5.0 : Float)).All (·.isFinite = true) := ⟨hfinite, nofun⟩
  have hcreate : Connection.create (.ofPorts ["A"]) (.ofPorts ["A"]) (.fixed (5.0 : Float))
      (some (.custom SampleCycle.fragile)) = .ok _ := rfl
  have h₀ : Reachable (fun t : Float => t.isFinite = true) _ := .create hcreate hclock
  have h₁ := h₀.step (.connect _ rfl (.begin _ []) rfl)
  have h₂ := (h₁.step (.permit _ ⟨5.0, .zero⟩)).step (.push _ (Text.Utf8.bytes "panic") rfl)
  have h₃ := h₂.step (.copy _ rfl rfl)
  have h₄ := h₃.step (.work _ rfl rfl [] (fun _ h => h.eq_take.symm)
    ⟨by decide +kernel, by decide +kernel⟩)
  have h₅ := h₄.step (.abort _ rfl rfl)
  have bringUp {i : Interplay Float SampleCycle} (_ : Reachable (·.isFinite = true) i) :=
    Opened.connect i (.begin i.conn
      [(.attempt 1, .device (.reply "A" (Text.Utf8.bytes "x") (Text.Utf8.bytes "hi")))]) rfl
  have hopened := bringUp h₅ rfl
  have stay {i j : Interplay Float SampleCycle} (_ : Opened i j) :
    Stays (·.isFinite = true) j j := .refl
  have hpermitted := (stay hopened).tail ⟨.permit _ ⟨5.0, .zero⟩, by decide +kernel⟩
  have h₆ := hpermitted.tail ⟨.push _ (Text.Utf8.bytes "x") rfl, by decide +kernel⟩
  have h₇ := h₆.tail ⟨.copy _ rfl (by decide +kernel), by decide +kernel⟩
  have h₈ := h₇.tail ⟨.work _ rfl rfl [] (fun _ h => h.eq_take.symm)
    ⟨by decide +kernel, by decide +kernel⟩, by decide +kernel⟩
  have h₉ := h₈.tail ⟨.settle _ rfl nofun, by decide +kernel⟩
  obtain ⟨⟨hpending, -⟩, -, havailable, hsourced, hwritten⟩ :=
    isolated_of_opened h₅ hopened rfl h₉
  refine ⟨_, _, _, ?_, hopened, hpending, ?_, ?_, ?_, havailable (fun _ h => h) rfl, hsourced,
    hwritten⟩
  · decide +kernel
  · decide +kernel
  · decide +kernel
  · decide +kernel

end Interplay

end SerialLink
