import SerialLink.Connection.Loop
import SerialLink.Connection.Traffic
import SerialLink.Proofs.LoopRun
import SerialLink.Proofs.Search

/-!
# SerialLink.Proofs.Interplay

A connection in use: its callers, its loop and its devices, one small step at a time.

1. What callers do takes one step each, but some things take several, and anything may come in
   between (`Interplay.Step`).  A caller who sends reads the clock, is then permitted to send or
   not, and then hands in a payload.  Who takes the connection down first sees whether it is
   up and then waits for the loop to stop, which it does between two turns; nobody else
   takes it down or brings it up meanwhile.
2. A turn of the loop takes a step for each of its phases.
3. The devices may change in any way at any time, and so may the clock, as long as all its
   readings satisfy `p`.
4. A `Journal` of the loop is kept beside the connection, and some marks by which a run can
   be judged.  It begins anew with every loop that starts (`Interplay.fresh`).
5. While the connection is up, its steps are those of a loop at work
   (`Interplay.Reachable.run`).
6. To send values as a whole is to take some of these steps (`Interplay.sendValues_aside`).
-/

namespace SerialLink

/-! ## steps -/

/-- The loop ended on its own, and is not cleared away. -/
def Loop.hasEnded {σ : Type} : Loop σ → Bool
  | .ended _ => true
  | _ => false

/-- A connection in use. -/
structure Interplay (τ σ : Type) where
  conn : Connection τ σ
  phase : Phase τ
  journal : Journal
  /-- Somebody waits for the loop to stop: whether the connection was up, and why it is taken
  down. -/
  stopping : Option (Bool × DisconnectReason)
  /-- A send was accepted since the loop started. -/
  sent : Bool
  /-- The frames that callers were given since the loop started. -/
  given : List (Frame τ)
  /-- The cycle of the last loop broke off, and nobody was told. -/
  broken : Bool
  /-- The send queue took a payload when the loop was gone, and still holds it. -/
  late : Bool

namespace Interplay

variable {τ σ : Type}

/-- Nothing happened yet since the loop started. -/
def fresh (c : Connection τ σ) : Interplay τ σ :=
  ⟨c, .resting, .blank, none, false, [], false, false⟩

/-- An attempt was made to bring the connection up.  A loop that ended on its own is cleared
away. -/
def become (i : Interplay τ σ) (c : Connection τ σ) : Interplay τ σ :=
  if i.conn.isConnected = false ∧ c.isConnected = true then fresh c
  else { i with conn := c, late := i.late && !i.conn.loop.hasEnded }

/-- The loop has stopped for somebody who waited for that. -/
def bringDown (i : Interplay τ σ) (wasUp : Bool) (reason : DisconnectReason) : Interplay τ σ :=
  { i with
    conn := i.conn.bringDown wasUp reason
    stopping := none
    broken := i.broken && !wasUp
    late := i.late && !i.conn.loop.hasEnded }

/-- The send queue takes a payload. -/
def push (i : Interplay τ σ) (payload : Bytes) (send : SendQueue) : Interplay τ σ :=
  { i with
    conn := { i.conn with send := send }
    journal := i.journal.queue payload
    late := i.late || !i.conn.isConnected }

/-- The connection is changed, and nothing else. -/
def change (i : Interplay τ σ) (f : Connection τ σ → Connection τ σ) : Interplay τ σ :=
  { i with conn := f i.conn }

/-- A caller is given a frame. -/
def receive (i : Interplay τ σ) (offset : Nat) : Interplay τ σ :=
  let (frame, c) := i.conn.receiveAt offset
  { i with conn := c, given := i.given ++ frame.toList }

/-- What the cycle came to is brought into the live queues. -/
def settle (i : Interplay τ σ) (report : CycleReport τ) : Interplay τ σ :=
  { i with conn := i.conn.settle report, phase := .settled report.result }

/-- The turn is over. -/
def conclude (i : Interplay τ σ) (result : Except CycleFault Unit) : Interplay τ σ :=
  { i with conn := (i.conn.conclude result).2, phase := .resting }

/-- The cycle broke off, and the loop with it. -/
def abort (i : Interplay τ σ) : Interplay τ σ :=
  { i with conn := (i.conn.conclude (.error .aborted)).2, phase := .resting, broken := true }

variable [Reading τ]

/-- A caller who has read the clock may send, unless that would be too soon. -/
def permit (i : Interplay τ σ) (t : Ticket τ) : Interplay τ σ :=
  if i.conn.throttles t then i
  else { i with conn := { i.conn with lastSent := some t.now }, sent := true }

variable [CustomCycle τ Mock.Line σ]

/-- The workspace of the cycle that runs on a handle. -/
def workspace (i : Interplay τ σ) (h : Mock.Handle) (copies : Queues τ) :
    Workspace τ Mock.Line :=
  ⟨i.conn.line h, copies.send, copies.receive, i.conn.clock⟩

/-- The cycle works on the copies, and pops the given payloads. -/
def work (i : Interplay τ σ) (h : Mock.Handle) (cycle : LoopCycle σ) (copies : Queues τ)
    (elapsed : List Duration) (popped : List Bytes) : Interplay τ σ :=
  match i.conn.runCycle copies elapsed with
  | (some report, c) =>
    { i with
      conn := c
      phase := .worked report
      journal := i.journal.work popped (cycle.traffic elapsed (i.workspace h copies)) }
  | (none, c) => { i with conn := c }

/-- What can happen next.  All readings of the clock satisfy `p`. -/
inductive Step (p : τ → Prop) : Interplay τ σ → Interplay τ σ → Prop
  | connect (i : Interplay τ σ) (h : i.stopping = none) (s : Search τ σ)
      (hs : s.conn = i.conn) : Step p i (i.become s.connect.2.conn)
  | reconnect (i : Interplay τ σ) (h : i.stopping = none) (s : Search τ σ)
      (hs : s.conn = i.conn) (timeout : Option Duration) (elapsed : Nat → Duration)
      (scans : Nat) : Step p i (i.become (s.reconnect timeout elapsed scans).2.conn)
  /-- The connection is to be taken down, by a caller or by a supervisor. -/
  | stop (i : Interplay τ σ) (h : i.stopping = none) (reason : DisconnectReason) :
    Step p i { i with stopping := some (i.conn.isConnected, reason) }
  /-- The loop has stopped. -/
  | bringDown (i : Interplay τ σ) {wasUp : Bool} {reason : DisconnectReason}
      (h : i.stopping = some (wasUp, reason)) (hphase : i.phase = .resting) :
    Step p i (i.bringDown wasUp reason)
  | devices (i : Interplay τ σ) (bench : Mock.Bench) :
    Step p i (i.change fun c => { c with bench := bench })
  /-- The clock is read or set. -/
  | clock (i : Interplay τ σ) {clock : Clock τ} (h : clock.All p) :
    Step p i (i.change fun c => { c with clock := clock })
  | permit (i : Interplay τ σ) (t : Ticket τ) : Step p i (i.permit t)
  /-- A caller who may send hands in a payload, and there is room. -/
  | push (i : Interplay τ σ) (payload : Bytes) {send : SendQueue}
      (h : i.conn.send.push? payload = some send) : Step p i (i.push payload send)
  | receive (i : Interplay τ σ) (offset : Nat) : Step p i (i.receive offset)
  | setTimeout (i : Interplay τ σ) (timeout : Option Duration) :
    Step p i (i.change (·.setTimeout timeout))
  | setSendInterval (i : Interplay τ σ) (interval : Duration) :
    Step p i (i.change (·.setSendInterval interval))
  /-- A subscriber takes the events that it has not yet taken. -/
  | collect (i : Interplay τ σ) :
    Step p i (i.change fun c => { c with events := c.events.collect.2 })
  /-- The loop passes a timeout on to the port. -/
  | wake (i : Interplay τ σ) (h : i.phase = .resting) : Step p i (i.change (·.applyTimeout))
  /-- The loop copies the queues. -/
  | copy (i : Interplay τ σ) (h : i.phase = .resting) (hup : i.conn.isConnected = true) :
    Step p i { i with phase := .copied i.conn.toQueues }
  /-- The cycle works on the copies.  If it only popped, `popped` are the payloads that it
  popped. -/
  | work (i : Interplay τ σ) {copies : Queues τ} (h : i.phase = .copied copies)
      {handle : Mock.Handle} {cycle : LoopCycle σ} (hloop : i.conn.loop = .running handle cycle)
      (elapsed : List Duration) {popped : List Bytes}
      (hpopped : ∀ payloads, copies.send.Pops payloads
        (cycle.run elapsed (i.workspace handle copies)).2.2.send → popped = payloads)
      (hclock : (cycle.run elapsed (i.workspace handle copies)).2.2.clock.All p) :
    Step p i (i.work handle cycle copies elapsed popped)
  /-- What the cycle came to is brought into the live queues, unless it broke off. -/
  | settle (i : Interplay τ σ) {report : CycleReport τ} (h : i.phase = .worked report)
      (hresult : report.result ≠ .error .aborted) : Step p i (i.settle report)
  /-- The turn is over, and so is the loop if the cycle failed. -/
  | conclude (i : Interplay τ σ) {result : Except CycleFault Unit}
      (h : i.phase = .settled result) : Step p i (i.conclude result)
  /-- The cycle broke off, and the loop with it. -/
  | abort (i : Interplay τ σ) {report : CycleReport τ} (h : i.phase = .worked report)
      (hresult : report.result = .error .aborted) : Step p i i.abort

/-- What can become of a connection that was just created. -/
inductive Reachable (p : τ → Prop) : Interplay τ σ → Prop
  | create {config : ConnectionConfig} {bench : Mock.Bench} {clock : Clock τ}
      {cycle : Option (LoopCycle σ)} {c : Connection τ σ}
      (h : Connection.create config bench clock cycle = .ok c) (hclock : clock.All p) :
    Reachable p (fresh c)
  | step {i j : Interplay τ σ} (hi : Reachable p i) (h : Step p i j) : Reachable p j

/-! ## what a step changes -/

end Interplay

namespace Connection

variable {τ σ : Type} {c : Connection τ σ} {h : Mock.Handle} {cycle : LoopCycle σ}

/-- The second connection is the first with other devices, another clock or other settings. -/
structure Calm (c d : Connection τ σ) : Prop where
  eq : d = { c with
    bench := d.bench
    clock := d.clock
    timeout := d.timeout
    sendInterval := d.sendInterval
    pendingTimeout := d.pendingTimeout
    events := d.events }
  events : d.events.newestFirst = c.events.newestFirst

/-- A connection that was just created. -/
theorem create_eq {config : ConnectionConfig} {bench : Mock.Bench} {clock : Clock τ}
    {parked : Option (LoopCycle σ)} (hcreate : create config bench clock parked = .ok c) :
    c = {
      config := config
      bench := bench
      clock := clock
      loop := .stopped parked
      send := .empty
      receive := ⟨.empty, config.queueSize, 0⟩
      connecting := false
      activePort := none
      timeout := config.timeout
      sendInterval := config.sendInterval
      lastSent := none
      lastReceived := none
      pendingTimeout := none
      events := .empty } := by
  unfold create ReceiveQueue.create at hcreate
  cases hvalid : config.validate with
  | error e => rw [hvalid] at hcreate; cases hcreate
  | ok u =>
    rw [hvalid] at hcreate
    by_cases hsize : config.queueSize = 0
    · rw [if_pos hsize] at hcreate
      cases hcreate
    · rw [if_neg hsize] at hcreate
      cases hcreate
      rfl

theorem applyTimeout_calm (c : Connection τ σ) :
    c.Calm c.applyTimeout ∧ c.applyTimeout.clock = c.clock := by
  unfold applyTimeout
  split
  · exact ⟨⟨rfl, rfl⟩, rfl⟩
  · exact ⟨⟨rfl, rfl⟩, rfl⟩

theorem receiveAt_eq (c : Connection τ σ) (offset : Nat) :
    (c.receiveAt offset).2 = { c with
      lastReceived := match (c.receiveAt offset).1 with
        | some f => some f.timestamp
        | none => c.lastReceived } := by
  unfold receiveAt
  split
  · split
    · rfl
    · rfl
  · rfl

/-- A frame that a caller is given stands in the history. -/
theorem mem_of_receiveAt {offset : Nat} {f : Frame τ} (hframe : (c.receiveAt offset).1 = some f) :
    f ∈ c.receivedFrames := by
  unfold receiveAt at hframe
  split at hframe
  · cases hat : c.receive.at? offset with
    | none => rw [hat] at hframe; cases hframe
    | some g =>
      rw [hat] at hframe
      have heq : g = f := Option.some.inj hframe
      unfold ReceiveQueue.at? at hat
      split at hat
      · exact heq ▸ List.mem_of_getElem? hat
      · cases hat
  · cases hframe

theorem settle_of_ne {report : CycleReport τ} (hresult : report.result ≠ .error .aborted) :
    c.settle report = { c with toQueues := c.toQueues.reconcile report } := by
  unfold settle
  split
  next heq => exact absurd heq hresult
  next => rfl

theorem runCycle_of_loop [Reading τ] [CustomCycle τ Mock.Line σ]
    (hloop : c.loop = .running h cycle) (copies : Queues τ) (elapsed : List Duration) :
    let r := cycle.run elapsed ⟨c.line h, copies.send, copies.receive, c.clock⟩
    c.runCycle copies elapsed = (some (copies.report r.1 r.2.2),
      { c.withProvider (c.bench.provider.modify h.port fun _ => r.2.2.device.device) with
        loop := .running h r.2.1, clock := r.2.2.clock }) := by
  unfold runCycle
  rw [hloop]

theorem runCycle_of_down [Reading τ] [CustomCycle τ Mock.Line σ] (hdown : c.isConnected = false)
    (copies : Queues τ) (elapsed : List Duration) : c.runCycle copies elapsed = (none, c) := by
  unfold isConnected at hdown
  unfold runCycle
  cases hloop : c.loop with
  | stopped => rfl
  | ended => rfl
  | running => rw [hloop] at hdown; cases hdown

theorem isConnected_of_loop (hloop : c.loop = .running h cycle) : c.isConnected = true := by
  rw [isConnected, hloop]
  rfl

theorem Calm.isConnected {d : Connection τ σ} (h : c.Calm d) : d.isConnected = c.isConnected := by
  rw [h.eq]
  rfl

theorem isConnected_bringDown (c : Connection τ σ) (wasUp : Bool) (reason : DisconnectReason) :
    (c.bringDown wasUp reason).isConnected = false := by
  unfold bringDown isConnected
  cases hloop : c.loop with
  | stopped => rw [hloop]; rfl
  | running => cases wasUp <;> rfl
  | ended => cases wasUp <;> rfl

theorem clock_bringDown (c : Connection τ σ) (wasUp : Bool) (reason : DisconnectReason) :
    (c.bringDown wasUp reason).clock = c.clock := by
  unfold bringDown
  cases c.loop with
  | stopped => rfl
  | running => cases wasUp <;> rfl
  | ended => cases wasUp <;> rfl

theorem clock_conclude (c : Connection τ σ) (result : Except CycleFault Unit) :
    (c.conclude result).2.clock = c.clock := by
  unfold conclude
  split
  · split <;> rfl
  · rfl

/-- A loop that has ended is there until somebody clears it away. -/
theorem conclude_ne_stopped (hloop : ∀ parked, c.loop ≠ .stopped parked)
    (result : Except CycleFault Unit) (parked : Option (LoopCycle σ)) :
    (c.conclude result).2.loop ≠ .stopped parked := by
  unfold conclude
  cases h : c.loop with
  | stopped left => exact absurd h (hloop left)
  | ended left => rw [h]; exact nofun
  | running handle cycle =>
    match result with
    | .ok () => rw [h]; exact nofun
    | .error (.failed e) => exact nofun
    | .error .aborted => exact nofun

theorem conclude_of_down (hdown : c.isConnected = false) (result : Except CycleFault Unit) :
    (c.conclude result).2 = c := by
  unfold conclude
  unfold isConnected at hdown
  cases hloop : c.loop with
  | stopped => rfl
  | running => rw [hloop] at hdown; cases hdown
  | ended => rfl

/-- A loop that is running after its turn goes on as it was. -/
theorem conclude_of_isConnected {result : Except CycleFault Unit}
    (hup : (c.conclude result).2.isConnected = true) : (c.conclude result).2 = c := by
  unfold conclude at hup ⊢
  cases hloop : c.loop with
  | stopped => rfl
  | ended => rfl
  | running handle cycle =>
    rw [hloop] at hup
    match result with
    | .ok () => rfl
    | .error (.failed e) => cases hup
    | .error .aborted => cases hup

theorem exists_loop_of_isConnected (hup : c.isConnected = true) :
    ∃ h cycle, c.loop = .running h cycle := by
  unfold isConnected at hup
  cases hloop : c.loop with
  | running h cycle => exact ⟨h, cycle, rfl⟩
  | stopped => rw [hloop] at hup; cases hup
  | ended => rw [hloop] at hup; cases hup

end Connection

namespace Interplay

variable {τ σ : Type} [Reading τ] [CustomCycle τ Mock.Line σ] {p : τ → Prop}

/-- What a step changes, sorted by the part of the connection that it changes. -/
inductive Change (p : τ → Prop) (i : Interplay τ σ) : Interplay τ σ → Prop
  | searched {opened : Bool} {c : Connection τ σ} (hfree : i.stopping = none)
      (h : i.conn.Searched opened c) : Change p i (i.become c)
  | stopping (hfree : i.stopping = none) (reason : DisconnectReason) :
    Change p i { i with stopping := some (i.conn.isConnected, reason) }
  | stopped {wasUp : Bool} {reason : DisconnectReason} (h : i.stopping = some (wasUp, reason))
      (hphase : i.phase = .resting) : Change p i (i.bringDown wasUp reason)
  | calm {c : Connection τ σ} (h : i.conn.Calm c)
      (hclock : c.clock = i.conn.clock ∨ c.clock.All p) : Change p i { i with conn := c }
  | throttled : Change p i i
  | permitted (now : τ) :
    Change p i { i with conn := { i.conn with lastSent := some now }, sent := true }
  | queued {payload : Bytes} {send : SendQueue} (h : i.conn.send.push? payload = some send) :
    Change p i (i.push payload send)
  | given (mark : Option τ) (frames : List (Frame τ))
      (h : frames = [] → mark = i.conn.lastReceived)
      (hheld : ∀ f ∈ frames, f ∈ i.conn.receivedFrames) :
    Change p i { i with
      conn := { i.conn with lastReceived := mark }, given := i.given ++ frames }
  | copied (hphase : i.phase = .resting) (hup : i.conn.isConnected = true) :
    Change p i { i with phase := .copied i.conn.toQueues }
  | worked {copies : Queues τ} (hphase : i.phase = .copied copies) {handle : Mock.Handle}
      {cycle cycle' : LoopCycle σ} (hloop : i.conn.loop = .running handle cycle)
      (bench : Mock.Bench) {clock : Clock τ} (hclock : clock.All p) (report : CycleReport τ)
      (journal : Journal) :
    Change p i { i with
      conn := { i.conn with bench := bench, loop := .running handle cycle', clock := clock }
      phase := .worked report
      journal := journal }
  | settled {report : CycleReport τ} (hphase : i.phase = .worked report)
      (hresult : report.result ≠ .error .aborted) :
    Change p i { i with
      conn := { i.conn with toQueues := i.conn.toQueues.reconcile report }
      phase := .settled report.result }
  | concluded {result : Except CycleFault Unit} (hphase : i.phase = .settled result) :
    Change p i (i.conclude result)
  | aborted {report : CycleReport τ} (hphase : i.phase = .worked report)
      (hresult : report.result = .error .aborted) : Change p i i.abort

/-- Every step is one of these changes. -/
theorem Step.change {i j : Interplay τ σ} (hstep : Step p i j) : Change p i j := by
  cases hstep with
  | connect hfree s hs => exact .searched hfree (hs ▸ s.connect_searched)
  | reconnect hfree s hs timeout elapsed scans =>
    exact .searched hfree (hs ▸ s.reconnect_searched timeout elapsed scans)
  | stop hfree reason => exact .stopping hfree reason
  | bringDown hstop hphase => exact .stopped hstop hphase
  | devices bench => exact .calm ⟨rfl, rfl⟩ (.inl rfl)
  | clock hclock => exact .calm ⟨rfl, rfl⟩ (.inr hclock)
  | permit t =>
    by_cases hthrottle : i.conn.throttles t = true
    · rw [Interplay.permit, if_pos hthrottle]
      exact .throttled
    · rw [Interplay.permit, if_neg hthrottle]
      exact .permitted t.now
  | push payload hpush => exact .queued hpush
  | receive offset =>
    unfold Interplay.receive
    dsimp only
    rw [Connection.receiveAt_eq]
    refine .given _ _ (fun hnone => ?_) fun f hf => ?_
    · cases hframe : (i.conn.receiveAt offset).1 with
      | none => rfl
      | some f => rw [hframe] at hnone; cases hnone
    · exact Connection.mem_of_receiveAt (Option.mem_toList.mp hf)
  | setTimeout timeout => exact .calm ⟨rfl, rfl⟩ (.inl rfl)
  | setSendInterval interval => exact .calm ⟨rfl, rfl⟩ (.inl rfl)
  | collect => exact .calm ⟨rfl, rfl⟩ (.inl rfl)
  | wake hphase =>
    obtain ⟨hcalm, hclock⟩ := i.conn.applyTimeout_calm
    exact .calm hcalm (.inl hclock)
  | copy hphase hup => exact .copied hphase hup
  | @work copies hphase handle cycle hloop elapsed popped hpopped hclock =>
    unfold Interplay.work
    have hrun := Connection.runCycle_of_loop hloop copies elapsed
    dsimp only at hrun
    rw [hrun]
    exact .worked hphase hloop _ hclock _ _
  | settle hphase hresult =>
    unfold Interplay.settle
    rw [Connection.settle_of_ne hresult]
    exact .settled hphase hresult
  | conclude hphase => exact .concluded hphase
  | abort hphase hresult => exact .aborted hphase hresult

/-! ## sends -/

/-- Steps that leave the turn of the loop where it is, and nobody begins or ceases to wait for the
loop to stop. -/
def Aside : Interplay τ σ → Interplay τ σ → Prop :=
  Relation.ReflTransGen fun i j =>
    Step (fun _ => True) i j ∧ j.phase = i.phase ∧ j.stopping = i.stopping

/-- To hand in a payload is to be permitted to and then to do it. -/
theorem accept_aside (i : Interplay τ σ) (t : Ticket τ) (payload : Bytes) :
    ∃ j, i.Aside j ∧ j.conn = (i.conn.accept t payload).2 := by
  unfold Connection.accept
  by_cases hthrottle : i.conn.throttles t = true
  · rw [if_pos hthrottle]
    exact ⟨i, .refl, rfl⟩
  · have hpermit := Step.permit (p := fun _ => True) i t
    rw [if_neg hthrottle]
    rw [Interplay.permit, if_neg hthrottle] at hpermit
    cases hpush : i.conn.send.push? payload with
    | none => exact ⟨_, .single ⟨hpermit, rfl, rfl⟩, rfl⟩
    | some send =>
      exact ⟨_, .tail (.single ⟨hpermit, rfl, rfl⟩) ⟨.push _ payload hpush, rfl, rfl⟩, rfl⟩

/-- To send values is to read the clock and then to hand in a payload. -/
theorem sendValues_aside (i : Interplay τ σ) (values : List SendValue) (options : SendOptions) :
    ∃ j, i.Aside j ∧ j.conn = (i.conn.sendValues values options).2 := by
  unfold Connection.sendValues Connection.ticket?
  by_cases hup : i.conn.isConnected = true
  · rw [if_pos hup]
    have hread : Step (fun _ => True) i
        (i.change fun c => { c with clock := i.conn.clock.read.2 }) :=
      .clock i ⟨trivial, fun _ _ => trivial⟩
    obtain ⟨j, haccept, hconn⟩ :=
      (i.change fun c => { c with clock := i.conn.clock.read.2 }).accept_aside
        ⟨i.conn.clock.read.1, i.conn.sendInterval⟩ (encode values options)
    exact ⟨j, .head ⟨hread, rfl, rfl⟩ haccept, hconn⟩
  · rw [if_neg hup]
    exact ⟨i, .refl, rfl⟩

end Interplay

end SerialLink
