import SerialLink.Proofs.Interplay

/-!
# SerialLink.Proofs.Interplay.Simulation

While a connection is up, it is a loop at work.

1. `Interplay.run` is the loop of a connection as those see it who push payloads into it.
2. Every step of a connection that stays up is a course of that loop (`Interplay.Step.run`).
   A connection that is down stays down or starts a loop, with empty queues and a cycle just
   reset (`Interplay.Step.starts`).
3. So whenever a connection is up, its loop has run such a course from its start on
   (`Interplay.Reachable.run`).
4. Searches that open nothing, and the end of a loop, do not change what a connection remembers
   of its callers (`Connection.marks`).
-/

namespace SerialLink

/-! ## what is remembered of callers -/

namespace Connection

variable {τ σ : Type} (c : Connection τ σ)

/-- What a connection remembers of its callers: what the clock read when a send was accepted last,
and the timestamp of the frame that one was given last. -/
def marks : Option τ × Option τ := (c.lastSent, c.lastReceived)

theorem marks_clearAway : c.clearAway.marks = c.marks := by
  unfold clearAway
  split <;> rfl

theorem marks_bringDown (wasUp : Bool) (reason : DisconnectReason) :
    (c.bringDown wasUp reason).marks = c.marks := by
  unfold bringDown
  cases c.loop with
  | stopped parked => rfl
  | running handle cycle => cases wasUp <;> rfl
  | ended left => cases wasUp <;> rfl

theorem marks_conclude (result : Except CycleFault Unit) :
    (c.conclude result).2.marks = c.marks := by
  unfold conclude
  split
  · match result with
    | .ok () => rfl
    | .error (.failed e) => rfl
    | .error .aborted => rfl
  · rfl

/-- A search that brings no connection up leaves the marks as they are. -/
theorem Searched.marks_eq [CustomCycle τ Mock.Line σ] {c d : Connection τ σ} {opened : Bool}
    (hsearch : c.Searched opened d) (hsession : c.isConnected = false → d.isConnected = false) :
    d.marks = c.marks := by
  cases hsearch with
  | refused => rfl
  | missed _ hscan =>
    rw [hscan.eq, ← c.marks_clearAway]
    rfl
  | opened hdown =>
    have hup := hsession hdown
    contradiction

end Connection

namespace Interplay

variable {τ σ : Type} {i j : Interplay τ σ} {p : τ → Prop} {h : Mock.Handle}
  {cycle : LoopCycle σ}

/-- The loop of the connection at work on a handle. -/
def run (i : Interplay τ σ) (h : Mock.Handle) (cycle : LoopCycle σ) : LoopRun τ Mock.Line σ :=
  ⟨i.conn.toQueues, cycle, i.conn.line h, i.conn.clock, i.phase, i.journal⟩

theorem become_of_isConnected (hup : i.conn.isConnected = true) (c : Connection τ σ) :
    i.become c = { i with conn := c, late := i.late && !i.conn.loop.hasEnded } := by
  unfold become
  rw [if_neg]
  rw [hup]
  exact fun hand => Bool.noConfusion hand.1

variable [Reading τ] [CustomCycle τ Mock.Line σ]

omit [Reading τ] in
/-- A search leaves a connection that is up as it is. -/
theorem become_of_searched {c : Connection τ σ} {opened : Bool} (hup : i.conn.isConnected = true)
    (hsearch : i.conn.Searched opened c) :
    i.become c = { i with late := i.late && !i.conn.loop.hasEnded } := by
  rw [become_of_isConnected hup]
  cases hsearch with
  | refused => rfl
  | missed hdown => rw [hup] at hdown; cases hdown
  | opened hdown => rw [hup] at hdown; cases hdown

/-- A step of a connection that stays up is a course of its loop. -/
theorem Step.run (hstep : Step p i j) (hloop : i.conn.loop = .running h cycle) :
    j.conn.isConnected = false ∨ ∃ cycle', j.conn.loop = .running h cycle' ∧
      LoopRun.Course p (i.run h cycle) (j.run h cycle') := by
  have hup := Connection.isConnected_of_loop hloop
  cases hstep with
  | connect _ s hs =>
    rw [become_of_searched hup (hs ▸ s.connect_searched)]
    exact .inr ⟨cycle, hloop, .refl⟩
  | reconnect _ s hs timeout elapsed scans =>
    rw [become_of_searched hup (hs ▸ s.reconnect_searched timeout elapsed scans)]
    exact .inr ⟨cycle, hloop, .refl⟩
  | stop => exact .inr ⟨cycle, hloop, .refl⟩
  | bringDown => exact .inl (i.conn.isConnected_bringDown _ _)
  | devices bench => exact .inr ⟨cycle, hloop, .single (.device _ _)⟩
  | clock hclock => exact .inr ⟨cycle, hloop, .single (.clock _ hclock)⟩
  | permit t =>
    unfold Interplay.permit
    split
    · exact .inr ⟨cycle, hloop, .refl⟩
    · exact .inr ⟨cycle, hloop, .refl⟩
  | push payload hpush => exact .inr ⟨cycle, hloop, .single (.push (i.run h cycle) hpush)⟩
  | receive offset =>
    unfold Interplay.receive Interplay.run
    dsimp only
    rw [Connection.receiveAt_eq]
    exact .inr ⟨cycle, hloop, .refl⟩
  | setTimeout => exact .inr ⟨cycle, hloop, .refl⟩
  | setSendInterval => exact .inr ⟨cycle, hloop, .refl⟩
  | collect => exact .inr ⟨cycle, hloop, .refl⟩
  | wake hphase =>
    obtain ⟨⟨heq, -⟩, hclock⟩ := i.conn.applyTimeout_calm
    unfold Interplay.change Interplay.run
    dsimp only
    rw [heq, hclock]
    exact .inr ⟨cycle, hloop, .single (.device _ _)⟩
  | copy hphase => exact .inr ⟨cycle, hloop, .single (.copy _ hphase)⟩
  | @work copies hphase h' cycle' hloop' elapsed popped hpopped =>
    obtain ⟨rfl, rfl⟩ := Loop.running.inj (hloop.symm.trans hloop')
    have hrun := Connection.runCycle_of_loop hloop copies elapsed
    unfold Interplay.work Interplay.run
    dsimp only at hrun ⊢
    rw [hrun]
    -- the device is the one of the bench again, whatever became of the cycle's own handle
    exact .inr ⟨_, rfl, (Relation.ReflTransGen.single
      (.work (i.run h cycle) hphase elapsed hpopped)).tail (.device _ _)⟩
  | settle hphase hresult =>
    unfold Interplay.settle Interplay.run
    dsimp only
    rw [Connection.settle_of_ne hresult]
    exact .inr ⟨cycle, hloop, .single (.settle (i.run h cycle) hphase hresult)⟩
  | @conclude result hphase =>
    unfold Interplay.conclude Interplay.run Connection.conclude
    rw [hloop]
    match result with
    | .ok () => exact .inr ⟨cycle, hloop, .single (.rest (i.run h cycle) hphase)⟩
    | .error (.failed e) => exact .inl rfl
    | .error .aborted => exact .inl rfl
  | abort =>
    refine .inl ?_
    unfold Interplay.abort Connection.conclude
    rw [hloop]
    rfl

/-! ## between two loops -/

omit [Reading τ] [CustomCycle τ Mock.Line σ] in
theorem conn_become (i : Interplay τ σ) (c : Connection τ σ) : (i.become c).conn = c := by
  unfold become
  split <;> rfl

omit [Reading τ] [CustomCycle τ Mock.Line σ] in
theorem become_of_down {c : Connection τ σ} (hdown : c.isConnected = false) :
    i.become c = { i with conn := c, late := i.late && !i.conn.loop.hasEnded } := by
  unfold become
  rw [if_neg]
  rw [hdown]
  exact fun hand => Bool.noConfusion hand.2

omit [Reading τ] in
theorem become_start (hdown : i.conn.isConnected = false) (c : Connection τ σ)
    (handle : Mock.Handle) : i.become (c.start handle) = fresh (c.start handle) := by
  unfold become
  exact if_pos ⟨hdown, rfl⟩

/-- A connection that is down stays down, or a loop is started on an opened port. -/
theorem Step.starts (hstep : Step p i j) (hdown : i.conn.isConnected = false) :
    j.conn.isConnected = false ∨
      ∃ c handle, i.conn.clearAway.Scanned c ∧ j = fresh (c.start handle) := by
  cases hstep.change with
  | searched _ hsearch =>
    cases hsearch with
    | refused hup => rw [hdown] at hup; cases hup
    | missed _ hscan =>
      have hconn := hscan.isConnected.trans (Search.isConnected_clearAway _ |>.trans hdown)
      rw [become_of_down hconn]
      exact .inl hconn
    | opened _ hscan handle =>
      rw [become_start hdown]
      exact .inr ⟨_, handle, hscan, rfl⟩
  | stopping => exact .inl hdown
  | stopped => exact .inl (i.conn.isConnected_bringDown _ _)
  | calm hcalm => exact .inl (hcalm.isConnected.trans hdown)
  | throttled => exact .inl hdown
  | permitted => exact .inl hdown
  | queued => exact .inl hdown
  | given => exact .inl hdown
  | copied => exact .inl hdown
  | worked _ hloop => rw [Connection.isConnected_of_loop hloop] at hdown; cases hdown
  | settled => exact .inl hdown
  | concluded =>
    refine .inl ?_
    rw [Interplay.conclude, Connection.conclude_of_down hdown]
    exact hdown
  | aborted =>
    refine .inl ?_
    rw [Interplay.abort, Connection.conclude_of_down hdown]
    exact hdown

/-- What holds between any two steps: the clock gives readings that satisfy `p`, no turn is
under way when there is no loop, and nothing of a cycle that broke off is brought in. -/
structure Coherent (p : τ → Prop) (i : Interplay τ σ) : Prop where
  clock : i.conn.clock.All p
  resting : i.conn.isConnected = false → i.phase = .resting
  settled : i.phase ≠ .settled (.error .aborted)

omit [Reading τ] [CustomCycle τ Mock.Line σ] in
/-- Only a connection that is up has a turn under way. -/
theorem Coherent.isConnected (h : i.Coherent p) (hphase : i.phase ≠ .resting) :
    i.conn.isConnected = true := by
  rw [← Bool.not_eq_false]
  exact mt h.resting hphase

omit [Reading τ] in
theorem Coherent.change (h : i.Coherent p) (hchange : Change p i j) : j.Coherent p := by
  cases hchange with
  | searched _ hsearch =>
    cases hsearch with
    | refused hup =>
      rw [become_of_isConnected hup]
      exact ⟨h.clock, h.resting, h.settled⟩
    | missed hdown hscan =>
      have hclock := hscan.clock.trans (Search.clock_clearAway i.conn)
      have hconn := hscan.isConnected.trans ((Search.isConnected_clearAway i.conn).trans hdown)
      rw [become_of_down hconn]
      exact ⟨hclock ▸ h.clock, fun _ => h.resting hdown, h.settled⟩
    | opened hdown hscan handle =>
      have hclock := hscan.clock.trans (Search.clock_clearAway i.conn)
      rw [become_start hdown]
      exact ⟨hclock ▸ h.clock, fun _ => rfl, nofun⟩
  | stopping => exact ⟨h.clock, h.resting, h.settled⟩
  | stopped _ hphase =>
    exact ⟨(i.conn.clock_bringDown _ _) ▸ h.clock, fun _ => hphase, h.settled⟩
  | calm hcalm hclock =>
    refine ⟨?_, fun hdown => h.resting (hcalm.isConnected.symm.trans hdown), h.settled⟩
    cases hclock with
    | inl heq => exact heq ▸ h.clock
    | inr hall => exact hall
  | throttled => exact h
  | permitted => exact ⟨h.clock, h.resting, h.settled⟩
  | queued => exact ⟨h.clock, h.resting, h.settled⟩
  | given => exact ⟨h.clock, h.resting, h.settled⟩
  | copied _ hup =>
    exact ⟨h.clock, fun hdown => absurd (hup.symm.trans hdown) Bool.noConfusion, nofun⟩
  | worked hphase hloop bench hclock => exact ⟨hclock, nofun, nofun⟩
  | settled hphase hresult =>
    have hup := h.isConnected (by rw [hphase]; exact nofun)
    exact ⟨h.clock, fun hdown => absurd (hup.symm.trans hdown) Bool.noConfusion,
      fun heq => hresult (Phase.settled.inj heq)⟩
  | concluded => exact ⟨(i.conn.clock_conclude _) ▸ h.clock, fun _ => rfl, nofun⟩
  | aborted => exact ⟨(i.conn.clock_conclude _) ▸ h.clock, fun _ => rfl, nofun⟩

theorem Reachable.coherent (hi : Reachable p i) : i.Coherent p := by
  induction hi with
  | create hcreate hclock =>
    rw [Connection.create_eq hcreate]
    exact ⟨hclock, fun _ => rfl, nofun⟩
  | step _ hstep ih => exact ih.change hstep.change

/-- Whenever a connection is up, its loop has run a course from its start on. -/
theorem Reachable.run (hi : Reachable p i) (hloop : i.conn.loop = .running h cycle) :
    ∃ (queues : Queues τ) (cycle₀ : LoopCycle σ) (device : Mock.Line) (clock : Clock τ),
      clock.All p ∧
        LoopRun.Course p (LoopRun.start queues cycle₀ device clock) (i.run h cycle) := by
  induction hi generalizing cycle with
  | create hcreate hclock =>
    rw [Connection.create_eq hcreate] at hloop
    cases hloop
  | @step i j hi hstep ih =>
    cases hup : i.conn.isConnected with
    | true =>
      obtain ⟨h', cycle', hloop'⟩ := Connection.exists_loop_of_isConnected hup
      cases hstep.run hloop' with
      | inl hdown => rw [Connection.isConnected_of_loop hloop] at hdown; cases hdown
      | inr hcourse =>
        obtain ⟨cycle'', hloop'', hcourse⟩ := hcourse
        obtain ⟨rfl, rfl⟩ := Loop.running.inj (hloop.symm.trans hloop'')
        obtain ⟨queues, cycle₀, device, clock, hclock, hstart⟩ := ih hloop'
        exact ⟨queues, cycle₀, device, clock, hclock, hstart.trans hcourse⟩
    | false =>
      have hclock := hi.coherent.clock
      cases hstep.starts hup with
      | inl hdown => rw [Connection.isConnected_of_loop hloop] at hdown; cases hdown
      | inr hstart =>
        obtain ⟨c, handle, hscan, rfl⟩ := hstart
        obtain ⟨rfl, rfl⟩ := Loop.running.inj hloop
        refine ⟨c.toQueues, c.nextCycle, (c.start handle).line handle, c.clock, ?_, .refl⟩
        rw [hscan.clock, Search.clock_clearAway]
        exact hclock

end Interplay

end SerialLink
