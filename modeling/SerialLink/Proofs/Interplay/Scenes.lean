import SerialLink.Proofs.Interplay
import SerialLink.Proofs.Scenes

/-!
# SerialLink.Proofs.Interplay.Scenes

To use a connection one action at a time is one of the ways of using it.

A connection is at rest when nothing that takes several steps is under way
(`Connection.AtRest`).  Each operation of which the actions of a scene are made takes some steps,
one after the other, and leads from rest to rest (`Connection.AtRest.kept`).  So what holds of every
connection in use also holds of the connection of a scene, whatever its actions are
(`Scene.atRest_run`).
-/

namespace SerialLink

variable {τ σ : Type} [Reading τ] [CustomCycle τ Mock.Line σ]

namespace Connection

/-- The connection can have become what it is, and nothing is under way. -/
def AtRest (c : Connection τ σ) : Prop :=
  ∃ i : Interplay τ σ, i.Reachable (fun _ => True) ∧ i.phase = .resting ∧ i.stopping = none ∧
    i.conn = c

omit [Reading τ] [CustomCycle τ Mock.Line σ] in
/-- Any clock will do. -/
theorem clock_all (clock : Clock τ) : clock.All fun _ => True := ⟨trivial, fun _ _ => trivial⟩

variable {c : Connection τ σ}

theorem atRest_create {config : ConnectionConfig} {bench : Mock.Bench} {clock : Clock τ}
    {cycle : Option (LoopCycle σ)} (hcreate : create config bench clock cycle = .ok c) :
    c.AtRest :=
  ⟨.fresh c, .create hcreate (clock_all clock), rfl, rfl, rfl⟩

namespace AtRest

/-! ## coming up and going down -/

/-- An attempt to bring the connection up leaves it at rest. -/
theorem of_become {i : Interplay τ σ} {d : Connection τ σ}
    (hi : (i.become d).Reachable fun _ => True) (hphase : i.phase = .resting)
    (hfree : i.stopping = none) : d.AtRest := by
  refine ⟨_, hi, ?_⟩
  unfold Interplay.become
  split
  · exact ⟨rfl, rfl, rfl⟩
  · exact ⟨hphase, hfree, rfl⟩

theorem connect {s : Search τ σ} (h : s.conn.AtRest) : s.connect.2.conn.AtRest := by
  obtain ⟨i, hi, hphase, hfree, hconn⟩ := h
  exact of_become (hi.step (.connect i hfree s hconn.symm)) hphase hfree

theorem reconnect {s : Search τ σ} (h : s.conn.AtRest) (timeout : Option Duration)
    (elapsed : Nat → Duration) (scans : Nat) :
    (s.reconnect timeout elapsed scans).2.conn.AtRest := by
  obtain ⟨i, hi, hphase, hfree, hconn⟩ := h
  exact of_become (hi.step (.reconnect i hfree s hconn.symm timeout elapsed scans)) hphase hfree

theorem disconnect (h : c.AtRest) (reason : DisconnectReason) : (c.disconnect reason).AtRest := by
  obtain ⟨i, hi, hphase, hfree, rfl⟩ := h
  have hstop := hi.step (.stop i hfree reason)
  exact ⟨_, hstop.step (.bringDown _ rfl hphase), hphase, rfl, rfl⟩

/-! ## devices, clock and settings -/

/-- A step that changes nothing but the connection leaves it at rest. -/
theorem change (h : c.AtRest) {f : Connection τ σ → Connection τ σ}
    (hstep : ∀ i : Interplay τ σ, i.phase = .resting →
      Interplay.Step (fun _ => True) i (i.change f)) : (f c).AtRest := by
  obtain ⟨i, hi, hphase, hfree, rfl⟩ := h
  exact ⟨_, hi.step (hstep i hphase), hphase, hfree, rfl⟩

theorem bench (h : c.AtRest) (bench : Mock.Bench) : AtRest { c with bench := bench } :=
  h.change fun i _ => .devices i bench

theorem clock (h : c.AtRest) (clock : Clock τ) : AtRest { c with clock := clock } :=
  h.change fun i _ => .clock i (clock_all clock)

theorem setTimeout (h : c.AtRest) (timeout : Option Duration) : (c.setTimeout timeout).AtRest :=
  h.change fun i _ => .setTimeout i timeout

theorem setSendInterval (h : c.AtRest) (interval : Duration) :
    (c.setSendInterval interval).AtRest :=
  h.change fun i _ => .setSendInterval i interval

theorem collect (h : c.AtRest) : AtRest { c with events := c.events.collect.2 } :=
  h.change fun i _ => .collect i

theorem applyTimeout (h : c.AtRest) : c.applyTimeout.AtRest :=
  h.change fun i hphase => .wake i hphase

/-! ## traffic -/

/-- Steps that leave everything under way alone leave a connection at rest. -/
theorem of_aside {i j : Interplay τ σ} (h : i.Aside j) (hi : i.Reachable fun _ => True)
    (hphase : i.phase = .resting) (hfree : i.stopping = none) : j.conn.AtRest := by
  have hrest : j.Reachable (fun _ => True) ∧ j.phase = .resting ∧ j.stopping = none := by
    induction h with
    | refl => exact ⟨hi, hphase, hfree⟩
    | tail _ hlast ih =>
      obtain ⟨hstep, hsame, hstill⟩ := hlast
      exact ⟨ih.1.step hstep, hsame.trans ih.2.1, hstill.trans ih.2.2⟩
  exact ⟨j, hrest.1, hrest.2.1, hrest.2.2, rfl⟩

theorem sendValues (h : c.AtRest) (values : List SendValue) (options : SendOptions) :
    (c.sendValues values options).2.AtRest := by
  obtain ⟨i, hi, hphase, hfree, rfl⟩ := h
  obtain ⟨j, haside, hconn⟩ := i.sendValues_aside values options
  exact hconn ▸ of_aside haside hi hphase hfree

theorem receiveAt (h : c.AtRest) (offset : Nat) : (c.receiveAt offset).2.AtRest := by
  obtain ⟨i, hi, hphase, hfree, rfl⟩ := h
  exact ⟨_, hi.step (.receive i offset), hphase, hfree, rfl⟩

/-! ## the loop -/

/-- The cycle works on copies of the queues. -/
theorem exists_worked {i : Interplay τ σ} (hi : i.Reachable fun _ => True)
    (hphase : i.phase = .resting) (hfree : i.stopping = none)
    (hup : i.conn.isConnected = true) :
    ∃ (j : Interplay τ σ) (report : CycleReport τ), j.Reachable (fun _ => True) ∧
      j.phase = .worked report ∧ j.stopping = none ∧
      i.conn.runCycle i.conn.toQueues [] = (some report, j.conn) := by
  obtain ⟨handle, cycle, hloop⟩ := exists_loop_of_isConnected hup
  have hcopied := hi.step (.copy i hphase hup)
  have hworked := hcopied.step (.work { i with phase := .copied i.conn.toQueues } rfl hloop []
    (fun _ hpops => hpops.eq_take.symm) (clock_all _))
  have hrun := runCycle_of_loop hloop i.conn.toQueues []
  dsimp only at hrun
  unfold Interplay.work at hworked
  dsimp only at hworked
  rw [hrun] at hworked
  exact ⟨_, _, hworked, rfl, hfree, hrun⟩

/-- What the cycle came to is brought in, and the turn is over. -/
theorem of_worked {j : Interplay τ σ} {report : CycleReport τ}
    (hj : j.Reachable fun _ => True) (hphase : j.phase = .worked report)
    (hfree : j.stopping = none) : ((j.conn.settle report).conclude report.result).2.AtRest := by
  by_cases habort : report.result = .error .aborted
  · have hsettle : j.conn.settle report = j.conn := by
      unfold Connection.settle
      rw [habort]
    rw [hsettle, habort]
    exact ⟨_, hj.step (.abort j hphase habort), rfl, hfree, rfl⟩
  · have hsettled := hj.step (.settle j hphase habort)
    exact ⟨_, hsettled.step (.conclude _ rfl), rfl, hfree, rfl⟩

/-- A turn of the loop takes all its phases one after the other. -/
theorem turn (h : c.AtRest) : c.turn.2.AtRest := by
  have hwoken := h.applyTimeout
  obtain ⟨i, hi, hphase, hfree, hconn⟩ := hwoken
  unfold Connection.turn
  dsimp only
  rw [← hconn]
  by_cases hup : i.conn.isConnected = true
  · obtain ⟨j, report, hj, hworked, hfree', hrun⟩ := exists_worked hi hphase hfree hup
    rw [hrun]
    exact of_worked hj hworked hfree'
  · have hnone : i.conn.runCycle i.conn.toQueues [] = (none, i.conn) :=
      runCycle_of_down (Bool.eq_false_iff.mpr hup) _ _
    rw [hnone]
    exact ⟨i, hi, hphase, hfree, rfl⟩

/-- All that a scene does to its connection leads from rest to rest. -/
theorem kept : Scene.Kept (AtRest (τ := τ) (σ := σ)) where
  connect h := h.connect
  reconnect h := h.reconnect
  disconnect h := h.disconnect
  device h _ := h.bench _
  clock h := h.clock
  setTimeout h := h.setTimeout
  setSendInterval h := h.setSendInterval
  applyTimeout h := h.applyTimeout
  turn h := h.turn
  sendValues h := h.sendValues
  receiveAt h := h.receiveAt

end AtRest

end Connection

namespace Scene

open Connection (AtRest)

/-! ## scenes -/

variable {s : Scene τ σ}

/-- Whatever is done in a scene, its connection is one that can be in use. -/
theorem atRest_run (h : s.conn.AtRest) (actions : List (Action τ)) :
    (s.run actions).conn.AtRest :=
  AtRest.kept.run h actions

theorem atRest_collect (h : s.conn.AtRest) : s.collect.2.conn.AtRest := h.collect

/-- So is what is left of it in the end. -/
theorem atRest_finish (h : s.conn.AtRest) : s.finish.conn.AtRest :=
  (AtRest.kept.takeDown h .requested).bench _

end Scene

end SerialLink
