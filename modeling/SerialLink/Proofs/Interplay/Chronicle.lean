import SerialLink.Proofs.History.Later
import SerialLink.Proofs.Interplay.Simulation
import SerialLink.Proofs.Samples

/-!
# SerialLink.Proofs.Interplay.Chronicle

The histories of a connection in use, and the frames that arrive in them.

1. There is the live history, the copy that a cycle is about to work on, and the one that a
   cycle has left.  What holds of all three (`Interplay.Holds`) and also of an emptied history
   goes on to hold while no cycle works (`Interplay.Holds.change`).
2. Frames arrive while a cycle works, each at a reading of the clock.  A `Chronicle` keeps
   these readings beside the connection, and a step of it tells which frames have arrived.
3. If the cycles in the place of the standard one do nothing to the history but push, every
   step of a connection is a step of its chronicle (`Chronicle.exists_step`).
4. If the readings are ordered, all histories are in order, and their timestamps are readings
   of the chronicle (`Chronicle.Reachable.sorted`).
-/

namespace SerialLink

/-! ## what becomes of the live history -/

namespace Connection

variable {τ σ : Type} {c d : Connection τ σ}

/-- The history is what it was, or it is emptied. -/
def Retains (c d : Connection τ σ) : Prop :=
  d.receive = c.receive ∨ d.receive = c.receive.clear

theorem clearAway_retains (c : Connection τ σ) : c.Retains c.clearAway := by
  unfold clearAway
  split
  · exact .inr rfl
  · exact .inl rfl

theorem bringDown_retains (c : Connection τ σ) (wasUp : Bool) (reason : DisconnectReason) :
    c.Retains (c.bringDown wasUp reason) := by
  unfold bringDown
  cases c.loop with
  | stopped parked => exact .inl rfl
  | running handle cycle => cases wasUp <;> exact .inr rfl
  | ended left => cases wasUp <;> exact .inr rfl

theorem conclude_retains (c : Connection τ σ) (result : Except CycleFault Unit) :
    c.Retains (c.conclude result).2 := by
  unfold conclude
  split
  · match result with
    | .ok () => exact .inl rfl
    | .error (.failed e) => exact .inr rfl
    | .error .aborted => exact .inl rfl
  · exact .inl rfl

theorem Searched.retains [CustomCycle τ Mock.Line σ] {opened : Bool} (h : c.Searched opened d) :
    c.Retains d := by
  cases h with
  | refused => exact .inl rfl
  | missed _ hscan =>
    rw [Retains, hscan.eq]
    exact c.clearAway_retains
  | opened _ hscan handle =>
    refine .inr ?_
    show ReceiveQueue.clear _ = _
    rw [hscan.eq]
    show c.clearAway.receive.clear = c.receive.clear
    obtain hsame | hempty := c.clearAway_retains
    · rw [hsame]
    · rw [hempty]
      rfl

end Connection

/-! ## all histories -/

namespace Interplay

variable {τ σ : Type} {P Q : ReceiveQueue τ → Prop} {p : τ → Prop} {i j : Interplay τ σ}

/-- `P` holds of the live history, of the copy that the cycle is about to work on, and of the
one that the cycle has left. -/
structure Holds (P : ReceiveQueue τ → Prop) (i : Interplay τ σ) : Prop where
  live : P i.conn.receive
  copied : ∀ copies, i.phase = .copied copies → P copies.receive
  worked : ∀ report, i.phase = .worked report → P report.receive

theorem Holds.imp (h : i.Holds P) (hPQ : ∀ q, P q → Q q) : i.Holds Q :=
  ⟨hPQ _ h.live, fun copies hphase => hPQ _ (h.copied copies hphase),
    fun report hphase => hPQ _ (h.worked report hphase)⟩

/-- The turn of the loop is where it was. -/
theorem Holds.of_phase (h : i.Holds P) (hphase : j.phase = i.phase) (hlive : P j.conn.receive) :
    j.Holds P :=
  ⟨hlive, fun copies heq => h.copied copies (hphase.symm.trans heq),
    fun report heq => h.worked report (hphase.symm.trans heq)⟩

/-- There is only the live history. -/
theorem Holds.of_live (hcopied : ∀ copies, j.phase ≠ .copied copies)
    (hworked : ∀ report, j.phase ≠ .worked report) (hlive : P j.conn.receive) : j.Holds P :=
  ⟨hlive, fun copies heq => absurd heq (hcopied copies),
    fun report heq => absurd heq (hworked report)⟩

theorem Holds.retains (h : i.Holds P) (hclear : ∀ q, P q → P q.clear) {c : Connection τ σ}
    (hretains : i.conn.Retains c) : P c.receive := by
  obtain hsame | hempty := hretains
  · exact hsame ▸ h.live
  · exact hempty ▸ hclear _ h.live

theorem phase_of_become {c : Connection τ σ} {report : CycleReport τ}
    (h : (i.become c).phase = .worked report) : i.phase = .worked report := by
  unfold become at h
  split at h
  · cases h
  · exact h

variable [CustomCycle τ Mock.Line σ]

/-- What holds of all histories, and of an emptied one, still holds after a step, if it holds
of the history that a cycle leaves. -/
theorem Holds.change (h : i.Holds P) (hclear : ∀ q, P q → P q.clear) (hchange : Change p i j)
    (hwork : ∀ copies report, i.phase = .copied copies → j.phase = .worked report →
      P report.receive) : j.Holds P := by
  cases hchange with
  | searched _ hsearch =>
    have hlive := h.retains hclear hsearch.retains
    unfold become
    split
    · exact .of_live nofun nofun hlive
    · exact h.of_phase rfl hlive
  | stopping => exact h.of_phase rfl h.live
  | @stopped wasUp reason => exact h.of_phase rfl (h.retains hclear (i.conn.bringDown_retains _ _))
  | calm hcalm =>
    refine h.of_phase rfl ?_
    rw [hcalm.eq]
    exact h.live
  | throttled => exact h
  | permitted => exact h.of_phase rfl h.live
  | queued => exact h.of_phase rfl h.live
  | given => exact h.of_phase rfl h.live
  | copied =>
    refine ⟨h.live, fun copies heq => ?_, nofun⟩
    cases heq
    exact h.live
  | worked hphase =>
    refine ⟨h.live, nofun, fun report heq => ?_⟩
    exact hwork _ report hphase heq
  | settled hphase => exact .of_live nofun nofun (h.worked _ hphase)
  | concluded => exact .of_live nofun nofun (h.retains hclear (i.conn.conclude_retains _))
  | aborted => exact .of_live nofun nofun (h.retains hclear (i.conn.conclude_retains _))

end Interplay

/-! ## chronicles -/

/-- A connection in use, with the readings of the clock at which something happened that
matters for those who wait for frames. -/
structure Chronicle (τ σ : Type) where
  place : Interplay τ σ
  readings : List τ

namespace Chronicle

variable {τ σ : Type} [Reading τ] [CustomCycle τ Mock.Line σ]

/-- What can happen next, and the frames that arrive by it. -/
inductive Step (c : Chronicle τ σ) : List (Frame τ) → Chronicle τ σ → Prop
  /-- Anything but the work of a cycle. -/
  | quiet {place : Interplay τ σ} (h : Interplay.Step (fun _ => True) c.place place)
      (hquiet : ∀ report, place.phase = .worked report → c.place.phase = .worked report) :
    Step c [] { c with place := place }
  /-- A cycle works.  Payloads arrive in the history, each at a reading. -/
  | work {place : Interplay τ σ} (h : Interplay.Step (fun _ => True) c.place place)
      {copies : Queues τ} (hcopied : c.place.phase = .copied copies) {report : CycleReport τ}
      (hworked : place.phase = .worked report) (arrivals : List (τ × Bytes))
      (harrivals : report.receive = copies.receive.pushAll arrivals) :
    Step c (copies.receive.stamped arrivals) ⟨place, c.readings ++ arrivals.map Prod.fst⟩

/-- What can become of a connection that was just created. -/
inductive Reachable : Chronicle τ σ → Prop
  | create {config : ConnectionConfig} {bench : Mock.Bench} {clock : Clock τ}
      {parked : Option (LoopCycle σ)} {c : Connection τ σ}
      (h : Connection.create config bench clock parked = .ok c) : Reachable ⟨.fresh c, []⟩
  | step {c d : Chronicle τ σ} {arrived : List (Frame τ)} (hc : Reachable c)
      (h : c.Step arrived d) : Reachable d

end Chronicle

/-! ## cycles that only push -/

/-- To push is all that the cycles in the place of the standard one do to their history. -/
def PushesOnly (τ δ σ : Type) [Reading τ] [CustomCycle τ δ σ] : Prop :=
  ∀ (s : σ) (w : Workspace τ δ), ∃ arrivals,
    (CustomCycle.run s w).2.2.receive = w.receive.pushAll arrivals

section

variable {τ δ σ : Type} [Reading τ] [Transport δ]

/-- The frames of the bytes that a run reads arrive in the history. -/
theorem StandardCycle.Absorbs.pushAll {c c' : StandardCycle} {history history' : ReceiveQueue τ}
    {clock clock' : Clock τ} {data : Bytes} {result : Except CycleFault Unit}
    (h : Absorbs c history clock data result c' history' clock') :
    ∃ arrivals, history' = history.pushAll arrivals := by
  cases h with
  | nothing => exact ⟨[], rfl⟩
  | frames => exact history.push_eq_pushAll clock (c.framer.feed data).1
  | refused => exact ⟨[], rfl⟩

/-- Every cycle only pushes, if those in the place of the standard one do. -/
theorem LoopCycle.run_pushAll [CustomCycle τ δ σ] (hp : PushesOnly τ δ σ) (cycle : LoopCycle σ)
    (elapsed : List Duration) (w : Workspace τ δ) :
    ∃ arrivals, (cycle.run elapsed w).2.2.receive = w.receive.pushAll arrivals := by
  cases cycle with
  | standard c => exact (c.run_traffic elapsed w).2.pushAll
  | custom s => exact hp s w

end

/-- The sample cycles push only. -/
theorem SampleCycle.pushesOnly {τ δ : Type} [Reading τ] [Transport δ] :
    PushesOnly τ δ SampleCycle := fun s w => (s.run_handled w).pushAll

/-! ## every step is one of a chronicle -/

namespace Chronicle

variable {τ σ : Type} [Reading τ] [CustomCycle τ Mock.Line σ] {c d : Chronicle τ σ}
  {p : τ → Prop} {arrived : List (Frame τ)}

/-- Every step of a connection is a step of its chronicle, if the cycles only push. -/
theorem exists_step (hp : PushesOnly τ Mock.Line σ) (c : Chronicle τ σ) {place : Interplay τ σ}
    (h : Interplay.Step (fun _ => True) c.place place) :
    ∃ arrived readings, c.Step arrived ⟨place, readings⟩ := by
  have hstep := h
  cases h with
  | @work copies hphase handle cycle hloop elapsed popped =>
    obtain ⟨arrivals, harrivals⟩ := cycle.run_pushAll hp elapsed (c.place.workspace handle copies)
    have hrun := Connection.runCycle_of_loop hloop copies elapsed
    let r := cycle.run elapsed (c.place.workspace handle copies)
    have hworked : (c.place.work handle cycle copies elapsed popped).phase =
        .worked (copies.report r.1 r.2.2) := by
      unfold Interplay.work
      dsimp only at hrun
      rw [hrun]
      rfl
    exact ⟨_, _, .work hstep hphase hworked arrivals harrivals⟩
  | connect => exact ⟨_, _, .quiet hstep fun _ => Interplay.phase_of_become⟩
  | reconnect => exact ⟨_, _, .quiet hstep fun _ => Interplay.phase_of_become⟩
  | permit t =>
    refine ⟨_, _, .quiet hstep fun _ => ?_⟩
    unfold Interplay.permit
    split <;> exact id
  | copy => exact ⟨_, _, .quiet hstep nofun⟩
  | settle => exact ⟨_, _, .quiet hstep nofun⟩
  | conclude => exact ⟨_, _, .quiet hstep nofun⟩
  | abort => exact ⟨_, _, .quiet hstep nofun⟩
  | _ => exact ⟨_, _, .quiet hstep fun _ => id⟩

/-! ## histories in order -/

/-- Readings are only added. -/
theorem Step.readings_prefix (h : c.Step arrived d) : c.readings <+: d.readings := by
  cases h with
  | quiet => exact List.prefix_refl _
  | work => exact List.prefix_append _ _

/-- What holds of all histories still holds after a step, if it holds of an emptied history and
of one in which the frames arrive that arrive by the step. -/
theorem Step.holds {P : ReceiveQueue τ → Prop} (hstep : c.Step arrived d) (h : c.place.Holds P)
    (hclear : ∀ q, P q → P q.clear)
    (hpush : ∀ q arrivals, P q → arrived = q.stamped arrivals →
      (∀ a ∈ arrivals, a.1 ∈ d.readings) → P (q.pushAll arrivals)) : d.place.Holds P := by
  cases hstep with
  | quiet hplace hquiet =>
    refine h.change hclear hplace.change fun copies report hi hj => ?_
    rw [hquiet report hj] at hi
    cases hi
  | work hplace hcopied hworked arrivals harrivals =>
    refine h.change hclear hplace.change fun copies report hi hj => ?_
    cases hcopied.symm.trans hi
    cases hworked.symm.trans hj
    rw [harrivals]
    exact hpush _ arrivals (h.copied _ hcopied) rfl fun a ha =>
      List.mem_append_right _ (List.mem_map_of_mem ha)

/-- All histories are in order, and their timestamps are readings of the chronicle. -/
def Sorted (c : Chronicle τ σ) : Prop :=
  c.place.Holds fun q => q.InOrder (· ∈ c.readings)

theorem Sorted.step (hp : Reading.Ordered (· ∈ d.readings)) (h : c.Sorted)
    (hstep : c.Step arrived d) : d.Sorted := by
  have hmore : c.place.Holds fun q => q.InOrder (· ∈ d.readings) :=
    h.imp fun q hq => hq.mono fun t ht => hstep.readings_prefix.subset ht
  exact hstep.holds hmore (fun q _ => q.inOrder_clear _) fun q arrivals hq _ hnew =>
    hq.pushAll hp hnew

/-- In a run with ordered readings all histories are in order. -/
theorem Reachable.sorted (hp : Reading.Ordered p) (hc : c.Reachable)
    (hreadings : ∀ t ∈ c.readings, p t) : c.Sorted := by
  induction hc with
  | create hcreate =>
    refine .of_live nofun nofun ?_
    rw [Interplay.fresh, Connection.create_eq hcreate]
    exact ⟨fun _ h => absurd h List.not_mem_nil, List.Pairwise.nil⟩
  | step hc hstep ih =>
    have hbefore := fun t ht => hreadings t (hstep.readings_prefix.subset ht)
    exact (ih hbefore).step (hp.mono hreadings) hstep

end Chronicle

end SerialLink
