import SerialLink.Proofs.Interplay.Simulation
import SerialLink.Proofs.Samples

/-!
# SerialLink.Proofs.Interplay.Sending

What is sent over a connection is sent once and in order.

While a turn of the loop is under way, callers push payloads into the live queue behind those
that the cycle is popping from its copy.  At any time the payloads popped since the loop
started, followed by what is left in the live queue, are the payloads that the queue took
since then.
-/

namespace SerialLink.Interplay

variable {τ σ : Type} [Reading τ] [CustomCycle τ Mock.Line σ]

/-- If the cycles pop only, then while a connection is up the payloads popped since its loop
started, followed by those that wait, are the payloads that the queue took since then.
Between a run of the cycle and the moment when its report is brought in, those that it popped
stand at the front of the queue still.  No more than the limit ever wait. -/
theorem popped_append_pending (hp : PopsOnly τ Mock.Line σ) {p : τ → Prop} {i : Interplay τ σ}
    (hi : Reachable p i) (hup : i.conn.isConnected = true) :
    ((∀ report, i.phase ≠ .worked report) →
        i.journal.popped ++ i.conn.send.toList = i.journal.queued) ∧
      (∀ report, i.phase = .worked report → report.taken ≤ i.conn.pendingSends ∧
        i.journal.popped ++ i.conn.send.toList.drop report.taken = i.journal.queued) ∧
      i.conn.pendingSends ≤ 65536 := by
  obtain ⟨h, cycle, hloop⟩ := Connection.exists_loop_of_isConnected hup
  obtain ⟨queues, cycle₀, device, clock, -, hcourse⟩ := hi.run hloop
  have hbalanced : (i.run h cycle).Balanced := LoopRun.balanced_course hp hcourse
  have hbalance := hbalanced.balance
  have htaken := hbalanced.taken_le
  change i.journal.popped ++ i.conn.send.toList.drop i.phase.taken = i.journal.queued at hbalance
  change i.phase.taken ≤ i.conn.send.toList.length at htaken
  refine ⟨fun hnone => ?_, fun report hphase => ?_, hbalanced.size_le⟩
  · have hzero : i.phase.taken = 0 := by
      cases hphase : i.phase with
      | worked report => exact absurd hphase (hnone report)
      | resting => rfl
      | copied copies => rfl
      | settled result => rfl
    rwa [hzero, List.drop_zero] at hbalance
  · rw [hphase] at hbalance htaken
    rw [Connection.pendingSends, SendQueue.size_eq_length]
    exact ⟨htaken, hbalance⟩

/-- A cycle that fails has popped one of three payloads; before the loop ends, and with one more
handed in by then, the other three wait. -/
theorem popped_append_pending_fragile :
    ∃ i : Interplay Float SampleCycle, Reachable (fun _ => True) i ∧
      i.conn.isConnected = true ∧
      i.phase = .settled (.error (.failed ⟨.other, "cycle failed"⟩)) ∧
      i.journal.popped = [Text.Utf8.bytes "fail"] ∧
      i.journal.popped ++ i.conn.send.toList = i.journal.queued ∧
      i.journal.queued = ["fail", "b", "c", "d"].map Text.Utf8.bytes := by
  have hcreate : Connection.create (.ofPorts ["A"]) (.ofPorts ["A"]) (.fixed (5.0 : Float))
      (some (.custom SampleCycle.fragile)) = .ok _ := rfl
  have h₀ : Reachable (fun _ => True) _ := .create hcreate ⟨trivial, fun _ _ => trivial⟩
  have h₁ := h₀.step (.connect _ rfl (.begin _ []) rfl)
  have h₂ := (h₁.step (.permit _ ⟨5.0, .zero⟩)).step (.push _ (Text.Utf8.bytes "fail") rfl)
  have h₃ := (h₂.step (.permit _ ⟨5.0, .zero⟩)).step (.push _ (Text.Utf8.bytes "b") rfl)
  have h₄ := h₃.step (.copy _ rfl rfl)
  have h₅ := (h₄.step (.permit _ ⟨5.0, .zero⟩)).step (.push _ (Text.Utf8.bytes "c") rfl)
  have h₆ := h₅.step (.work _ rfl rfl [] (fun _ h => h.eq_take.symm) ⟨trivial, fun _ _ => trivial⟩)
  have h₇ := (h₆.step (.permit _ ⟨5.0, .zero⟩)).step (.push _ (Text.Utf8.bytes "d") rfl)
  have h₈ := h₇.step (.settle _ rfl nofun)
  refine ⟨_, h₈, ?_, ?_, ?_, ?_, ?_⟩
  · decide +kernel
  · rfl
  · decide +kernel
  · refine (popped_append_pending SampleCycle.popsOnly h₈ ?_).1 nofun
    decide +kernel
  · decide +kernel

end SerialLink.Interplay
