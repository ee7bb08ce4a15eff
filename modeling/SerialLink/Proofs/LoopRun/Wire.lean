import SerialLink.Cycle.Samples
import SerialLink.Proofs.LoopRun
import SerialLink.Proofs.Writing

/-!
# SerialLink.Proofs.LoopRun.Wire

What a loop with the standard cycle puts on the wire.

1. A run of the cycle puts the payloads that it pops on the wire.  Only if it fails, a part of
   the next payload may follow (`StandardCycle.run_wire`).
2. A loop whose cycle failed does not run it again (`Phase.goesOn`), so a payload that is out
   in part is not offered again: at any time, what was put on the wire is a front part of what
   the queue took, byte by byte (`LoopRun.Wired`).
3. So a loop on a serial port, whatever its driver does, puts no byte on the wire twice
   (`SerialPort.sends_once`).
-/

namespace SerialLink

variable {τ δ σ : Type} [Reading τ] [Transport δ] {wire : δ → Bytes}

/-! ## runs of the cycle -/

namespace StandardCycle

theorem device_fill (c : StandardCycle) (w : Workspace τ δ) :
    (c.fill w).2.2.device = (Transport.read w.device).2 := by
  unfold fill
  cases Transport.read w.device with
  | mk answer device =>
    match answer with
    | .error e => rfl
    | .ok [] => rfl
    | .ok (b :: data) =>
      dsimp only
      split <;> rfl

omit [Reading τ] in
theorem drain_wire (hwire : Transport.Honest wire) (c : StandardCycle)
    (elapsed : List Duration) (w : Workspace τ δ) :
    ∃ payloads part, w.send.Pops payloads (c.drain elapsed w).2.send ∧
      wire (c.drain elapsed w).2.device = wire w.device ++ (payloads.flatten ++ part) ∧
      part <+: (c.drain elapsed w).2.send.toList.flatten ∧
      (∀ n, (c.drain elapsed w).1 = .ok n → part = []) := by
  obtain ⟨payloads, part, hpops, hout, hpart, hok⟩ :=
    SerialLink.drain_wire hwire c.drainBudget elapsed w.send w.device
  refine ⟨payloads, part, hpops, hout, hpart, fun n hn => ?_⟩
  unfold drain at hn
  cases hresult : (SerialLink.drain c.drainBudget elapsed w.send w.device).result with
  | error e => simp [hresult, Except.mapError] at hn
  | ok m => exact hok m hresult

/-- A run puts on the wire what it pops.  If it fails, a part of the oldest payload that is left
may follow. -/
theorem run_wire (hwire : Transport.Honest wire) (c : StandardCycle) (elapsed : List Duration)
    (w : Workspace τ δ) :
    ∃ payloads part, w.send.Pops payloads (c.run elapsed w).2.2.send ∧
      wire (c.run elapsed w).2.2.device = wire w.device ++ (payloads.flatten ++ part) ∧
      part <+: (c.run elapsed w).2.2.send.toList.flatten ∧
      ((c.run elapsed w).1 = .ok () → part = []) := by
  obtain ⟨payloads, part, hpops, hout, hpart, hok⟩ := c.drain_wire hwire elapsed w
  refine ⟨payloads, part, ?_⟩
  unfold run
  cases hdrain : c.drain elapsed w with
  | mk answer w' =>
    rw [hdrain] at hpops hout hpart hok
    cases answer with
    | error e => exact ⟨hpops, hout, hpart, nofun⟩
    | ok n =>
      dsimp only
      rw [send_fill, device_fill, hwire.read]
      exact ⟨hpops, hout, hpart, fun _ => hok n rfl⟩

end StandardCycle

/-! ## loops -/

/-- The cycle has not failed. -/
def Phase.goesOn : Phase τ → Prop
  | .worked report => report.result = .ok ()
  | .settled result => result = .ok ()
  | _ => True

namespace LoopRun

variable [CustomCycle τ δ σ] {p : τ → Prop} {s t : LoopRun τ δ σ}

/-- What can happen next, if nobody but the loop puts anything on the wire. -/
structure Quiet (wire : δ → Bytes) (p : τ → Prop) (s t : LoopRun τ δ σ) : Prop where
  step : Step p s t
  /-- A change on the side of the device leaves the wire as it was. -/
  wire_eq : ∀ device, t = { s with device := device } → wire device = wire s.device

/-- What can happen in the course of time, if nobody but the loop puts anything on the wire. -/
abbrev QuietCourse (wire : δ → Bytes) (p : τ → Prop) :
    LoopRun τ δ σ → LoopRun τ δ σ → Prop :=
  Relation.ReflTransGen (Quiet wire p)

theorem QuietCourse.course (h : QuietCourse wire p s t) : Course p s t :=
  Relation.ReflTransGen.mono (fun _ _ hstep => Quiet.step hstep) _ _ h

/-- A step that leaves the wire as it was is quiet. -/
theorem Step.quiet (h : Step p s t) (hwire : wire t.device = wire s.device) : Quiet wire p s t :=
  ⟨h, fun device ht => by rw [ht] at hwire; exact hwire⟩

/-- So is the work of the cycle, whatever it puts on the wire. -/
theorem quiet_work {copies : Queues τ} (h : s.phase = .copied copies) (elapsed : List Duration)
    {popped : List Bytes}
    (hpopped : ∀ payloads, copies.send.Pops payloads
      (s.cycle.run elapsed (s.workspace copies)).2.2.send → popped = payloads) :
    Quiet wire p s (s.work copies elapsed popped) where
  step := .work s h elapsed hpopped
  wire_eq device ht := by
    have hphase := congrArg LoopRun.phase ht
    rw [h] at hphase
    cases hphase

/-- Since the wire was `before`, the payloads popped were put on it, and, once the cycle failed,
perhaps a part of the next one. -/
def Wired (wire : δ → Bytes) (before : Bytes) (s : LoopRun τ δ σ) : Prop :=
  ∃ part, wire s.device = before ++ (s.journal.popped.flatten ++ part) ∧
    s.journal.popped.flatten ++ part <+: s.journal.queued.flatten ∧
    (s.phase.goesOn → part = [])

namespace Wired

variable {before : Bytes}

theorem work (hwire : Transport.Honest wire) {c : StandardCycle} (hcycle : s.cycle = .standard c)
    (hbalanced : s.Balanced) (h : s.Wired wire before) {copies : Queues τ}
    (hphase : s.phase = .copied copies) {elapsed : List Duration} {popped : List Bytes}
    (hpopped : ∀ payloads, copies.send.Pops payloads
      (s.cycle.run elapsed (s.workspace copies)).2.2.send → popped = payloads) :
    (s.work copies elapsed popped).Wired wire before := by
  have hbalance := hbalanced.balance
  obtain ⟨more, hmore⟩ := hbalanced.copies hphase
  obtain ⟨none, hbefore, -, hnone⟩ := h
  obtain ⟨queues, cycle, device, clock, phase, journal⟩ := s
  dsimp only at hcycle hphase hbefore hbalance hmore
  subst hcycle hphase
  obtain ⟨payloads, part, hpops, hout, hpart, hok⟩ := c.run_wire hwire elapsed
    (⟨device, copies.send, copies.receive, clock⟩ : Workspace τ δ)
  rw [hpopped payloads hpops]
  refine ⟨part, ?_, ?_, hok⟩
  · show wire _ = before ++ ((journal.popped ++ payloads).flatten ++ part)
    rw [hnone trivial, List.append_nil] at hbefore
    rw [List.flatten_append]
    simp only [List.append_assoc] at hout ⊢
    rw [← List.append_assoc before, ← hbefore]
    exact hout
  · show (journal.popped ++ payloads).flatten ++ part <+: journal.queued.flatten
    have hqueued : journal.popped ++ (copies.send.toList ++ more) = journal.queued := by
      rw [hmore]
      exact hbalance
    rw [← hqueued, hpops.toList_eq]
    simp only [List.flatten_append, List.append_assoc]
    rw [List.prefix_append_right_inj, List.prefix_append_right_inj]
    exact hpart.trans (List.prefix_append _ _)

/-- Whatever happens next, no byte is put on the wire out of its turn. -/
theorem step (hwire : Transport.Honest wire) {c : StandardCycle} (hcycle : s.cycle = .standard c)
    (hbalanced : s.Balanced) (h : s.Wired wire before) (hstep : Quiet wire p s t) :
    t.Wired wire before := by
  cases hstep.step with
  | @push payload send hpush =>
    obtain ⟨part, hpart, hqueued, hnone⟩ := h
    refine ⟨part, hpart, ?_, hnone⟩
    show _ <+: (s.journal.queued ++ [payload]).flatten
    rw [List.flatten_append]
    exact hqueued.trans (List.prefix_append _ _)
  | device device =>
    obtain ⟨part, hpart, h⟩ := h
    exact ⟨part, (hstep.wire_eq device rfl).trans hpart, h⟩
  | clock => exact h
  | copy hphase =>
    obtain ⟨part, hpart, hqueued, hnone⟩ := h
    rw [hphase] at hnone
    exact ⟨part, hpart, hqueued, fun _ => hnone trivial⟩
  | work hphase _ hpopped => exact h.work hwire hcycle hbalanced hphase hpopped
  | settle hphase =>
    obtain ⟨part, hpart, hqueued, hnone⟩ := h
    rw [hphase] at hnone
    exact ⟨part, hpart, hqueued, hnone⟩
  | rest hphase =>
    obtain ⟨part, hpart, hqueued, hnone⟩ := h
    rw [hphase] at hnone
    exact ⟨part, hpart, hqueued, fun _ => hnone rfl⟩

end Wired

/-- At any time, what was put on the wire is a front part of what the queue took, and as long as
the cycle has not failed it is what was popped. -/
theorem wired_course (hwire : Transport.Honest wire) {queues : Queues τ} {c : StandardCycle}
    {device : δ} {clock : Clock τ}
    (hcourse : QuietCourse wire p (start queues (.standard c) device clock) s) :
    s.Wired wire (wire device) := by
  induction hcourse with
  | refl => exact ⟨[], (List.append_nil _).symm, List.prefix_refl _, fun _ => rfl⟩
  | tail hcourse hstep ih =>
    obtain ⟨hwritten, hbalanced⟩ := written_balanced (QuietCourse.course hcourse)
    obtain ⟨c', hcycle⟩ := hwritten.cycle
    exact ih.step hwire hcycle hbalanced hstep

end LoopRun

/-! ## serial ports -/

section

variable [CustomCycle τ SerialPort σ]

open LoopRun

omit [Transport δ] in
/-- Writing a payload to a serial port is all or nothing towards whoever tries again, whatever the
driver does, and comes to an end if it recovers from interruptions.  So a loop that offers a
payload again after a transient failure puts no byte on the wire twice: at any time, what it
put there is a front part of what its queue took. -/
theorem SerialPort.sends_once :
    (∀ (outcomes : Stream' WriteOutcome) (flush : Option IoError) (data : Bytes),
      Recovers outcomes → ∃ record : WriteRecord,
        (∀ more, Writer.writePayload ⟨outcomes.take record.offers.length ++ more, flush⟩ data =
          record) ∧
        record.taken <+: data ∧
        (record.result = .ok () → record.taken = data) ∧
        ∀ e, record.result = .error e →
          (e.isTransient = true → record.taken = []) ∧
          (record.taken ≠ [] → e.isTransient = false)) ∧
    ∀ (p : τ → Prop) (queues : Queues τ) (c : StandardCycle) (port : SerialPort)
      (clock : Clock τ) (s : LoopRun τ SerialPort σ),
      QuietCourse SerialPort.wire p (start queues (.standard c) port clock) s →
      ∃ sent, s.device.wire = port.wire ++ sent ∧
        sent <+: s.journal.queued.flatten ∧
        (s.phase.goesOn → sent = s.journal.popped.flatten) := by
  constructor
  · intro outcomes flush data hrecovers
    obtain ⟨record, hrecord⟩ := Writer.exists_record hrecovers flush data
    have hagrees := Writer.agrees ⟨outcomes.take record.offers.length ++ [], flush⟩ data
    rw [hrecord] at hagrees
    refine ⟨record, hrecord, hagrees.within, hagrees.whole, fun e he => ?_⟩
    refine ⟨hagrees.nothing e he, fun hout => ?_⟩
    cases htransient : e.isTransient with
    | false => rfl
    | true => exact absurd (hagrees.nothing e he htransient) hout
  · intro p queues c port clock s hcourse
    obtain ⟨part, hwire, hqueued, hnone⟩ := wired_course SerialPort.honest hcourse
    refine ⟨s.journal.popped.flatten ++ part, hwire, hqueued, fun hgoes => ?_⟩
    rw [hnone hgoes, List.append_nil]

end

/-- A port that is busy at first, then takes two bytes and stalls.  The payload is offered twice,
and its first two bytes are on the wire once. -/
theorem SerialPort.sends_once_stalled :
    (∃ record : WriteRecord,
      (∀ more, Writer.writePayload ⟨(Stream'.const (.takes 3)).take record.offers.length ++ more,
        some ⟨.timedOut, "busy"⟩⟩ [1, 2, 3, 4] = record) ∧ record.taken <+: [1, 2, 3, 4]) ∧
    ∃ s : LoopRun Rat SerialPort SampleCycle,
      s.journal.queued = [[1, 2, 3, 4]] ∧ s.device.wire = [1, 2] ∧ s.device.writers = [] ∧
      ∃ sent, s.device.wire = sent ∧ sent <+: [1, 2, 3, 4] := by
  obtain ⟨hwrites, hloops⟩ := sends_once (τ := Rat) (σ := SampleCycle)
  constructor
  · obtain ⟨record, hrecord, hwithin, -, -⟩ := hwrites (Stream'.const (.takes 3))
      (some ⟨.timedOut, "busy"⟩) [1, 2, 3, 4] fun i => ⟨i, Nat.le_refl i, rfl⟩
    exact ⟨record, hrecord, hwithin⟩
  · have h₀ : LoopRun.QuietCourse SerialPort.wire (fun _ : Rat => True)
        (.start ⟨.empty, ⟨.empty, 2, 0⟩⟩ (.standard (.ofFraming .raw))
          ⟨true, [⟨[.fails ⟨.timedOut, "busy"⟩], none⟩,
            ⟨[.takes 2, .fails ⟨.interrupted, "again"⟩, .fails ⟨.timedOut, "full"⟩], none⟩],
            [], []⟩ ⟨0, []⟩ : LoopRun Rat SerialPort SampleCycle) _ := .refl
    have hpush : SendQueue.empty.push? [1, 2, 3, 4] = some _ := rfl
    have h₁ := h₀.tail (LoopRun.Step.quiet (.push _ hpush) rfl)
    have h₂ := ((h₁.tail (LoopRun.Step.quiet (.copy _ rfl) rfl)).tail
      (LoopRun.quiet_work rfl [] fun _ h => h.eq_take.symm)).tail
        (LoopRun.Step.quiet (.settle _ rfl nofun) rfl)
    have h₃ := (((h₂.tail (LoopRun.Step.quiet (.rest _ rfl) rfl)).tail
      (LoopRun.Step.quiet (.copy _ rfl) rfl)).tail
        (LoopRun.quiet_work rfl [] fun _ h => h.eq_take.symm)).tail
          (LoopRun.Step.quiet (.settle _ rfl nofun) rfl)
    obtain ⟨sent, hsent, hqueued, -⟩ := hloops _ _ _ _ _ _ h₃
    exact ⟨_, rfl, by decide +kernel, by decide +kernel, sent, hsent, hqueued⟩

end SerialLink
