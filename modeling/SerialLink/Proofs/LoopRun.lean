import Mathlib.Logic.Relation
import SerialLink.Proofs.Readings
import SerialLink.Proofs.Tap

/-!
# SerialLink.Proofs.LoopRun

A loop at work, from its start on, with everything that others do meanwhile.

1. A turn of the loop goes through the phases of a `Phase`: the queues are copied, the cycle
   works on the copies, and what it came to is brought into the live queues.  In between,
   callers push payloads, the device changes and the clock goes on (`LoopRun.Step`).
2. A `Journal` is kept beside the state: the payloads that the queue took, those that the
   cycles popped, and what went through the device.
3. If the cycles pop only, then at any time the payloads popped, followed by the live queue,
   are the payloads taken, and the queue keeps within its limit (`LoopRun.Balanced`).  While
   a report has yet to be brought in, the payloads it took still stand at the front of the
   live queue.
-/

namespace SerialLink

/-! ## phases and journals -/

/-- How far a turn of the loop has come. -/
inductive Phase (τ : Type) where
  /-- The next turn has not begun. -/
  | resting
  /-- The queues are copied. -/
  | copied (copies : Queues τ)
  /-- The cycle has run on the copies. -/
  | worked (report : CycleReport τ)
  /-- What the cycle came to is brought in. -/
  | settled (result : Except CycleFault Unit)

/-- How many payloads at the front of the live queue are popped already. -/
def Phase.taken {τ : Type} : Phase τ → Nat
  | .worked report => report.taken
  | _ => 0

/-- What happened since the loop started. -/
structure Journal where
  /-- The payloads that the send queue took. -/
  queued : List Bytes
  /-- The payloads that the cycles popped. -/
  popped : List Bytes
  /-- What went through the device. -/
  record : Record

namespace Journal

/-- Nothing happened yet. -/
def blank : Journal := ⟨[], [], .empty⟩

/-- The send queue took a payload. -/
def queue (j : Journal) (payload : Bytes) : Journal := { j with queued := j.queued ++ [payload] }

/-- A cycle popped payloads and moved something. -/
def work (j : Journal) (popped : List Bytes) (traffic : Record) : Journal :=
  { j with popped := j.popped ++ popped, record := j.record ++ traffic }

end Journal

/-! ## runs -/

/-- A loop at work: the live queues, its cycle, the device, the clock, how far its turn has
come, and the journal. -/
structure LoopRun (τ δ σ : Type) where
  queues : Queues τ
  cycle : LoopCycle σ
  device : δ
  clock : Clock τ
  phase : Phase τ
  journal : Journal

namespace LoopRun

variable {τ δ σ : Type}

/-- A loop that has just started: both queues are emptied, and the cycle is reset. -/
def start [CustomCycle τ δ σ] (queues : Queues τ) (cycle : LoopCycle σ) (device : δ)
    (clock : Clock τ) : LoopRun τ δ σ :=
  ⟨queues.clear, cycle.reset τ δ, device, clock, .resting, .blank⟩

/-- The queue took a payload. -/
def push (s : LoopRun τ δ σ) (payload : Bytes) (send : SendQueue) : LoopRun τ δ σ :=
  { s with queues := ⟨send, s.queues.receive⟩, journal := s.journal.queue payload }

/-- What the cycle works on. -/
def workspace (s : LoopRun τ δ σ) (copies : Queues τ) : Workspace τ δ :=
  ⟨s.device, copies.send, copies.receive, s.clock⟩

/-- What the cycle came to is brought into the live queues. -/
def settle (s : LoopRun τ δ σ) (report : CycleReport τ) : LoopRun τ δ σ :=
  { s with queues := s.queues.reconcile report, phase := .settled report.result }

variable [Reading τ] [Transport δ] [CustomCycle τ δ σ]

/-- The cycle works on the copies, and pops the given payloads. -/
def work (s : LoopRun τ δ σ) (copies : Queues τ) (elapsed : List Duration)
    (popped : List Bytes) : LoopRun τ δ σ :=
  let (result, cycle, w) := s.cycle.run elapsed (s.workspace copies)
  { s with
    cycle := cycle
    device := w.device
    clock := w.clock
    phase := .worked (copies.report result w)
    journal := s.journal.work popped (s.cycle.traffic elapsed (s.workspace copies)) }

/-- What can happen next.  All readings that the clock is set to satisfy `p`. -/
inductive Step (p : τ → Prop) : LoopRun τ δ σ → LoopRun τ δ σ → Prop
  /-- The queue takes a payload. -/
  | push (s : LoopRun τ δ σ) {payload : Bytes} {send : SendQueue}
      (h : s.queues.send.push? payload = some send) :
      Step p s (s.push payload send)
  /-- Something happens on the side of the device. -/
  | device (s : LoopRun τ δ σ) (device : δ) : Step p s { s with device := device }
  /-- The clock is read or set. -/
  | clock (s : LoopRun τ δ σ) {clock : Clock τ} (h : clock.All p) :
      Step p s { s with clock := clock }
  /-- The queues are copied. -/
  | copy (s : LoopRun τ δ σ) (h : s.phase = .resting) :
      Step p s { s with phase := .copied s.queues }
  /-- The cycle works.  If it only popped, `popped` are the payloads that it popped. -/
  | work (s : LoopRun τ δ σ) {copies : Queues τ} (h : s.phase = .copied copies)
      (elapsed : List Duration) {popped : List Bytes}
      (hpopped : ∀ payloads, copies.send.Pops payloads
        (s.cycle.run elapsed (s.workspace copies)).2.2.send → popped = payloads) :
      Step p s (s.work copies elapsed popped)
  /-- What the cycle came to is brought into the live queues, unless it broke off. -/
  | settle (s : LoopRun τ δ σ) {report : CycleReport τ} (h : s.phase = .worked report)
      (hresult : report.result ≠ .error .aborted) :
      Step p s (s.settle report)
  /-- The turn is over, and the loop goes on. -/
  | rest (s : LoopRun τ δ σ) (h : s.phase = .settled (.ok ())) :
      Step p s { s with phase := .resting }

/-- What can happen in the course of time. -/
abbrev Course (p : τ → Prop) : LoopRun τ δ σ → LoopRun τ δ σ → Prop :=
  Relation.ReflTransGen (Step p)

/-! ## what is sent -/

/-- The payloads popped, followed by those that wait, are the payloads taken. -/
structure Balanced (s : LoopRun τ δ σ) : Prop where
  balance : s.journal.popped ++ s.queues.send.toList.drop s.phase.taken = s.journal.queued
  taken_le : s.phase.taken ≤ s.queues.send.toList.length
  copies : ∀ {copies}, s.phase = .copied copies → copies.send.toList <+: s.queues.send.toList
  size_le : s.queues.send.size ≤ SendQueue.limit

omit [Reading τ] [Transport δ] in
/-- A loop that has just started is balanced: nothing was taken. -/
theorem balanced_start (queues : Queues τ) (cycle : LoopCycle σ) (device : δ) (clock : Clock τ) :
    (start queues cycle device clock).Balanced where
  balance := rfl
  taken_le := Nat.le_refl 0
  copies := nofun
  size_le := Nat.zero_le _

variable {p : τ → Prop} {s t : LoopRun τ δ σ}

omit [Reading τ] [Transport δ] [CustomCycle τ δ σ] in
/-- A payload that the queue takes comes last, whatever is popped meanwhile. -/
theorem Balanced.push (h : s.Balanced) {payload : Bytes} {send : SendQueue}
    (hpush : s.queues.send.push? payload = some send) : (s.push payload send).Balanced := by
  have hlist : send.toList = s.queues.send.toList ++ [payload] := SendQueue.toList_push? hpush
  constructor
  · show s.journal.popped ++ send.toList.drop s.phase.taken = s.journal.queued ++ [payload]
    rw [hlist, List.drop_append_of_le_length h.taken_le, ← List.append_assoc, h.balance]
  · show s.phase.taken ≤ send.toList.length
    rw [hlist, List.length_append]
    exact Nat.le_add_right_of_le h.taken_le
  · intro copies hphase
    show copies.send.toList <+: send.toList
    rw [hlist]
    exact (h.copies hphase).trans (List.prefix_append _ _)
  · exact SendQueue.size_push?_le hpush

/-- What a cycle pops from its copy stays in front of the live queue, and counts as taken. -/
theorem Balanced.work (h : s.Balanced) {copies : Queues τ} (hphase : s.phase = .copied copies)
    {elapsed : List Duration} {popped : List Bytes}
    (hpops : copies.send.Pops popped (s.cycle.run elapsed (s.workspace copies)).2.2.send) :
    (s.work copies elapsed popped).Balanced := by
  have hbalance := h.balance
  rw [hphase] at hbalance
  obtain ⟨more, hmore⟩ := h.copies hphase
  rw [hpops.toList_eq, List.append_assoc] at hmore
  have htaken : (s.work copies elapsed popped).phase.taken = popped.length := by
    show copies.send.size - _ = _
    rw [hpops.size_eq]
    exact Nat.add_sub_cancel _ _
  constructor
  · show (s.journal.popped ++ popped) ++ s.queues.send.toList.drop _ = s.journal.queued
    rw [htaken, ← hbalance, ← hmore, List.drop_left, List.append_assoc]
    rfl
  · show _ ≤ s.queues.send.toList.length
    rw [htaken, ← hmore, List.length_append]
    exact Nat.le_add_right _ _
  · nofun
  · exact h.size_le

omit [Reading τ] [Transport δ] [CustomCycle τ δ σ] in
/-- Bringing a report in removes from the live queue what was taken from its front. -/
theorem Balanced.settle (h : s.Balanced) {report : CycleReport τ}
    (hphase : s.phase = .worked report) : (s.settle report).Balanced := by
  have hbalance := h.balance
  rw [hphase] at hbalance
  constructor
  · show s.journal.popped ++ (s.queues.send.discardFront report.taken).toList = _
    rw [SendQueue.toList_discardFront]
    exact hbalance
  · exact Nat.zero_le _
  · nofun
  · exact Nat.le_trans (SendQueue.size_discardFront_le _ _) h.size_le

/-- Whatever happens next keeps the balance, if the cycle pops only. -/
theorem Balanced.step (h : s.Balanced)
    (hpops : ∀ (elapsed : List Duration) (w : Workspace τ δ), ∃ payloads,
      w.send.Pops payloads (s.cycle.run elapsed w).2.2.send)
    (hstep : Step p s t) : t.Balanced := by
  cases hstep with
  | push hpush => exact h.push hpush
  | device => exact ⟨h.balance, h.taken_le, h.copies, h.size_le⟩
  | clock => exact ⟨h.balance, h.taken_le, h.copies, h.size_le⟩
  | copy hphase =>
    have hbalance := h.balance
    rw [hphase] at hbalance
    refine ⟨hbalance, Nat.zero_le _, ?_, h.size_le⟩
    rintro copies ⟨⟩
    exact List.prefix_refl _
  | work hphase elapsed hpopped =>
    obtain ⟨payloads, hrun⟩ := hpops elapsed (s.workspace _)
    rw [hpopped payloads hrun]
    exact h.work hphase hrun
  | settle hphase => exact h.settle hphase
  | rest hphase =>
    have hbalance := h.balance
    rw [hphase] at hbalance
    exact ⟨hbalance, Nat.zero_le _, nofun, h.size_le⟩

/-- A loop whose cycles pop only is balanced at any time. -/
theorem balanced_course (hp : PopsOnly τ δ σ) {queues : Queues τ} {cycle : LoopCycle σ}
    {device : δ} {clock : Clock τ} (hcourse : Course p (start queues cycle device clock) s) :
    s.Balanced := by
  induction hcourse with
  | refl => exact balanced_start queues cycle device clock
  | tail _ hstep ih => exact ih.step (LoopCycle.run_pops hp _) hstep

/-! ## what is written -/

/-- The standard cycle has written what was popped. -/
structure Written (s : LoopRun τ δ σ) : Prop where
  cycle : ∃ c, s.cycle = .standard c
  written : s.journal.record.written = s.journal.popped

theorem Written.step (h : s.Written) (hstep : Step p s t) : t.Written := by
  obtain ⟨⟨c, hcycle⟩, hwritten⟩ := h
  cases hstep with
  | push => exact ⟨⟨c, hcycle⟩, hwritten⟩
  | device => exact ⟨⟨c, hcycle⟩, hwritten⟩
  | clock => exact ⟨⟨c, hcycle⟩, hwritten⟩
  | copy => exact ⟨⟨c, hcycle⟩, hwritten⟩
  | @work copies hphase elapsed popped hpopped =>
    obtain ⟨queues, cycle, device, clock, phase, journal⟩ := s
    dsimp only at hcycle
    subst hcycle
    have hrun := (c.run_traffic elapsed
      (⟨device, copies.send, copies.receive, clock⟩ : Workspace τ δ)).1
    refine ⟨⟨_, rfl⟩, ?_⟩
    rw [hpopped _ hrun]
    exact congrArg (· ++ _) hwritten
  | settle => exact ⟨⟨c, hcycle⟩, hwritten⟩
  | rest => exact ⟨⟨c, hcycle⟩, hwritten⟩

theorem written_balanced {queues : Queues τ} {c : StandardCycle} {device : δ} {clock : Clock τ}
    (hcourse : Course p (start queues (.standard c) device clock) s) :
    s.Written ∧ s.Balanced := by
  induction hcourse with
  | refl => exact ⟨⟨⟨c.reset, rfl⟩, rfl⟩, balanced_start queues _ device clock⟩
  | tail _ hstep ih =>
    obtain ⟨hwritten, hbalanced⟩ := ih
    obtain ⟨c', hcycle⟩ := hwritten.cycle
    refine ⟨hwritten.step hstep, hbalanced.step (fun elapsed w => ?_) hstep⟩
    rw [hcycle]
    exact ⟨_, (c'.run_traffic elapsed w).1⟩

/-- A loop with the standard cycle has only written payloads that the queue took, each once and
in their order. -/
theorem written_prefix {queues : Queues τ} {c : StandardCycle} {device : δ} {clock : Clock τ}
    (hcourse : Course p (start queues (.standard c) device clock) s) :
    s.journal.record.written <+: s.journal.queued := by
  obtain ⟨hwritten, hbalanced⟩ := written_balanced hcourse
  rw [hwritten.written, ← hbalanced.balance]
  exact List.prefix_append _ _

end LoopRun

end SerialLink
