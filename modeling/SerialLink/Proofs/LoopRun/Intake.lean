import SerialLink.Cycle.Samples
import SerialLink.Proofs.Framing
import SerialLink.Proofs.History
import SerialLink.Proofs.LoopRun

/-!
# SerialLink.Proofs.LoopRun.Intake

What a loop with the standard cycle receives.

1. An `Intake` is what receiving depends on: the cycle, the history as the cycle left it, the
   clock, and all bytes read since the loop started.  It changes only when bytes are read and
   when the clock goes on (`Intake.Step`), and every run of a loop is such a course
   (`LoopRun.exists_takes`).
2. Under a stable framing, cycle and history are what feeding all the bytes at once gives
   (`Intake.Framed`).
3. The frames stay in order (`Intake.course_inOrder`).
4. Under any framing, what is received and what is carried over stands in the bytes read
   (`Intake.Sourced`).
5. So under a stable framing it does not matter which run of the cycle read which bytes
   (`LoopRun.received_framed`).
-/

namespace SerialLink

/-! ## what is received -/

/-- What has come in since a loop started. -/
structure Intake (τ : Type) where
  cycle : StandardCycle
  history : ReceiveQueue τ
  clock : Clock τ
  read : Bytes

namespace Intake

variable {τ : Type}

/-- Nothing came in yet. -/
def start (c : StandardCycle) (history : ReceiveQueue τ) (clock : Clock τ) : Intake τ :=
  ⟨c.reset, history.clear, clock, []⟩

variable [Reading τ]

/-- What can happen next. -/
inductive Step (p : τ → Prop) : Intake τ → Intake τ → Prop
  /-- A run of the cycle reads bytes. -/
  | read (x : Intake τ) {data : Bytes} {result : Except CycleFault Unit} {cycle : StandardCycle}
      {history : ReceiveQueue τ} {clock : Clock τ}
      (h : x.cycle.Absorbs x.history x.clock data result cycle history clock) :
      Step p x ⟨cycle, history, clock, x.read ++ data⟩
  /-- The clock is read or set. -/
  | clock (x : Intake τ) {clock : Clock τ} (h : clock.All p) : Step p x { x with clock := clock }

/-- What can come in in the course of time. -/
abbrev Course (p : τ → Prop) : Intake τ → Intake τ → Prop := Relation.ReflTransGen (Step p)

end Intake

namespace LoopRun

variable {τ δ σ : Type}

/-- The history with everything received, also what is yet to be brought in. -/
def history (s : LoopRun τ δ σ) : ReceiveQueue τ :=
  match s.phase with
  | .worked report => report.receive
  | _ => s.queues.receive

/-- The live history is up to date, unless a report is yet to be brought in. -/
theorem history_of_ne {s : LoopRun τ δ σ} (hphase : ∀ report, s.phase ≠ .worked report) :
    s.history = s.queues.receive := by
  unfold history
  split
  next report heq => exact absurd heq (hphase report)
  next => rfl

/-- Of what can come in from `x₀` on, `x` is what has come in, and `y` is what of it is in the
live history. -/
structure Takes [Reading τ] (p : τ → Prop) (x₀ y x : Intake τ) (s : LoopRun τ δ σ) : Prop where
  before : Intake.Course p x₀ y
  since : Intake.Course p y x
  live : s.queues.receive = y.history
  cycle : s.cycle = .standard x.cycle
  history : s.history = x.history
  clock : s.clock = x.clock
  read : s.journal.record.read = x.read
  copies : ∀ {copies}, s.phase = .copied copies → copies.receive = x.history

variable [Reading τ] [CustomCycle τ δ σ] {p : τ → Prop}

theorem takes_start (queues : Queues τ) (c : StandardCycle) (device : δ) (clock : Clock τ) :
    Takes p (.start c queues.receive clock) (.start c queues.receive clock)
      (.start c queues.receive clock)
      (start queues (.standard c : LoopCycle σ) device clock) :=
  ⟨.refl, .refl, rfl, rfl, rfl, rfl, rfl, nofun⟩

variable [Transport δ] {s t : LoopRun τ δ σ} {x₀ x y : Intake τ}

/-- A run of the cycle reads bytes, and what comes of them has come in. -/
theorem Takes.work (h : s.Takes p x₀ y x) {copies : Queues τ} (hphase : s.phase = .copied copies)
    (elapsed : List Duration) (popped : List Bytes) :
    ∃ x', (s.work copies elapsed popped).Takes p x₀ y x' := by
  obtain ⟨queues, cycle, device, clock, phase, journal⟩ := s
  obtain ⟨c, received, now, bytes⟩ := x
  obtain ⟨hbefore, hsince, hlive, hcycle, -, hclock, hread, hcopies⟩ := h
  have hreceived : copies.receive = received := hcopies hphase
  dsimp only at hcycle hclock hread
  subst hcycle hclock hread hreceived
  obtain ⟨-, habsorbs⟩ := c.run_traffic elapsed
    (⟨device, copies.send, copies.receive, clock⟩ : Workspace τ δ)
  exact ⟨_, hbefore, hsince.tail (.read _ habsorbs), hlive, rfl, rfl, rfl, rfl, nofun⟩

/-- Whatever happens next, it is known what has come in. -/
theorem Takes.step (h : s.Takes p x₀ y x) (hstep : Step p s t) : ∃ y x, t.Takes p x₀ y x := by
  cases hstep with
  | push =>
    exact ⟨y, x, h.before, h.since, h.live, h.cycle, h.history, h.clock, h.read, h.copies⟩
  | device =>
    exact ⟨y, x, h.before, h.since, h.live, h.cycle, h.history, h.clock, h.read, h.copies⟩
  | clock hclock =>
    exact ⟨y, _, h.before, h.since.tail (.clock x hclock), h.live, h.cycle, h.history, rfl, h.read,
      h.copies⟩
  | copy hphase =>
    have hhistory := h.history
    rw [history_of_ne (by simp [hphase])] at hhistory
    refine ⟨y, x, h.before, h.since, h.live, h.cycle, hhistory, h.clock, h.read, ?_⟩
    rintro copies ⟨⟩
    exact hhistory
  | work hphase elapsed =>
    obtain ⟨x', ht⟩ := h.work hphase elapsed _
    exact ⟨y, x', ht⟩
  | settle hphase =>
    have hhistory := h.history
    simp only [LoopRun.history, hphase] at hhistory
    exact ⟨x, x, h.before.trans h.since, .refl, hhistory, h.cycle, hhistory, h.clock, h.read, nofun⟩
  | rest hphase =>
    have hhistory := h.history
    rw [history_of_ne (by simp [hphase])] at hhistory
    exact ⟨y, x, h.before, h.since, h.live, h.cycle, hhistory, h.clock, h.read, nofun⟩

/-- In the course of a loop with the standard cycle it is known what has come in. -/
theorem exists_takes {queues : Queues τ} {c : StandardCycle} {device : δ} {clock : Clock τ}
    (hcourse : Course p (start queues (.standard c) device clock) s) :
    ∃ y x, s.Takes p (.start c queues.receive clock) y x := by
  induction hcourse with
  | refl => exact ⟨_, _, takes_start queues c device clock⟩
  | tail _ hstep ih =>
    obtain ⟨y, x, hs⟩ := ih
    exact hs.step hstep

end LoopRun

/-! ## what comes of it -/

namespace Intake

variable {τ : Type} [Reading τ] {p : τ → Prop} {x y : Intake τ}

/-- Cycle and history are what feeding all bytes at once gives. -/
structure Framed (c : FramingConfig) (capacity : Nat) (x : Intake τ) : Prop where
  framer : x.cycle.framer = ((Framer.create c).feed x.read).2
  payloads : x.history.payloads = ((Framer.create c).feed x.read).1.rtake capacity
  capacity : x.history.capacity = capacity

omit [Reading τ] in
theorem framed_start (c : StandardCycle) (history : ReceiveQueue τ) (clock : Clock τ) :
    (start c history clock).Framed c.framer.config history.capacity where
  framer := rfl
  payloads := (List.rtake_nil _).symm
  capacity := rfl

variable {data : Bytes} {result : Except CycleFault Unit} {cycle : StandardCycle}
  {history : ReceiveQueue τ} {clock : Clock τ}

theorem Framed.read {c : FramingConfig} {capacity : Nat} (hc : c.Stable)
    (hfits : c.windowFits = true) (h : x.Framed c capacity)
    (habsorbs : x.cycle.Absorbs x.history x.clock data result cycle history clock) :
    Framed c capacity ⟨cycle, history, clock, x.read ++ data⟩ := by
  have hconfig : x.cycle.framer.config = c := by rw [h.framer, Framer.config_feed]; rfl
  cases habsorbs with
  | nothing =>
    rw [List.append_nil]
    exact ⟨h.framer, h.payloads, h.capacity⟩
  | frames =>
    have hfeed := Framer.feed_append (f := .create c) hc x.read data
    rw [← h.framer] at hfeed
    constructor
    · dsimp only
      rw [hfeed]
    · dsimp only
      rw [hfeed, ← h.capacity]
      exact ReceiveQueue.payloads_push _ _ (h.capacity ▸ h.payloads)
    · rw [ReceiveQueue.capacity_push, h.capacity]
  | refused _ hwindow =>
    rw [hconfig, hfits] at hwindow
    cases hwindow

theorem course_framed {c : StandardCycle} (hc : c.framer.config.Stable)
    (hfits : c.framer.config.windowFits = true) (hcourse : Course p (start c history clock) x) :
    x.Framed c.framer.config history.capacity := by
  induction hcourse with
  | refl => exact framed_start c history clock
  | tail _ hstep ih =>
    cases hstep with
    | read habsorbs => exact ih.read hc hfits habsorbs
    | clock => exact ⟨ih.framer, ih.payloads, ih.capacity⟩

/-- The frames are in order, and the clock goes on giving readings that satisfy `p`. -/
theorem course_inOrder (hp : Reading.Ordered p) {c : StandardCycle} (hclock : clock.All p)
    (hcourse : Course p (start c history clock) x) : x.history.InOrder p ∧ x.clock.All p := by
  induction hcourse with
  | refl => exact ⟨ReceiveQueue.inOrder_clear p history, hclock⟩
  | tail _ hstep ih =>
    obtain ⟨hhistory, hnow⟩ := ih
    cases hstep with
    | clock hset => exact ⟨hhistory, hset⟩
    | read habsorbs =>
      cases habsorbs with
      | nothing => exact ⟨hhistory, hnow⟩
      | frames => exact hhistory.push hp hnow _
      | refused => exact ⟨hhistory, hnow⟩

/-- What is received and what is carried over stands in the bytes read.  A cycle that cannot
count its window never carries anything over. -/
structure Sourced (x : Intake τ) : Prop where
  buffer : x.cycle.framer.buffer <:+ x.read
  payloads : ∀ payload ∈ x.history.payloads, payload <:+: x.read
  idle : x.cycle.framer.config.windowFits = false → x.cycle.framer.buffer = []

theorem Sourced.read (h : x.Sourced)
    (habsorbs : x.cycle.Absorbs x.history x.clock data result cycle history clock) :
    Sourced ⟨cycle, history, clock, x.read ++ data⟩ := by
  have hread : x.read <:+: x.read ++ data := (List.prefix_append _ _).isInfix
  cases habsorbs with
  | nothing =>
    rw [List.append_nil]
    exact ⟨h.buffer, h.payloads, h.idle⟩
  | frames _ hwindow =>
    have hsplits := x.cycle.framer.splits_feed data
    have hbuffer : x.cycle.framer.buffer ++ data <:+ x.read ++ data := by
      obtain ⟨front, hfront⟩ := h.buffer
      exact ⟨front, by rw [← List.append_assoc, hfront]⟩
    refine ⟨hsplits.suffix.trans hbuffer, fun payload hmem => ?_, fun hfalse => ?_⟩
    · cases ReceiveQueue.mem_payloads_push hmem with
      | inl hheld => exact (h.payloads payload hheld).trans hread
      | inr hframe => exact (hsplits.isInfix payload hframe).trans hbuffer.isInfix
    · rw [Framer.config_feed, hwindow] at hfalse
      cases hfalse
  | refused _ hwindow =>
    have hempty : x.cycle.framer.buffer = [] := h.idle hwindow
    refine ⟨hempty ▸ List.nil_suffix, fun payload hmem => ?_, fun _ => hempty⟩
    exact (h.payloads payload hmem).trans hread

theorem course_sourced {c : StandardCycle} (hcourse : Course p (start c history clock) x) :
    x.Sourced := by
  induction hcourse with
  | refl => exact ⟨List.nil_suffix, fun _ hmem => absurd hmem List.not_mem_nil, fun _ => rfl⟩
  | tail _ hstep ih =>
    cases hstep with
    | read habsorbs => exact ih.read habsorbs
    | clock => exact ⟨ih.buffer, ih.payloads, ih.idle⟩

/-- What was read stays read. -/
theorem read_prefix (hcourse : Course p x y) : x.read <+: y.read := by
  induction hcourse with
  | refl => exact List.prefix_refl _
  | tail _ hstep ih =>
    cases hstep with
    | read => exact ih.trans (List.prefix_append _ _)
    | clock => exact ih

end Intake

/-! ## what the live history holds -/

namespace LoopRun

variable {τ δ σ : Type} [Reading τ] [Transport δ] [CustomCycle τ δ σ] {p : τ → Prop}
  {queues : Queues τ} {c : StandardCycle} {device : δ} {clock : Clock τ} {s t : LoopRun τ δ σ}

/-- Whatever is received stands in the bytes read since the loop started. -/
theorem received_isInfix (hcourse : Course p (start queues (.standard c) device clock) s) :
    ∀ f ∈ s.queues.receive.toList, f.payload <:+: s.journal.record.read := by
  intro f hf
  obtain ⟨y, x, htakes⟩ := exists_takes hcourse
  have hsourced : y.Sourced := Intake.course_sourced htakes.before
  have hread : y.read <+: x.read := Intake.read_prefix htakes.since
  rw [htakes.live] at hf
  rw [htakes.read]
  exact (hsourced.payloads f.payload (List.mem_map_of_mem hf)).trans hread.isInfix

/-- The frames received are in order, and all timestamps are readings of the clock. -/
theorem received_inOrder (hp : Reading.Ordered p) (hclock : clock.All p)
    (hcourse : Course p (start queues (.standard c) device clock) s) :
    s.queues.receive.InOrder p := by
  obtain ⟨y, x, htakes⟩ := exists_takes hcourse
  rw [htakes.live]
  exact (Intake.course_inOrder hp hclock htakes.before).1

/-- Under a stable framing, the history holds the latest of the frames that one feeding of all
bytes read gives. -/
theorem received_framed (hstable : c.framer.config.Stable)
    (hfits : c.framer.config.windowFits = true)
    (hcourse : Course p (start queues (.standard c) device clock) s)
    (hphase : ∀ report, s.phase ≠ .worked report) :
    s.queues.receive.payloads =
      ((Framer.create c.framer.config).feed s.journal.record.read).1.rtake
        queues.receive.capacity := by
  obtain ⟨y, x, htakes⟩ := exists_takes hcourse
  have hframed := Intake.course_framed hstable hfits (htakes.before.trans htakes.since)
  have hlive : s.queues.receive = x.history := (history_of_ne hphase).symm.trans htakes.history
  rw [hlive, htakes.read]
  exact hframed.payloads

theorem record_read_prefix (hcourse : Course p s t) :
    s.journal.record.read <+: t.journal.record.read := by
  induction hcourse with
  | refl => exact List.prefix_refl _
  | tail _ hstep ih =>
    cases hstep with
    | work => exact ih.trans (List.prefix_append _ _)
    | _ => exact ih

end LoopRun

/-! ## however the bytes are divided -/

namespace LoopRun

variable {δ σ : Type} [Transport δ] [CustomCycle Float δ σ]

/-- With delimiter framing, the history holds the latest of the frames that one feeding of all
bytes read since the start of the loop gives, in the order of their timestamps.  Nothing is
asked of the device: it may give its bytes in any pieces, none at all, or fail. -/
theorem received_eq_feed {p : Float → Prop} {d : Bytes} {maxLength : Nat} {keep : Bool}
    (hd : d ≠ []) (hfits : maxLength + d.length < UInt64.size) {c : StandardCycle}
    (hframing : c.framer.config = .delimiter d maxLength keep) {queues : Queues Float}
    {device : δ} {clock : Clock Float} (hclock : clock.All p) {s : LoopRun Float δ σ}
    (hcourse : Course p (start queues (.standard c) device clock) s)
    {result : Except CycleFault Unit} (hphase : s.phase = .settled result) :
    s.queues.receive.payloads =
        ((Framer.create (.delimiter d maxLength keep)).feed s.journal.record.read).1.rtake
          queues.receive.capacity ∧
      ((∀ t, p t → t.isNaN = false) →
        s.queues.receive.toList.Pairwise fun f g => f.timestamp ≤ g.timestamp) := by
  have hstable : c.framer.config.Stable := hframing ▸ FramingConfig.stable_delimiter hd _ _
  have hwindow : c.framer.config.windowFits = true :=
    hframing ▸ FramingConfig.windowFits_delimiter keep hfits
  have hframed := received_framed hstable hwindow hcourse (by simp [hphase])
  rw [hframing] at hframed
  refine ⟨hframed, fun hnumbers => ?_⟩
  have hordered : Reading.Ordered p := Reading.ordered_float.mono hnumbers
  have hinOrder := received_inOrder hordered hclock hcourse
  exact hinOrder.sorted.imp fun hle => decide_eq_true_iff.mp hle

/-- Three runs of the cycle: the delimiter is split between two reads, a read in between finds
nothing, and the clock steps back. -/
theorem received_eq_feed_split :
    ∃ s : LoopRun Float Scripted SampleCycle,
      s.phase = .settled (.ok ()) ∧
      s.journal.record.read = [97, 13, 10, 98, 99, 100, 13, 10] ∧
      ((Framer.create (.delimiter [13, 10] 2 false)).feed s.journal.record.read).1 =
        [[97], [98, 99], [100]] ∧
      s.queues.receive.payloads = [[98, 99], [100]] ∧
      s.queues.receive.toList.Pairwise fun f g => f.timestamp ≤ g.timestamp := by
  have hclock : Clock.All (fun t : Float => t.isNaN = false) ⟨7.0, [7.0, 6.0, 8.0]⟩ :=
    ⟨by decide, by decide⟩
  have h₀ : Course (fun t : Float => t.isNaN = false)
      (start ⟨.empty, ⟨.empty, 2, 0⟩⟩ (.standard (.ofFraming (.delimiter [13, 10] 2 false)))
        (Scripted.ofAnswers []
          [.ok [97, 13], .error ⟨.wouldBlock, "nothing"⟩, .ok [10, 98, 99, 100, 13, 10]])
        ⟨7.0, [7.0, 6.0, 8.0]⟩ : LoopRun Float Scripted SampleCycle) _ := .refl
  have h₁ := ((h₀.tail (.copy _ rfl)).tail
    (.work _ rfl [] fun _ h => h.eq_take.symm)).tail (.settle _ rfl nofun)
  have h₂ := (((h₁.tail (.rest _ rfl)).tail (.copy _ rfl)).tail
    (.work _ rfl [] fun _ h => h.eq_take.symm)).tail (.settle _ rfl nofun)
  have h₃ := (((h₂.tail (.rest _ rfl)).tail (.copy _ rfl)).tail
    (.work _ rfl [] fun _ h => h.eq_take.symm)).tail (.settle _ rfl nofun)
  obtain ⟨hpayloads, hsorted⟩ := received_eq_feed (by decide) (by decide) rfl hclock h₃ rfl
  refine ⟨_, rfl, ?_, ?_, hpayloads.trans ?_, hsorted fun _ h => h⟩
  · decide +kernel
  · decide +kernel
  · decide +kernel

end LoopRun

end SerialLink
