import SerialLink.Cycle
import SerialLink.Proofs.Draining

/-!
# SerialLink.Proofs.Tap

A device that is listened to.

1. A `Tap` answers like the device behind it, and records every payload that was taken and
   every byte that was given.
2. The standard cycle does the same with a device that is listened to as with the device
   (`StandardCycle.run_untap`), so a run on a tap tells what a run moves
   (`LoopCycle.traffic`).
3. What the standard cycle writes is what it pops, and it frames what it reads, unless the
   window of its framing cannot be counted (`StandardCycle.run_traffic`).
-/

namespace SerialLink

/-! ## records -/

/-- What went to a device and what came from it. -/
@[ext] structure Record where
  written : List Bytes
  read : Bytes
  deriving DecidableEq

namespace Record

/-- Nothing. -/
def empty : Record := ⟨[], []⟩

instance : Append Record := ⟨fun r s => ⟨r.written ++ s.written, r.read ++ s.read⟩⟩

@[simp] theorem written_append (r s : Record) : (r ++ s).written = r.written ++ s.written := rfl

@[simp] theorem read_append (r s : Record) : (r ++ s).read = r.read ++ s.read := rfl

@[simp] theorem append_empty (r : Record) : r ++ empty = r :=
  Record.ext (List.append_nil _) (List.append_nil _)

@[simp] theorem empty_append (r : Record) : empty ++ r = r := rfl

theorem append_assoc (r s t : Record) : r ++ s ++ t = r ++ (s ++ t) :=
  Record.ext (List.append_assoc ..) (List.append_assoc ..)

end Record

/-- A device that is listened to. -/
structure Tap (δ : Type) where
  device : δ
  record : Record

instance {δ : Type} [Transport δ] : Transport (Tap δ) where
  write t payload :=
    match Transport.write t.device payload with
    | (.ok (), device) => (.ok (), ⟨device, t.record ++ ⟨[payload], []⟩⟩)
    | (.error e, device) => (.error e, ⟨device, t.record⟩)
  read t :=
    match Transport.read t.device with
    | (.ok data, device) => (.ok data, ⟨device, t.record ++ ⟨[], data⟩⟩)
    | (.error e, device) => (.error e, ⟨device, t.record⟩)

namespace Workspace

variable {τ δ : Type}

/-- Begins to listen to the device. -/
def tap (w : Workspace τ δ) : Workspace τ (Tap δ) :=
  ⟨⟨w.device, .empty⟩, w.send, w.receive, w.clock⟩

/-- Stops listening to the device. -/
def untap (w : Workspace τ (Tap δ)) : Workspace τ δ :=
  ⟨w.device.device, w.send, w.receive, w.clock⟩

@[simp] theorem untap_tap (w : Workspace τ δ) : w.tap.untap = w := rfl

end Workspace

section

variable {τ δ σ : Type} [Reading τ] [Transport δ]

/-- What a run of the standard cycle moves. -/
def StandardCycle.traffic (c : StandardCycle) (elapsed : List Duration) (w : Workspace τ δ) :
    Record :=
  (c.run elapsed w.tap).2.2.device.record

/-- What a run of a cycle moves; of a cycle in the place of the standard one it is not
known. -/
def LoopCycle.traffic (elapsed : List Duration) (w : Workspace τ δ) : LoopCycle σ → Record
  | .standard c => c.traffic elapsed w
  | .custom _ => .empty

end

/-! ## listening changes nothing -/

section

variable {δ : Type} [Transport δ]

/-- A device that is listened to answers a write as the device does, and records the payload if
that was taken. -/
theorem Tap.write_eq (t : Tap δ) (payload : Bytes) :
    Transport.write t payload =
      ((Transport.write t.device payload).1, ⟨(Transport.write t.device payload).2,
        match (Transport.write t.device payload).1 with
        | .ok () => t.record ++ ⟨[payload], []⟩
        | .error _ => t.record⟩) := by
  simp only [Transport.write]
  cases Transport.write t.device payload with
  | mk answer device => cases answer <;> rfl

/-- It answers a read as the device does, and records the bytes given. -/
theorem Tap.read_eq (t : Tap δ) :
    Transport.read t =
      ((Transport.read t.device).1, ⟨(Transport.read t.device).2,
        match (Transport.read t.device).1 with
        | .ok data => t.record ++ ⟨[], data⟩
        | .error _ => t.record⟩) := by
  simp only [Transport.read]
  cases Transport.read t.device with
  | mk answer device => cases answer <;> rfl

/-- What draining came to, without the record. -/
def Drained.untap (d : Drained (Tap δ)) : Drained δ := ⟨d.result, d.send, d.device.device⟩

theorem Tap.shows : Transport.Shows (Tap.device : Tap δ → δ) := fun t payload => by
  rw [Tap.write_eq]

theorem drain_untap (budget : Duration) (elapsed : List Duration) (send : SendQueue)
    (t : Tap δ) :
    (drain budget elapsed send t).untap = drain budget elapsed send t.device :=
  (drain_map Tap.shows budget elapsed send t).symm

end

namespace StandardCycle

variable {τ δ : Type} [Transport δ] {c : StandardCycle} {elapsed : List Duration}

theorem drain_untap (c : StandardCycle) (elapsed : List Duration) (w : Workspace τ (Tap δ)) :
    c.drain elapsed w.untap = ((c.drain elapsed w).1, (c.drain elapsed w).2.untap) := by
  have h : SerialLink.drain c.drainBudget elapsed w.send w.device.device =
      (SerialLink.drain c.drainBudget elapsed w.send w.device).untap :=
    (SerialLink.drain_untap ..).symm
  simp only [drain, Workspace.untap, h]
  rfl

variable [Reading τ]

theorem fill_untap (c : StandardCycle) (w : Workspace τ (Tap δ)) :
    c.fill w.untap = ((c.fill w).1, (c.fill w).2.1, (c.fill w).2.2.untap) := by
  unfold fill Workspace.untap
  rw [Tap.read_eq]
  cases Transport.read w.device.device with
  | mk answer device =>
    cases answer with
    | error e => rfl
    | ok data =>
      cases data with
      | nil => rfl
      | cons b data =>
        dsimp only
        split <;> rfl

/-- Listening to the device changes nothing. -/
theorem run_untap (c : StandardCycle) (elapsed : List Duration) (w : Workspace τ (Tap δ)) :
    c.run elapsed w.untap = ((c.run elapsed w).1, (c.run elapsed w).2.1,
      (c.run elapsed w).2.2.untap) := by
  unfold run
  rw [drain_untap]
  cases c.drain elapsed w with
  | mk answer w' =>
    cases answer with
    | error e => rfl
    | ok =>
      dsimp only
      rw [fill_untap]

end StandardCycle

/-! ## what is written -/

section

variable {δ : Type} [Transport δ]

theorem Transport.Takes.record_eq {t u : Tap δ} {payloads : List Bytes}
    (h : Transport.Takes t payloads u) : u.record = t.record ++ ⟨payloads, []⟩ := by
  induction h with
  | nothing t => exact t.record.append_empty.symm
  | take hwrite _ ih =>
    rw [Tap.write_eq] at hwrite
    obtain ⟨hanswer, rfl⟩ := Prod.mk.inj hwrite
    rw [ih, hanswer, Record.append_assoc]
    rfl

/-- How draining ends is not recorded. -/
theorem Ending.record_eq {budget : Duration} {elapsed : List Duration} {n : Nat} {t : Tap δ}
    {d : Drained (Tap δ)} (h : Ending budget elapsed n t d) : d.device.record = t.record := by
  cases h with
  | emptied => rfl
  | spent => rfl
  | refused _ _ hwrite =>
    rw [Tap.write_eq] at hwrite
    obtain ⟨hanswer, rfl⟩ := Prod.mk.inj hwrite
    rw [hanswer]

/-- Draining writes what it pops. -/
theorem drain_pops (budget : Duration) (elapsed : List Duration) (send : SendQueue)
    (t : Tap δ) :
    ∃ payloads, send.Pops payloads (drain budget elapsed send t).send ∧
      (drain budget elapsed send t).device.record = t.record ++ ⟨payloads, []⟩ := by
  obtain ⟨payloads, u, hpops, htakes, -, hending⟩ := drain_cases budget elapsed send t
  exact ⟨payloads, hpops, hending.record_eq.trans htakes.record_eq⟩

end

namespace StandardCycle

variable {τ δ : Type} [Transport δ] {c : StandardCycle} {elapsed : List Duration}

theorem drain_pops (c : StandardCycle) (elapsed : List Duration) (w : Workspace τ (Tap δ)) :
    ∃ payloads, w.send.Pops payloads (c.drain elapsed w).2.send ∧
      (c.drain elapsed w).2.device.record = w.device.record ++ ⟨payloads, []⟩ :=
  SerialLink.drain_pops ..

/-! ## what is read -/

variable [Reading τ]

/-- What comes of the bytes that a run reads, for the answer of the run, the cycle, the
history and the clock. -/
inductive Absorbs (c : StandardCycle) (history : ReceiveQueue τ) (clock : Clock τ) :
    Bytes → Except CycleFault Unit → StandardCycle → ReceiveQueue τ → Clock τ → Prop
  /-- There are none. -/
  | nothing (result : Except CycleFault Unit) : Absorbs c history clock [] result c history clock
  /-- They are framed, and the frames arrive. -/
  | frames (data : Bytes) (h : c.framer.config.windowFits = true) :
    Absorbs c history clock data (.ok ()) { c with framer := (c.framer.feed data).2 }
      (history.push clock (c.framer.feed data).1).1 (history.push clock (c.framer.feed data).1).2
  /-- The window of the framing cannot be counted, and the cycle breaks off. -/
  | refused (data : Bytes) (h : c.framer.config.windowFits = false) :
    Absorbs c history clock data (.error .aborted) c history clock

theorem fill_absorbs (c : StandardCycle) (w : Workspace τ (Tap δ)) :
    ∃ data, (c.fill w).2.2.device.record = w.device.record ++ ⟨[], data⟩ ∧
      Absorbs c w.receive w.clock data ((c.fill w).1.map fun _ => ()) (c.fill w).2.1
        (c.fill w).2.2.receive (c.fill w).2.2.clock := by
  unfold fill
  rw [Tap.read_eq]
  cases Transport.read w.device.device with
  | mk answer device =>
    cases answer with
    | error e => exact ⟨[], w.device.record.append_empty.symm, .nothing _⟩
    | ok data =>
      cases data with
      | nil => exact ⟨[], rfl, .nothing _⟩
      | cons b data =>
        refine ⟨b :: data, ?_, ?_⟩
        · dsimp only
          split <;> rfl
        · dsimp only
          split
          next h => exact .frames (b :: data) h
          next h => exact .refused (b :: data) (Bool.eq_false_iff.mpr h)

theorem send_fill (c : StandardCycle) (w : Workspace τ δ) : (c.fill w).2.2.send = w.send := by
  unfold fill
  cases Transport.read w.device with
  | mk answer device =>
    cases answer with
    | error e => rfl
    | ok data =>
      cases data with
      | nil => rfl
      | cons b data =>
        dsimp only
        split <;> rfl

/-- A run on a device that is listened to: what it writes it popped, and what it reads it
frames. -/
theorem run_tapped (c : StandardCycle) (elapsed : List Duration) (w : Workspace τ (Tap δ)) :
    ∃ traffic, (c.run elapsed w).2.2.device.record = w.device.record ++ traffic ∧
      w.send.Pops traffic.written (c.run elapsed w).2.2.send ∧
      Absorbs c w.receive w.clock traffic.read (c.run elapsed w).1 (c.run elapsed w).2.1
        (c.run elapsed w).2.2.receive (c.run elapsed w).2.2.clock := by
  obtain ⟨payloads, hpops, hwritten⟩ := c.drain_pops elapsed w
  have hreceive : (c.drain elapsed w).2.receive = w.receive := rfl
  have hclock : (c.drain elapsed w).2.clock = w.clock := rfl
  unfold run
  cases hd : c.drain elapsed w with
  | mk answer w' =>
    rw [hd] at hpops hwritten hreceive hclock
    cases answer with
    | error e =>
      refine ⟨⟨payloads, []⟩, hwritten, hpops, ?_⟩
      rw [hreceive, hclock]
      exact .nothing _
    | ok n =>
      obtain ⟨data, hread, habsorbs⟩ := c.fill_absorbs w'
      refine ⟨⟨payloads, data⟩, ?_, ?_, ?_⟩
      · rw [hread, hwritten, Record.append_assoc]
        congr 1
        exact Record.ext (List.append_nil _) rfl
      · rw [send_fill]
        exact hpops
      · rw [← hreceive, ← hclock]
        exact habsorbs

/-- What a run moves: it writes what it pops, and it frames what it reads. -/
theorem run_traffic (c : StandardCycle) (elapsed : List Duration) (w : Workspace τ δ) :
    w.send.Pops (c.traffic elapsed w).written (c.run elapsed w).2.2.send ∧
      Absorbs c w.receive w.clock (c.traffic elapsed w).read (c.run elapsed w).1
        (c.run elapsed w).2.1 (c.run elapsed w).2.2.receive (c.run elapsed w).2.2.clock := by
  obtain ⟨traffic, hrecord, hpops, habsorbs⟩ := c.run_tapped elapsed w.tap
  have htraffic : c.traffic elapsed w = traffic := hrecord.trans traffic.empty_append
  have hrun := c.run_untap elapsed w.tap
  rw [Workspace.untap_tap] at hrun
  rw [htraffic, hrun]
  exact ⟨hpops, habsorbs⟩

end StandardCycle

/-- Every cycle only pops, if those in the place of the standard one do. -/
theorem LoopCycle.run_pops {τ δ σ : Type} [Reading τ] [Transport δ] [CustomCycle τ δ σ]
    (hp : PopsOnly τ δ σ) (cycle : LoopCycle σ) (elapsed : List Duration) (w : Workspace τ δ) :
    ∃ payloads, w.send.Pops payloads (cycle.run elapsed w).2.2.send := by
  cases cycle with
  | standard c => exact ⟨_, (c.run_traffic elapsed w).1⟩
  | custom s => exact hp s w

end SerialLink
