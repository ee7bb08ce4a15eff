import SerialLink.Cycle
import SerialLink.Proofs.Draining

/-!
# SerialLink.Proofs.Usage

What cycles do with a device.

1. A device is used by offering payloads to it and by reading from it (`Transport.Used`).
   What neither of the two changes, use does not change (`Transport.Used.keeps`).
2. The standard cycle does nothing else with its device (`StandardCycle.used_run`).
-/

namespace SerialLink

variable {τ δ : Type} [Transport δ]

/-! ## use -/

/-- The second device is what became of the first by writing to it and reading from it. -/
inductive Transport.Used (d : δ) : δ → Prop
  | unused : Used d d
  | write {e : δ} (h : Used d e) (payload : Bytes) : Used d (Transport.write e payload).2
  | read {e : δ} (h : Used d e) : Used d (Transport.read e).2

namespace Transport.Used

variable {c d e : δ}

theorem trans (h : Used c d) (h' : Used d e) : Used c e := by
  induction h' with
  | unused => exact h
  | write _ payload ih => exact ih.write payload
  | read _ ih => exact ih.read

theorem of_write {payload : Bytes} {result : Except IoError Unit}
    (h : Transport.write d payload = (result, e)) : Used d e := by
  have hused := Used.unused.write (d := d) payload
  rwa [h] at hused

theorem of_read {result : Except IoError Bytes} (h : Transport.read d = (result, e)) :
    Used d e := by
  have hused := Used.unused.read (d := d)
  rwa [h] at hused

/-- Use keeps whatever writes and reads keep. -/
theorem keeps {α : Type} {f : δ → α} (hwrite : ∀ d payload, f (Transport.write d payload).2 = f d)
    (hread : ∀ d, f (Transport.read d).2 = f d) (h : Used d e) : f e = f d := by
  induction h with
  | unused => rfl
  | write _ payload ih => rw [hwrite, ih]
  | read _ ih => rw [hread, ih]

end Transport.Used

open Transport (Used)

/-! ## the standard cycle -/

theorem Transport.Takes.used {d e : δ} {payloads : List Bytes}
    (h : Transport.Takes d payloads e) : Used d e := by
  induction h with
  | nothing => exact .unused
  | take hwrite _ ih => exact (Used.of_write hwrite).trans ih

theorem Ending.used {budget : Duration} {elapsed : List Duration} {n : Nat} {device : δ}
    {d : Drained δ} (h : Ending budget elapsed n device d) : Used device d.device := by
  cases h with
  | emptied => exact .unused
  | spent => exact .unused
  | refused _ _ hwrite => exact .of_write hwrite

theorem drain_used (budget : Duration) (elapsed : List Duration) (send : SendQueue)
    (device : δ) : Used device (drain budget elapsed send device).device := by
  obtain ⟨_, _, -, htakes, -, hending⟩ := drain_cases budget elapsed send device
  exact htakes.used.trans hending.used

variable [Reading τ]

theorem StandardCycle.used_fill (c : StandardCycle) (w : Workspace τ δ) :
    Used w.device (c.fill w).2.2.device := by
  unfold fill
  cases hread : Transport.read w.device with
  | mk result device =>
    have hused : Used w.device device := .of_read hread
    match result with
    | .error e => exact hused
    | .ok [] => exact hused
    | .ok (b :: data) =>
      dsimp only
      split <;> exact hused

/-- The standard cycle writes to its device and reads from it, and no more. -/
theorem StandardCycle.used_run (c : StandardCycle) (elapsed : List Duration) (w : Workspace τ δ) :
    Used w.device (c.run elapsed w).2.2.device := by
  have hdrain : Used w.device (c.drain elapsed w).2.device := drain_used ..
  unfold run
  cases hresult : c.drain elapsed w with
  | mk result drained =>
    rw [hresult] at hdrain
    cases result with
    | error e => exact hdrain
    | ok n => exact hdrain.trans (c.used_fill drained)

end SerialLink
