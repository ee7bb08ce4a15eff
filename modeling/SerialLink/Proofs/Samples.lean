import SerialLink.Cycle.Samples
import SerialLink.Proofs.History.Later
import SerialLink.Proofs.Usage

/-!
# SerialLink.Proofs.Samples

What the sample cycles do with their workspace.

1. They pop payloads, push payloads into the history and use the device, one after the other
   (`Workspace.Handled`, `SampleCycle.run_handled`).
2. So popping is all that they do to their send queue (`SampleCycle.popsOnly`), pushing all that
   they do to the history (`Workspace.Handled.pushAll`), and writing and reading all that they do
   with their device (`SampleCycle.used_run`).
-/

namespace SerialLink

open Transport (Used)

variable {τ δ : Type} [Reading τ] [Transport δ]

/-- The second workspace is what became of the first by popping, pushing and using the device. -/
inductive Workspace.Handled : Workspace τ δ → Workspace τ δ → Prop
  | done (w : Workspace τ δ) : Handled w w
  | pop {w v : Workspace τ δ} {payload : Bytes} {rest : SendQueue}
      (hpop : w.send.pop = .ok (payload, rest)) (h : Handled { w with send := rest } v) :
    Handled w v
  | push {w v : Workspace τ δ} (payloads : List Bytes)
      (h : Handled { w with receive := (w.receive.push w.clock payloads).1
                            clock := (w.receive.push w.clock payloads).2 } v) :
    Handled w v
  | use {w v : Workspace τ δ} {device : δ} (hused : Used w.device device)
      (h : Handled { w with device := device } v) : Handled w v

namespace Workspace.Handled

variable {u v w : Workspace τ δ}

theorem trans (h : Handled u v) (h' : Handled v w) : Handled u w := by
  induction h with
  | done => exact h'
  | pop hpop _ ih => exact .pop hpop (ih h')
  | push payloads _ ih => exact .push payloads (ih h')
  | use hused _ ih => exact .use hused (ih h')

theorem of_pops {payloads : List Bytes} {rest : SendQueue} (hpops : w.send.Pops payloads rest) :
    Handled w { w with send := rest } := by
  generalize hsend : w.send = q at hpops
  induction hpops generalizing w with
  | done => exact hsend ▸ .done w
  | @pop q r s payload payloads hpop _ ih =>
    have hhead : w.send.pop = .ok (payload, r) := hsend ▸ hpop
    exact .pop hhead (ih (w := { w with send := r }) rfl)

theorem of_write {payload : Bytes} {result : Except IoError Unit} {device : δ}
    (h : Transport.write w.device payload = (result, device)) :
    Handled w { w with device := device } :=
  .use (.of_write h) (.done _)

theorem of_read {result : Except IoError Bytes} {device : δ}
    (h : Transport.read w.device = (result, device)) : Handled w { w with device := device } :=
  .use (.of_read h) (.done _)

theorem pops (h : Handled w v) : ∃ payloads, w.send.Pops payloads v.send := by
  induction h with
  | done w => exact ⟨[], .done _⟩
  | pop hpop _ ih =>
    obtain ⟨payloads, hpops⟩ := ih
    exact ⟨_, .pop hpop hpops⟩
  | push _ _ ih => exact ih
  | use _ _ ih => exact ih

theorem pushAll (h : Handled w v) : ∃ arrivals, v.receive = w.receive.pushAll arrivals := by
  induction h with
  | done w => exact ⟨[], rfl⟩
  | pop _ _ ih => exact ih
  | @push w v payloads _ ih =>
    obtain ⟨arrivals, hpush⟩ := w.receive.push_eq_pushAll w.clock payloads
    obtain ⟨more, hmore⟩ := ih
    exact ⟨arrivals ++ more, by rw [ReceiveQueue.pushAll_append, ← hpush]; exact hmore⟩
  | use _ _ ih => exact ih

theorem used (h : Handled w v) : Used w.device v.device := by
  induction h with
  | done => exact .unused
  | pop _ _ ih => exact ih
  | push _ _ ih => exact ih
  | use hused _ ih => exact hused.trans ih

end Workspace.Handled

open Workspace (Handled)

namespace SampleCycle

theorem received_handled (w : Workspace τ δ) (payload : Bytes) : Handled w (received w payload) :=
  .push [payload] (.done _)

theorem writeAll_handled (fuel : Nat) (w : Workspace τ δ) : Handled w (writeAll fuel w).2 := by
  induction fuel generalizing w with
  | zero => exact .done w
  | succ fuel ih =>
    unfold writeAll
    cases hpop : w.send.pop with
    | error => exact .done w
    | ok popped =>
      refine .pop hpop ?_
      dsimp only
      split
      next hwrite => exact (Handled.of_write (w := { w with send := popped.2 }) hwrite).trans (ih _)
      next hwrite => exact .of_write (w := { w with send := popped.2 }) hwrite

theorem runUpper_handled (w : Workspace τ δ) : Handled w (runUpper w).2 := by
  have hwrite := writeAll_handled w.send.size w
  unfold runUpper
  cases hwritten : writeAll w.send.size w with
  | mk result written =>
    rw [hwritten] at hwrite
    refine hwrite.trans ?_
    cases result with
    | error e => exact .done written
    | ok =>
      dsimp only
      split
      next hread => exact .of_read hread
      next hread =>
        refine (Handled.of_read hread).trans ?_
        dsimp only
        split
        · exact .done _
        · exact received_handled _ _

theorem runFragile_handled (w : Workspace τ δ) : Handled w (runFragile w).2 := by
  unfold runFragile
  cases hpop : w.send.pop with
  | error => exact .done w
  | ok popped =>
    refine .pop hpop ?_
    dsimp only
    split
    · exact .done _
    · split
      · exact .done _
      · -- from here on the payload counts as sent, whatever comes of it
        refine .push [Text.Utf8.bytes "sent"] ?_
        split
        · exact .done _
        · split
          next hwrite => exact .of_write hwrite
          next hwrite => exact .of_write hwrite

/-- The sample cycles pop, push and use their device, and no more. -/
theorem run_handled (s : SampleCycle) (w : Workspace τ δ) :
    Handled w (CustomCycle.run s w).2.2 := by
  cases s with
  | upper => exact runUpper_handled w
  | loopback => exact .push w.send.toList (.of_pops (.discardFront w.send))
  | counter n => exact received_handled w _
  | fragile => exact runFragile_handled w

theorem popsOnly : PopsOnly τ δ SampleCycle := fun s w => (s.run_handled w).pops

theorem used_run (s : SampleCycle) (w : Workspace τ δ) :
    Used w.device (CustomCycle.run s w).2.2.device :=
  (s.run_handled w).used

end SampleCycle

end SerialLink
