import SerialLink.Cycle.Workspace

/-!
# SerialLink.Proofs.Outbound

Taking payloads from the send queue, one after the other.

1. `SendQueue.Pops` is the relation between a queue, the payloads popped from it and what is
   left.  Nothing is lost or reordered (`SendQueue.Pops.toList_eq`), and the queues determine
   the payloads (`SendQueue.Pops.eq_take`).
2. A cycle in the place of the standard one is `PopsOnly` if popping is all it does to its
   send queue.
-/

namespace SerialLink

namespace SendQueue

variable {q r : SendQueue} {payload : Bytes} {payloads : List Bytes}

/-! ## small changes -/

theorem toList_of_pop (h : q.pop = .ok (payload, r)) : q.toList = payload :: r.toList := by
  unfold pop at h
  rw [Fifo.head?_eq] at h
  cases hq : q.items.toList with
  | nil => rw [hq] at h; cases h
  | cons x xs =>
    rw [hq] at h
    obtain ⟨rfl, rfl⟩ := Prod.mk.inj (Except.ok.inj h)
    simp [toList, hq]

/-- A queue takes a payload unless it is full. -/
theorem size_lt_of_push? (h : q.push? payload = some r) : q.size < limit := by
  unfold push? at h
  split at h
  · assumption
  · cases h

/-- A queue keeps within the limit. -/
theorem size_push?_le (h : q.push? payload = some r) : r.size ≤ limit := by
  have hq := size_lt_of_push? h
  rw [size_eq_length] at hq ⊢
  rw [toList_push? h, List.length_append, List.length_singleton]
  omega

theorem size_discardFront_le (q : SendQueue) (n : Nat) : (q.discardFront n).size ≤ q.size := by
  rw [size_eq_length, size_eq_length, toList_discardFront, List.length_drop]
  omega

/-! ## payload by payload -/

/-- Popping these payloads, one after the other, leads from one queue to the other. -/
inductive Pops : SendQueue → List Bytes → SendQueue → Prop
  | done (q : SendQueue) : Pops q [] q
  | pop {q r s : SendQueue} {payload : Bytes} {payloads : List Bytes}
      (h : q.pop = .ok (payload, r)) (hr : Pops r payloads s) : Pops q (payload :: payloads) s

namespace Pops

/-- The payloads popped were the oldest ones, and the others are left as they were. -/
theorem toList_eq (h : Pops q payloads r) : q.toList = payloads ++ r.toList := by
  induction h with
  | done => rfl
  | pop hpop _ ih => rw [toList_of_pop hpop, ih, List.cons_append]

theorem size_eq (h : Pops q payloads r) : q.size = payloads.length + r.size := by
  rw [size_eq_length, size_eq_length, h.toList_eq, List.length_append]

/-- What was popped is what the queue lost. -/
theorem eq_take (h : Pops q payloads r) : payloads = q.toList.take (q.size - r.size) := by
  rw [h.size_eq, h.toList_eq, Nat.add_sub_cancel]
  exact List.take_left.symm

theorem drop (f : Fifo Bytes) : Pops ⟨f⟩ f.toList ⟨f.drop f.toList.length⟩ := by
  generalize hn : f.toList.length = n
  induction n generalizing f with
  | zero =>
    rw [List.eq_nil_of_length_eq_zero hn]
    exact done ⟨f⟩
  | succ n ih =>
    obtain ⟨payload, rest, heq⟩ := List.exists_cons_of_length_eq_add_one hn
    have hpop : SendQueue.pop ⟨f⟩ = .ok (payload, ⟨f.pop⟩) := by
      unfold SendQueue.pop
      rw [Fifo.head?_eq, heq]
      rfl
    have hrest : f.pop.toList = rest := by rw [Fifo.toList_pop, heq, List.tail_cons]
    rw [heq, ← hrest]
    exact pop hpop (ih f.pop (by rw [Fifo.toList_pop, List.length_tail, hn]; rfl))

/-- A queue whose payloads are all discarded was popped empty. -/
theorem discardFront (q : SendQueue) : Pops q q.toList (q.discardFront q.size) := by
  unfold SendQueue.discardFront
  rw [Nat.min_self, size_eq_length]
  exact drop q.items

end Pops

end SendQueue

/-! ## cycles that pop only -/

/-- Popping is all that the cycles in the place of the standard one do to their send queue,
also when they fail or break off. -/
def PopsOnly (τ δ σ : Type) [CustomCycle τ δ σ] : Prop :=
  ∀ (s : σ) (w : Workspace τ δ), ∃ payloads, w.send.Pops payloads (CustomCycle.run s w).2.2.send

end SerialLink
