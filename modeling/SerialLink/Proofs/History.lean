import Mathlib.Data.List.DropRight
import SerialLink.Proofs.Readings
import SerialLink.Queue.Receive

/-!
# SerialLink.Proofs.History

What the history of received frames holds.

1. Its payloads are the latest of all that ever arrived, as many as it has room for
   (`ReceiveQueue.payloads_push`).
2. Its frames stay in the order of their timestamps, even if the clock steps back
   (`ReceiveQueue.InOrder.push`).  For this the readings must be ordered.
3. Without a mark all frames count as later, if no timestamp is the lowest reading
   (`ReceiveQueue.countAfter_none`).
-/

namespace SerialLink

/-! ## the end of a list -/

/-- What was cut off from the front does not matter for the end of a longer list. -/
theorem rtake_append_rtake {α : Type} (xs ys : List α) (n : Nat) :
    (xs.rtake n ++ ys).rtake n = (xs ++ ys).rtake n := by
  have hlen : (xs.drop (xs.length - n)).length = min n xs.length := by
    rw [List.length_drop]
    omega
  unfold List.rtake
  rw [List.length_append, List.length_append, hlen, List.drop_append, List.drop_append,
    List.drop_drop, hlen]
  congr 2 <;> omega

namespace ReceiveQueue

variable {τ : Type}

/-- The payloads of the frames, oldest first. -/
def payloads (q : ReceiveQueue τ) : List Bytes := q.toList.map Frame.payload

variable [Reading τ]

/-! ## what is kept -/

theorem payloads_pushAt (q : ReceiveQueue τ) (now : τ) (payload : Bytes) :
    (q.pushAt now payload).payloads = (q.payloads ++ [payload]).rtake q.capacity := by
  unfold payloads List.rtake
  rw [toList_pushAt, List.map_drop, List.map_append, List.length_append, List.length_map,
    size_eq_length]
  rfl

@[simp] theorem capacity_push (q : ReceiveQueue τ) (clock : Clock τ) (batch : List Bytes) :
    (q.push clock batch).1.capacity = q.capacity := by
  induction batch generalizing q clock with
  | nil => rfl
  | cons payload batch ih => exact ih _ _

/-- The history holds the latest of all payloads that ever arrived. -/
theorem payloads_push {q : ReceiveQueue τ} {all : List Bytes} (clock : Clock τ)
    (batch : List Bytes) (h : q.payloads = all.rtake q.capacity) :
    (q.push clock batch).1.payloads = (all ++ batch).rtake q.capacity := by
  induction batch generalizing q clock all with
  | nil => rw [List.append_nil]; exact h
  | cons payload batch ih =>
    have hone : (q.pushAt clock.read.1 payload).payloads = (all ++ [payload]).rtake q.capacity := by
      rw [payloads_pushAt, h, rtake_append_rtake]
    rw [List.append_cons]
    exact ih clock.read.2 hone

/-- Whatever the history holds was there before or has just arrived. -/
theorem mem_payloads_push {q : ReceiveQueue τ} {clock : Clock τ} {batch : List Bytes}
    {payload : Bytes} (h : payload ∈ (q.push clock batch).1.payloads) :
    payload ∈ q.payloads ∨ payload ∈ batch := by
  induction batch generalizing q clock with
  | nil => exact .inl h
  | cons first batch ih =>
    cases ih (q := q.pushAt clock.read.1 first) h with
    | inl hheld =>
      rw [payloads_pushAt] at hheld
      have hmem : payload ∈ q.payloads ++ [first] := List.mem_of_mem_drop hheld
      rw [List.mem_append, List.mem_singleton] at hmem
      exact hmem.imp_right fun heq => List.mem_cons.mpr (.inl heq)
    | inr hmem => exact .inr (List.mem_cons_of_mem first hmem)

/-! ## in which order -/

/-- The frames are in the order of their timestamps, which all satisfy `p`. -/
structure InOrder (p : τ → Prop) (q : ReceiveQueue τ) : Prop where
  readings : ∀ f ∈ q.toList, p f.timestamp
  sorted : q.toList.Pairwise fun f g => Reading.le f.timestamp g.timestamp = true

theorem InOrder.of_nil {p : τ → Prop} {q : ReceiveQueue τ} (hempty : q.toList = []) :
    q.InOrder p :=
  ⟨by simp [hempty], by simp [hempty]⟩

theorem inOrder_clear (p : τ → Prop) (q : ReceiveQueue τ) : q.clear.InOrder p :=
  .of_nil q.toList_clear

variable {p : τ → Prop} {q : ReceiveQueue τ} {now : τ}

omit [Reading τ] in
theorem latest?_eq (q : ReceiveQueue τ) : q.latest? = q.toList.getLast? := q.frames.last?_eq

/-- A timestamp satisfies what the readings of the clock and the timestamps held satisfy. -/
theorem InOrder.stamp (h : q.InOrder p) (hnow : p now) : p (q.stamp now) := by
  unfold ReceiveQueue.stamp
  cases hlast : q.latest? with
  | none => exact hnow
  | some f =>
    rw [latest?_eq] at hlast
    dsimp only
    split
    · exact h.readings f (List.mem_of_getLast? hlast)
    · exact hnow

/-- A frame that arrives is at or after all frames held. -/
theorem InOrder.le_stamp (hp : Reading.Ordered p) (h : q.InOrder p) (hnow : p now) :
    ∀ f ∈ q.toList, Reading.le f.timestamp (q.stamp now) = true := by
  intro f hf
  obtain ⟨front, last, heq⟩ :=
    (List.eq_nil_or_concat q.toList).resolve_left (List.ne_nil_of_mem hf)
  rw [List.concat_eq_append] at heq
  have hlast : q.latest? = some last := by rw [latest?_eq, heq, List.getLast?_concat]
  have hmem : last ∈ q.toList := by rw [heq]; simp
  have hle : Reading.le f.timestamp last.timestamp = true := by
    have hsorted := h.sorted
    rw [heq] at hf hsorted
    rcases List.mem_append.mp hf with hfront | hf
    · exact (List.pairwise_append.mp hsorted).2.2 f hfront last (List.mem_singleton_self last)
    · rw [List.mem_singleton.mp hf]
      exact hp.le_refl (h.readings last hmem)
  unfold ReceiveQueue.stamp
  rw [hlast]
  dsimp only
  split
  · exact hle
  next hlt =>
    exact hp.le_trans (h.readings f (by assumption)) (h.readings last hmem) hnow hle
      (hp.le_of_not_lt hnow (h.readings last hmem) hlt)

theorem InOrder.pushAt (hp : Reading.Ordered p) (h : q.InOrder p) (hnow : p now)
    (payload : Bytes) : (q.pushAt now payload).InOrder p := by
  have hreadings : ∀ f ∈ q.toList ++ [Frame.mk (q.stamp now) payload], p f.timestamp := by
    intro f hf
    rcases List.mem_append.mp hf with hf | hf
    · exact h.readings f hf
    · rw [List.mem_singleton.mp hf]
      exact h.stamp hnow
  have hsorted : (q.toList ++ [Frame.mk (q.stamp now) payload]).Pairwise
      fun f g => Reading.le f.timestamp g.timestamp = true := by
    refine List.pairwise_append.mpr ⟨h.sorted, List.pairwise_singleton _ _, ?_⟩
    intro f hf g hg
    rw [List.mem_singleton.mp hg]
    exact h.le_stamp hp hnow f hf
  constructor
  · rw [toList_pushAt]
    exact fun f hf => hreadings f (List.mem_of_mem_drop hf)
  · rw [toList_pushAt]
    exact hsorted.drop

/-- The frames stay in order, and the clock goes on giving readings that satisfy `p`. -/
theorem InOrder.push (hp : Reading.Ordered p) (h : q.InOrder p) {clock : Clock τ}
    (hclock : clock.All p) (batch : List Bytes) :
    (q.push clock batch).1.InOrder p ∧ (q.push clock batch).2.All p := by
  induction batch generalizing q clock with
  | nil => exact ⟨h, hclock⟩
  | cons payload batch ih =>
    obtain ⟨hnow, hrest⟩ := hclock.read
    exact ih (h.pushAt hp hnow payload) hrest

end ReceiveQueue

/-! ## how many are later -/

/-- No element satisfies the test, so there is none at the front. -/
theorem bisect_eq_zero {α : Type} {p : α → Bool} {xs : List α} (h : ∀ x ∈ xs, p x = false) :
    bisect p xs = 0 := by
  fun_induction bisect p xs with
  | case1 => rfl
  | case2 x hx => exact absurd hx (by rw [h x (List.mem_singleton_self x)]; decide)
  | case3 => rfl
  | case4 => rfl
  | case5 a b rest half x ys hdrop hx =>
    have hmem : x ∈ a :: b :: rest := List.mem_of_mem_drop (hdrop ▸ List.mem_cons_self)
    rw [h x hmem] at hx
    exact absurd hx Bool.false_ne_true
  | case6 a b rest half x ys hdrop hx ih =>
    exact ih fun y hy => h y (List.mem_of_mem_take hy)

/-- Without a mark all frames count, if no timestamp is the lowest reading. -/
theorem ReceiveQueue.countAfter_none {τ : Type} [Reading τ] {q : ReceiveQueue τ}
    (h : ∀ f ∈ q.toList, Reading.isLowest f.timestamp = false) : q.countAfter none = q.size := by
  unfold countAfter positionWhere
  dsimp only
  rw [bisect_eq_zero h, Nat.sub_zero]

end SerialLink
