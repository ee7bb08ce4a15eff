import SerialLink.Proofs.History

/-!
# SerialLink.Proofs.History.Later

Which frames of the history are later than a point in time, and which have just arrived.

1. Bisection finds the end of the front that satisfies a test, if no element satisfies it that
   stands behind one that does not (`bisect_eq_length_takeWhile`).
2. So the search by time finds all frames that are later and no others
   (`ReceiveQueue.mem_framesAfter`), the first of them (`ReceiveQueue.findAfter?_eq`) and its
   position (`ReceiveQueue.positionAfter_eq`), as long as the frames are in order.
3. A history that grows holds what it held, less what was evicted, and what has arrived since
   (`ReceiveQueue.mem_pushAll`).
-/

namespace SerialLink

/-! ## bisection -/

section

variable {α : Type} {p : α → Bool}

/-- The front that satisfies a test ends where an element does not. -/
theorem takeWhile_append_of_neg {x : α} (hx : p x = false) (front back : List α) :
    (front ++ x :: back).takeWhile p = front.takeWhile p := by
  induction front with
  | nil => exact List.takeWhile_cons_of_neg (Bool.eq_false_iff.mp hx)
  | cons y front ih => rw [List.cons_append, List.takeWhile_cons, List.takeWhile_cons, ih]

/-- Bisection finds the end of the front that satisfies the test. -/
theorem bisect_eq_length_takeWhile {xs : List α}
    (h : xs.Pairwise fun x y => p y = true → p x = true) :
    bisect p xs = (xs.takeWhile p).length := by
  fun_induction bisect p xs with
  | case1 => rfl
  | case2 x hx => rw [List.takeWhile_cons_of_pos hx]; rfl
  | case3 x hx => rw [List.takeWhile_cons_of_neg hx]; rfl
  | case4 a b rest half hdrop =>
    have hlen := congrArg List.length hdrop
    rw [List.length_drop, List.length_cons, List.length_cons, List.length_nil] at hlen
    omega
  | case5 a b rest half x ys hdrop hx ih =>
    have hsplit := List.take_append_drop half (a :: b :: rest)
    rw [← hsplit] at h
    obtain ⟨-, hback, hcross⟩ := List.pairwise_append.mp h
    have hfront : ∀ y ∈ (a :: b :: rest).take half, p y = true := fun y hy =>
      hcross y hy x (hdrop ▸ List.mem_cons_self) hx
    have hhalf : ((a :: b :: rest).take half).length = half := by
      rw [List.length_take, List.length_cons, List.length_cons]
      omega
    conv => rhs; rw [← hsplit, List.takeWhile_append_of_pos hfront]
    rw [List.length_append, hhalf, ih hback]
  | case6 a b rest half x ys hdrop hx ih =>
    have hsplit : a :: b :: rest = (a :: b :: rest).take half ++ x :: ys := by
      rw [← hdrop, List.take_append_drop]
    have hhalf : ((a :: b :: rest).take half).length = half := by
      rw [List.length_take, List.length_cons, List.length_cons]
      omega
    have hcut : (a :: b :: rest).take (rest.length + 2 - half) = (a :: b :: rest).take half ++
        (x :: ys).take (rest.length + 2 - half - half) := by
      conv => lhs; rw [hsplit]
      rw [List.take_append, hhalf, List.take_of_length_le (by rw [hhalf]; omega)]
    rw [ih (h.sublist (List.take_sublist _ _)), hcut]
    conv => rhs; rw [hsplit]
    have hneg : p x = false := Bool.eq_false_iff.mpr hx
    rw [takeWhile_append_of_neg hneg]
    cases hrest : rest.length + 2 - half - half with
    | zero => rw [List.take_zero, List.append_nil]
    | succ n => rw [List.take_succ_cons, takeWhile_append_of_neg hneg]

/-- Bisection finds the first element that does not satisfy the test. -/
theorem bisect_eq_findIdx {xs : List α} (h : xs.Pairwise fun x y => p y = true → p x = true) :
    bisect p xs = xs.findIdx fun x => !p x := by
  rw [bisect_eq_length_takeWhile h, List.takeWhile_eq_take_findIdx_not, List.length_take,
    Nat.min_eq_left List.findIdx_le_length]

/-- Behind the front that satisfies a test, the elements are those that do not. -/
theorem drop_bisect {xs : List α} (h : xs.Pairwise fun x y => p y = true → p x = true) :
    xs.drop (bisect p xs) = xs.filter fun x => !p x := by
  rw [bisect_eq_length_takeWhile h]
  induction xs with
  | nil => rfl
  | cons x xs ih =>
    obtain ⟨hhead, htail⟩ := List.pairwise_cons.mp h
    cases hx : p x with
    | true =>
      rw [List.takeWhile_cons_of_pos hx, List.length_cons, List.drop_succ_cons, ih htail,
        List.filter_cons_of_neg (by rw [hx]; exact Bool.false_ne_true)]
    | false =>
      have hnone : ∀ y ∈ x :: xs, (!p y) = true := by
        refine List.forall_mem_cons.mpr ⟨by rw [hx]; rfl, fun y hy => ?_⟩
        cases hy' : p y with
        | false => rfl
        | true => rw [hhead y hy hy'] at hx; cases hx
      rw [List.takeWhile_cons_of_neg (Bool.eq_false_iff.mp hx), List.filter_eq_self.mpr hnone]
      rfl

end

namespace ReceiveQueue

variable {τ : Type} [Reading τ] {p : τ → Prop} {q : ReceiveQueue τ} {t : τ}

/-! ## the frames that are later -/

/-- What is at or before a reading has before it what is at or before that reading too. -/
theorem InOrder.pairwise_le (hp : Reading.Ordered p) (h : q.InOrder p) (ht : p t) :
    q.toList.Pairwise fun f g => Reading.le g.timestamp t = true →
      Reading.le f.timestamp t = true :=
  h.sorted.imp_of_mem fun hf hg hle hgt =>
    hp.le_trans (h.readings _ hf) (h.readings _ hg) ht hle hgt

/-- A frame held is not at or before a reading exactly if it is later. -/
theorem InOrder.not_le_eq (hp : Reading.Ordered p) (h : q.InOrder p) (ht : p t) {f : Frame τ}
    (hf : f ∈ q.toList) : (!Reading.le f.timestamp t) = Reading.lt t f.timestamp := by
  rw [Bool.eq_iff_iff, Bool.not_eq_true', hp.lt_iff ht (h.readings f hf), Bool.not_eq_true]

/-- The frames that are found to be later than a reading are all those that are later. -/
theorem framesAfter_eq (hp : Reading.Ordered p) (h : q.InOrder p) (ht : p t) :
    q.framesAfter t = q.toList.filter fun f => Reading.lt t f.timestamp := by
  unfold framesAfter positionAfter positionWhere
  rw [drop_bisect (h.pairwise_le hp ht)]
  exact List.filter_congr fun f hf => h.not_le_eq hp ht hf

/-- The position that is found for a reading is that of the first frame that is later. -/
theorem positionAfter_eq (hp : Reading.Ordered p) (h : q.InOrder p) (ht : p t) :
    q.positionAfter t = q.toList.findIdx fun f => Reading.lt t f.timestamp := by
  unfold positionAfter positionWhere
  rw [bisect_eq_findIdx (h.pairwise_le hp ht)]
  refine Nat.le_antisymm (List.findIdx_le_findIdx fun f hf hlater => ?_)
    (List.findIdx_le_findIdx fun f hf hlater => ?_)
  · rwa [h.not_le_eq hp ht hf]
  · rwa [h.not_le_eq hp ht hf] at hlater

/-- The later a reading, the later the position that is found for it. -/
theorem positionAfter_le (hp : Reading.Ordered p) (h : q.InOrder p) (ht : p t) {u : τ} (hu : p u)
    (hle : Reading.le t u = true) : q.positionAfter t ≤ q.positionAfter u := by
  rw [positionAfter_eq hp h ht, positionAfter_eq hp h hu]
  refine List.findIdx_le_findIdx fun f hf hlater => ?_
  have hreading := h.readings f hf
  rw [hp.lt_iff hu hreading] at hlater
  rw [hp.lt_iff ht hreading]
  exact fun hbefore => hlater (hp.le_trans hreading ht hu hbefore hle)

/-- All frames are found to be later than what no reading is before. -/
theorem framesAfter_of_forall (ht : ∀ u : τ, Reading.le u t = false) :
    q.framesAfter t = q.toList := by
  unfold framesAfter positionAfter positionWhere
  rw [bisect_eq_zero fun f _ => ht f.timestamp]
  rfl

/-- The first frame that is found to be later than a reading is the oldest that is later. -/
theorem findAfter?_eq (hp : Reading.Ordered p) (h : q.InOrder p) (ht : p t) :
    q.findAfter? t = q.toList.find? fun f => Reading.lt t f.timestamp := by
  rw [findAfter?, framesAfter_eq hp h ht, List.head?_filter]

/-- A frame that is later than a float is found to be so, be that a number or not. -/
theorem mem_framesAfter {q : ReceiveQueue Float} (hq : q.InOrder fun t => t.isNaN = false)
    {t : Float} {f : Frame Float} (hf : f ∈ q.toList) (hlater : t < f.timestamp) :
    f ∈ q.framesAfter t := by
  cases ht : t.isNaN with
  | false =>
    rw [framesAfter_eq Reading.ordered_float hq ht]
    exact List.mem_filter.mpr ⟨hf, decide_eq_true hlater⟩
  | true =>
    rw [framesAfter_of_forall (Reading.le_of_isNaN ht)]
    exact hf

/-! ## frames that arrive -/

/-- The history after payloads arrived, each at a reading. -/
def pushAll (q : ReceiveQueue τ) (arrivals : List (τ × Bytes)) : ReceiveQueue τ :=
  arrivals.foldl (fun q a => q.pushAt a.1 a.2) q

/-- The frames that payloads become which arrive at readings. -/
def stamped (q : ReceiveQueue τ) : List (τ × Bytes) → List (Frame τ)
  | [] => []
  | (now, payload) :: rest => ⟨q.stamp now, payload⟩ :: (q.pushAt now payload).stamped rest

theorem pushAll_append (q : ReceiveQueue τ) (arrivals arrivals' : List (τ × Bytes)) :
    q.pushAll (arrivals ++ arrivals') = (q.pushAll arrivals).pushAll arrivals' :=
  List.foldl_append

/-- A history holds what it held before or what has arrived. -/
theorem mem_pushAll {arrivals : List (τ × Bytes)} {f : Frame τ}
    (h : f ∈ (q.pushAll arrivals).toList) : f ∈ q.toList ∨ f ∈ q.stamped arrivals := by
  induction arrivals generalizing q with
  | nil => exact .inl h
  | cons a arrivals ih =>
    cases ih h with
    | inr hnew => exact .inr (List.mem_cons_of_mem _ hnew)
    | inl hheld =>
      rw [toList_pushAt] at hheld
      have hmem := List.mem_of_mem_drop hheld
      rw [List.mem_append, List.mem_singleton] at hmem
      exact hmem.imp_right fun heq => List.mem_cons.mpr (.inl heq)

theorem InOrder.mono {p' : τ → Prop} (h : q.InOrder p) (hp : ∀ t, p t → p' t) : q.InOrder p' :=
  ⟨fun f hf => hp _ (h.readings f hf), h.sorted⟩

theorem InOrder.pushAll (hp : Reading.Ordered p) (h : q.InOrder p)
    {arrivals : List (τ × Bytes)} (harrivals : ∀ a ∈ arrivals, p a.1) :
    (q.pushAll arrivals).InOrder p := by
  induction arrivals generalizing q with
  | nil => exact h
  | cons a arrivals ih =>
    obtain ⟨hnow, hrest⟩ := List.forall_mem_cons.mp harrivals
    exact ih (h.pushAt hp hnow a.2) hrest

/-- The payloads of a batch, each with the reading that the clock gives when it arrives. -/
def arrivals (clock : Clock τ) : List Bytes → List (τ × Bytes)
  | [] => []
  | payload :: rest => (clock.read.1, payload) :: arrivals clock.read.2 rest

/-- To push a batch is to let its payloads arrive one after the other. -/
theorem push_fst (q : ReceiveQueue τ) (clock : Clock τ) (batch : List Bytes) :
    (q.push clock batch).1 = q.pushAll (arrivals clock batch) := by
  induction batch generalizing q clock with
  | nil => rfl
  | cons payload batch ih => exact ih (q.pushAt clock.read.1 payload) clock.read.2

/-- To push a batch is to let each payload arrive, at a reading of the clock. -/
theorem push_eq_pushAll (q : ReceiveQueue τ) (clock : Clock τ) (batch : List Bytes) :
    ∃ arrivals, (q.push clock batch).1 = q.pushAll arrivals :=
  ⟨_, q.push_fst clock batch⟩

end ReceiveQueue

end SerialLink
