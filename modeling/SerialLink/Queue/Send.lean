import SerialLink.Fifo
import SerialLink.Queue.Frame

/-!
# SerialLink.Queue.Send

The queue of payloads that wait to be written.  It has a fixed limit: what would
exceed it is refused.  The view `SendQueue.toList` lists the payloads, oldest
first.
-/

namespace SerialLink

/-- Payloads that wait to be written. -/
structure SendQueue where
  items : Fifo Bytes
  deriving Inhabited

namespace SendQueue

/-- The most payloads that may wait. -/
def limit : Nat := 65536

/-- The queue in which nothing waits. -/
def empty : SendQueue := ⟨.empty⟩

/-- The payloads, oldest first. -/
def toList (q : SendQueue) : List Bytes := q.items.toList

/-- How many payloads wait. -/
def size (q : SendQueue) : Nat := q.items.size

/-- Nothing waits. -/
def isEmpty (q : SendQueue) : Bool := q.size == 0

/-- The queue with one more payload, unless it is full. -/
def push? (q : SendQueue) (payload : Bytes) : Option SendQueue :=
  if q.size < limit then some ⟨q.items.push payload⟩ else none

/-- The oldest payload. -/
def front (q : SendQueue) : Except QueueError Bytes :=
  match q.items.head? with
  | some payload => .ok payload
  | none => .error .empty

/-- The oldest payload, and the queue without it. -/
def pop (q : SendQueue) : Except QueueError (Bytes × SendQueue) :=
  match q.items.head? with
  | some payload => .ok (payload, ⟨q.items.pop⟩)
  | none => .error .empty

/-- The queue without its `n` oldest payloads, or empty if it has no more than those. -/
def discardFront (q : SendQueue) (n : Nat) : SendQueue := ⟨q.items.drop (min n q.size)⟩

/-! ## the view -/

@[simp] theorem toList_empty : empty.toList = [] := rfl

theorem size_eq_length (q : SendQueue) : q.size = q.toList.length := q.items.size_eq_length

theorem toList_push? {q r : SendQueue} {payload : Bytes} (h : q.push? payload = some r) :
    r.toList = q.toList ++ [payload] := by
  unfold push? at h
  split at h
  · cases h; simp [toList]
  · cases h

theorem front_eq (q : SendQueue) :
    q.front = match q.toList with
      | [] => .error .empty
      | payload :: _ => .ok payload := by
  unfold front
  rw [Fifo.head?_eq]
  cases h : q.items.toList <;> simp [toList, h]

@[simp] theorem toList_discardFront (q : SendQueue) (n : Nat) :
    (q.discardFront n).toList = q.toList.drop n := by
  simp only [discardFront, toList, Fifo.toList_drop, size, Fifo.size_eq_length]
  by_cases h : n ≤ q.items.toList.length
  · rw [Nat.min_eq_left h]
  · rw [List.drop_of_length_le (by omega), List.drop_of_length_le (by omega)]

end SendQueue

end SerialLink
