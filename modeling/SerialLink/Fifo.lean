/-!
# SerialLink.Fifo

A first-in first-out queue with constant-time ends.

The queue is a list of the oldest elements, oldest first, and a list of the
newest, newest first.  Everything it does is stated through one view,
`Fifo.toList`, the elements from the oldest to the newest:

* `toList_push` — a pushed element becomes the newest;
* `toList_pop`, `head?_eq` — the oldest element is read and removed at the front;
* `last?_eq` — the newest element is read at the back;
* `size_eq_length` — the stored size counts the elements.
-/

namespace SerialLink

/-- A queue: `front` holds the oldest elements, oldest first, `back` the newest,
newest first.  The front is empty only if the queue is. -/
structure Fifo (α : Type) where
  front : List α
  back : List α
  size : Nat
  size_eq : size = front.length + back.length
  back_eq_nil : front = [] → back = []

namespace Fifo

variable {α : Type}

/-- The queue that holds nothing. -/
def empty : Fifo α := ⟨[], [], 0, rfl, fun _ => rfl⟩

instance : Inhabited (Fifo α) := ⟨empty⟩

instance : EmptyCollection (Fifo α) := ⟨empty⟩

/-- The elements, oldest first. -/
def toList (q : Fifo α) : List α := q.front ++ q.back.reverse

/-- The queue after `x` joined it as its newest element. -/
def push (q : Fifo α) (x : α) : Fifo α :=
  match q with
  | ⟨[], _, _, _, _⟩ => ⟨[x], [], 1, rfl, fun _ => rfl⟩
  | ⟨f :: fs, back, n, hn, _⟩ =>
    ⟨f :: fs, x :: back, n + 1, by simp [hn]; omega, by simp⟩

/-- The oldest element. -/
def head? (q : Fifo α) : Option α := q.front.head?

/-- The newest element. -/
def last? (q : Fifo α) : Option α :=
  match q.back with
  | [] => q.front.getLast?
  | b :: _ => some b

/-- The queue without its oldest element; an empty queue stays as it is. -/
def pop (q : Fifo α) : Fifo α :=
  match q with
  | ⟨[], back, n, hn, hb⟩ => ⟨[], back, n, hn, hb⟩
  | ⟨[_], back, n, hn, _⟩ => ⟨back.reverse, [], n - 1, by simp [hn], fun _ => rfl⟩
  | ⟨_ :: g :: gs, back, n, hn, _⟩ =>
    ⟨g :: gs, back, n - 1, by simp only [List.length_cons] at hn ⊢; omega, by simp⟩

/-- The queue without its `n` oldest elements. -/
def drop (q : Fifo α) : Nat → Fifo α
  | 0 => q
  | n + 1 => q.pop.drop n

/-- The queue that holds the elements of a list, the first being the oldest. -/
def ofList (xs : List α) : Fifo α :=
  ⟨xs, [], xs.length, rfl, fun _ => rfl⟩

/-! ## the view -/

@[simp] theorem toList_empty : (empty : Fifo α).toList = [] := rfl

@[simp] theorem toList_ofList (xs : List α) : (ofList xs).toList = xs := by
  simp [ofList, toList]

@[simp] theorem toList_push (q : Fifo α) (x : α) : (q.push x).toList = q.toList ++ [x] := by
  obtain ⟨front, back, n, hn, hb⟩ := q
  cases front with
  | nil => simp [push, toList, hb rfl]
  | cons f fs => simp [push, toList]

@[simp] theorem toList_pop (q : Fifo α) : q.pop.toList = q.toList.tail := by
  obtain ⟨front, back, n, hn, hb⟩ := q
  match front with
  | [] => simp [pop, toList, hb rfl]
  | [_] => simp [pop, toList]
  | _ :: g :: gs => simp [pop, toList]

@[simp] theorem toList_drop (q : Fifo α) (n : Nat) : (q.drop n).toList = q.toList.drop n := by
  induction n generalizing q with
  | zero => simp [drop]
  | succ n ih => simp [drop, ih, List.drop_tail]

theorem head?_eq (q : Fifo α) : q.head? = q.toList.head? := by
  obtain ⟨front, back, n, hn, hb⟩ := q
  cases front with
  | nil => simp [head?, toList, hb rfl]
  | cons f fs => simp [head?, toList]

theorem last?_eq (q : Fifo α) : q.last? = q.toList.getLast? := by
  obtain ⟨front, back, n, hn, hb⟩ := q
  cases back with
  | nil => simp [last?, toList]
  | cons b bs => simp [last?, toList]

theorem size_eq_length (q : Fifo α) : q.size = q.toList.length := by
  simp [toList, q.size_eq]

end Fifo

end SerialLink
