import SerialLink.Fifo
import SerialLink.Queue.Frame

/-!
# SerialLink.Queue.Receive

The history of received frames.  It holds a bounded number of frames; the oldest
are evicted first.

1. Every payload gets a reading of the clock of its own as its timestamp.
2. A timestamp earlier than that of the newest frame held is replaced by that one,
   so that the frames stay in the order of their timestamps even if the clock
   steps back.
3. On frames in that order, `positionAfter` finds by bisection the first one that
   is later than a given time.
-/

namespace SerialLink

/-- The number of elements at the front of a list that satisfy `p`, found by bisection:
`p` is asked about the middle only, which is right if no element that satisfies `p`
stands behind one that does not. -/
def bisect {α : Type} (p : α → Bool) : List α → Nat
  | [] => 0
  | [x] => if p x then 1 else 0
  | a :: b :: rest =>
    let half := (rest.length + 2) / 2
    match (a :: b :: rest).drop half with
    | [] => 0
    | x :: _ =>
      if p x then half + bisect p ((a :: b :: rest).drop half)
      else bisect p ((a :: b :: rest).take (rest.length + 2 - half))
termination_by xs => xs.length
decreasing_by all_goals simp only [List.length_drop, List.length_take, List.length_cons]; omega

/-- The history of received frames; `pushed` counts the frames ever received. -/
structure ReceiveQueue (τ : Type) where
  frames : Fifo (Frame τ)
  capacity : Nat
  pushed : Nat

namespace ReceiveQueue

variable {τ : Type}

/-- An empty history that holds up to `capacity` frames, at least one. -/
def create (capacity : Nat) : Except QueueError (ReceiveQueue τ) :=
  if capacity = 0 then .error (.invalidCapacity capacity) else .ok ⟨.empty, capacity, 0⟩

/-- The frames, oldest first. -/
def toList (q : ReceiveQueue τ) : List (Frame τ) := q.frames.toList

/-- How many frames are held. -/
def size (q : ReceiveQueue τ) : Nat := q.frames.size

/-- No frame is held. -/
def isEmpty (q : ReceiveQueue τ) : Bool := q.size == 0

/-- The newest frame. -/
def latest? (q : ReceiveQueue τ) : Option (Frame τ) := q.frames.last?

/-- The frame `i` positions back from the newest. -/
def at? (q : ReceiveQueue τ) (i : Nat) : Option (Frame τ) :=
  if i < q.size then q.toList[q.size - 1 - i]? else none

/-- The history without its frames; what was ever received still counts. -/
def clear (q : ReceiveQueue τ) : ReceiveQueue τ := { q with frames := .empty }

variable [Reading τ]

/-- The timestamp of a frame that arrives when the clock reads `now`. -/
def stamp (q : ReceiveQueue τ) (now : τ) : τ :=
  match q.latest? with
  | some f => if Reading.lt now f.timestamp then f.timestamp else now
  | none => now

/-- The history after a payload arrived when the clock read `now`. -/
def pushAt (q : ReceiveQueue τ) (now : τ) (payload : Bytes) : ReceiveQueue τ :=
  let frames := q.frames.push ⟨q.stamp now, payload⟩
  { q with frames := frames.drop (frames.size - q.capacity), pushed := q.pushed + 1 }

/-- The history after a batch of payloads, and the clock after a reading for each. -/
def push (q : ReceiveQueue τ) (clock : Clock τ) : List Bytes → ReceiveQueue τ × Clock τ
  | [] => (q, clock)
  | payload :: rest =>
    let (now, clock) := clock.read
    (q.pushAt now payload).push clock rest

/-! ## the view -/

omit [Reading τ] in
theorem size_eq_length (q : ReceiveQueue τ) : q.size = q.toList.length := q.frames.size_eq_length

omit [Reading τ] in
@[simp] theorem toList_clear (q : ReceiveQueue τ) : q.clear.toList = [] := rfl

theorem toList_pushAt (q : ReceiveQueue τ) (now : τ) (payload : Bytes) :
    (q.pushAt now payload).toList =
      (q.toList ++ [Frame.mk (q.stamp now) payload]).drop (q.size + 1 - q.capacity) := by
  simp [pushAt, toList, size, Fifo.size_eq_length]

/-! ## search by time -/

/-- The position of the first frame that fails `p`, where `p` holds of the earlier frames. -/
def positionWhere (q : ReceiveQueue τ) (p : τ → Bool) : Nat :=
  bisect (fun f => p f.timestamp) q.toList

/-- The position of the first frame later than `t`. -/
def positionAfter (q : ReceiveQueue τ) (t : τ) : Nat := q.positionWhere (Reading.le · t)

/-- The frames later than `t`, oldest first. -/
def framesAfter (q : ReceiveQueue τ) (t : τ) : List (Frame τ) := q.toList.drop (q.positionAfter t)

/-- The first frame later than `t`. -/
def findAfter? (q : ReceiveQueue τ) (t : τ) : Option (Frame τ) := (q.framesAfter t).head?

/-- How many frames are later than `mark`; without a mark, all that are later than the
lowest reading. -/
def countAfter (q : ReceiveQueue τ) (mark : Option τ) : Nat :=
  q.size - match mark with
    | some t => q.positionAfter t
    | none => q.positionWhere Reading.isLowest

/-- The history in diagnostics. -/
def diagnosticText (q : ReceiveQueue Float) : String :=
  "ReceiveQueue \x7b len: " ++ toString q.size ++ ", capacity: " ++ toString q.capacity ++
    ", frames: [" ++ ", ".intercalate (q.toList.map Frame.diagnosticText) ++ "] \x7d"

end ReceiveQueue

end SerialLink
