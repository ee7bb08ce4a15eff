import SerialLink.Proofs.History.Later

/-!
# SerialLink.Proofs.History.Contents

What a history holds after anything was done to it, and where a point in time lies in it.

1. Batches of payloads are pushed into a history, and its frames are discarded
   (`HistoryChange`).  Each payload that arrives takes a reading of the clock, which may step
   back.
2. The frames that payloads become have the latest reading up to their own as their timestamp
   (`FramesOf`): the running maximum survives, as the frame held last has it, even if the frames
   that have set it were evicted.
3. The history holds the last of the frames that arrived since it was emptied, as many as it has
   room for (`ReceiveQueue.contents_of_run`).
4. So its timestamps are in order, and bisection by time gives what a look at one frame after the
   other would give (`ReceiveQueue.positions_of_run`).
-/

namespace SerialLink

/-! ## the latest reading -/

/-- A reading of those given, and none of them is later. -/
structure Reading.IsLatest {τ : Type} [Reading τ] (t : τ) (readings : List τ) : Prop where
  mem : t ∈ readings
  le : ∀ u ∈ readings, Reading.le u t = true

namespace Reading.IsLatest

variable {τ : Type} [Reading τ] {p : τ → Prop} {t now : τ} {readings : List τ}

theorem singleton (hp : Ordered p) (hnow : p now) : IsLatest now [now] :=
  ⟨List.mem_singleton_self now, List.forall_mem_singleton.mpr (hp.le_refl hnow)⟩

/-- The reading that comes next is not later. -/
theorem keep (h : IsLatest t readings) (hle : Reading.le now t = true) :
    IsLatest t (readings ++ [now]) where
  mem := List.mem_append_left _ h.mem
  le := List.forall_mem_append.mpr ⟨h.le, List.forall_mem_singleton.mpr hle⟩

/-- The reading that comes next is not earlier. -/
theorem advance (hp : Ordered p) (hreadings : ∀ u ∈ readings, p u) (hnow : p now)
    (h : IsLatest t readings) (hle : Reading.le t now = true) :
    IsLatest now (readings ++ [now]) where
  mem := List.mem_append_right _ (List.mem_singleton_self now)
  le := by
    refine List.forall_mem_append.mpr ⟨fun u hu => ?_, List.forall_mem_singleton.mpr ?_⟩
    · exact hp.le_trans (hreadings u hu) (hreadings t h.mem) hnow (h.le u hu) hle
    · exact hp.le_refl hnow

end Reading.IsLatest

/-! ## frames that arrived -/

/-- The frames that payloads became which arrived one after the other, each at a reading: a frame
has its payload, and the latest of the readings up to its own as its timestamp. -/
structure FramesOf {τ : Type} [Reading τ] (arrivals : List (τ × Bytes)) (frames : List (Frame τ)) :
    Prop where
  payloads : frames.map Frame.payload = arrivals.map Prod.snd
  timestamps : ∀ (i : Nat) (f : Frame τ), frames[i]? = some f →
    Reading.IsLatest f.timestamp ((arrivals.take (i + 1)).map Prod.fst)

namespace FramesOf

variable {τ : Type} [Reading τ] {arrivals : List (τ × Bytes)} {frames : List (Frame τ)}

theorem nil : FramesOf ([] : List (τ × Bytes)) [] := ⟨rfl, nofun⟩

theorem length_eq (h : FramesOf arrivals frames) : frames.length = arrivals.length := by
  simpa using congrArg List.length h.payloads

/-- The frame that arrived last has the latest of all readings as its timestamp. -/
theorem last (h : FramesOf arrivals frames) {f : Frame τ} (hlast : frames.getLast? = some f) :
    Reading.IsLatest f.timestamp (arrivals.map Prod.fst) := by
  rw [List.getLast?_eq_getElem?] at hlast
  have hlatest := h.timestamps _ f hlast
  have hpos : frames ≠ [] := by
    rintro rfl
    simp at hlast
  rwa [List.take_of_length_le] at hlatest
  have := List.length_pos_of_ne_nil hpos
  have := h.length_eq
  omega

/-- One more payload arrives. -/
theorem append_singleton (h : FramesOf arrivals frames) {t now : τ} (payload : Bytes)
    (hlatest : Reading.IsLatest t (arrivals.map Prod.fst ++ [now])) :
    FramesOf (arrivals ++ [(now, payload)]) (frames ++ [⟨t, payload⟩]) where
  payloads := by simp [h.payloads]
  timestamps i f hf := by
    have hlen := h.length_eq
    rw [List.getElem?_append] at hf
    split at hf
    next hi =>
      rw [List.take_append_of_le_length (by omega)]
      exact h.timestamps i f hf
    next hi =>
      obtain ⟨hzero, rfl⟩ := List.getElem?_eq_some_iff.mp hf
      rw [List.take_of_length_le (by simp at hzero ⊢; omega)]
      simpa using hlatest

end FramesOf

/-! ## what is done to a history -/

/-- What is done to a history. -/
inductive HistoryChange (τ : Type) where
  /-- A batch of payloads arrives, and the clock gives a reading for each. -/
  | push (clock : Clock τ) (batch : List Bytes)
  /-- The frames are discarded. -/
  | clear

namespace HistoryChange

variable {τ : Type}

/-- The payloads that arrive, each with its reading. -/
def arrivals : HistoryChange τ → List (τ × Bytes)
  | push clock batch => ReceiveQueue.arrivals clock batch
  | clear => []

/-- The payloads that have arrived since the frames were discarded, if these are `held` now and
more is done. -/
def sinceClear (held : List (τ × Bytes)) : List (HistoryChange τ) → List (τ × Bytes)
  | [] => held
  | push clock batch :: rest => sinceClear (held ++ ReceiveQueue.arrivals clock batch) rest
  | clear :: rest => sinceClear [] rest

end HistoryChange

namespace ReceiveQueue

variable {τ : Type} [Reading τ]

/-- The history after something was done to it. -/
def change (q : ReceiveQueue τ) : HistoryChange τ → ReceiveQueue τ
  | .push clock batch => (q.push clock batch).1
  | .clear => q.clear

/-- The history after several things were done to it. -/
def run (q : ReceiveQueue τ) (changes : List (HistoryChange τ)) : ReceiveQueue τ :=
  changes.foldl change q

variable {p : τ → Prop} {q : ReceiveQueue τ} {held : List (τ × Bytes)}

/-! ## what is held -/

/-- The history holds the last of the frames that `held` payloads became. -/
def Recalls (q : ReceiveQueue τ) (held : List (τ × Bytes)) : Prop :=
  ∃ frames, FramesOf held frames ∧ q.toList = frames.rtake q.capacity

theorem recalls_nil (hempty : q.toList = []) : q.Recalls [] :=
  ⟨[], .nil, by simp [List.rtake, hempty]⟩

/-- A timestamp is the latest reading, if the frame held last has the latest one before. -/
theorem isLatest_stamp (hp : Reading.Ordered p) {frames : List (Frame τ)}
    (hframes : FramesOf held frames) (hlast : q.latest? = frames.getLast?)
    (hheld : ∀ a ∈ held, p a.1) {now : τ} (hnow : p now) :
    Reading.IsLatest (q.stamp now) (held.map Prod.fst ++ [now]) := by
  have hreadings : ∀ u ∈ held.map Prod.fst, p u := by simpa using hheld
  unfold ReceiveQueue.stamp
  rw [hlast]
  cases hf : frames.getLast? with
  | none =>
    have hlen := hframes.length_eq
    rw [List.getLast?_eq_none_iff.mp hf] at hlen
    obtain rfl : held = [] := List.eq_nil_of_length_eq_zero hlen.symm
    exact .singleton hp hnow
  | some f =>
    have hlatest := hframes.last hf
    have hf' := hreadings f.timestamp hlatest.mem
    dsimp only
    split
    next hlt => exact hlatest.keep (hp.le_of_lt hnow hf' hlt)
    next hlt => exact hlatest.advance hp hreadings hnow (hp.le_of_not_lt hnow hf' hlt)

/-- One more payload arrives in a history that has room for a frame. -/
theorem Recalls.pushAt (hp : Reading.Ordered p) (h : q.Recalls held) (hroom : 0 < q.capacity)
    (hheld : ∀ a ∈ held, p a.1) {now : τ} (hnow : p now) (payload : Bytes) :
    (q.pushAt now payload).Recalls (held ++ [(now, payload)]) := by
  obtain ⟨frames, hframes, hlist⟩ := h
  -- with room for a frame, the frame that arrived last is held
  have hlast : q.latest? = frames.getLast? := by
    rw [latest?_eq, hlist, List.rtake, List.getLast?_drop]
    split
    next hshort =>
      have hnil : frames = [] := List.eq_nil_of_length_eq_zero (by omega)
      rw [hnil, List.getLast?_nil]
    next => rfl
  refine ⟨_, hframes.append_singleton payload (isLatest_stamp hp hframes hlast hheld hnow), ?_⟩
  calc (q.pushAt now payload).toList
      = (q.toList ++ [Frame.mk (q.stamp now) payload]).rtake q.capacity := by
        rw [toList_pushAt, List.rtake, size_eq_length, List.length_append, List.length_singleton]
    _ = (frames ++ [Frame.mk (q.stamp now) payload]).rtake q.capacity := by
        rw [hlist, rtake_append_rtake]

theorem Recalls.pushAll (hp : Reading.Ordered p) {more : List (τ × Bytes)} (h : q.Recalls held)
    (hroom : 0 < q.capacity) (hheld : ∀ a ∈ held, p a.1) (hmore : ∀ a ∈ more, p a.1) :
    (q.pushAll more).Recalls (held ++ more) := by
  induction more generalizing q held with
  | nil => rwa [List.append_nil]
  | cons a more ih =>
    obtain ⟨hnow, hrest⟩ := List.forall_mem_cons.mp hmore
    have hheld' : ∀ b ∈ held ++ [a], p b.1 :=
      List.forall_mem_append.mpr ⟨hheld, List.forall_mem_singleton.mpr hnow⟩
    rw [List.append_cons]
    exact ih (h.pushAt hp hroom hheld hnow a.2) hroom hheld' hrest

theorem pushed_pushAll (q : ReceiveQueue τ) (more : List (τ × Bytes)) :
    (q.pushAll more).pushed = q.pushed + more.length := by
  induction more generalizing q with
  | nil => rfl
  | cons a more ih =>
    have hone : (q.pushAt a.1 a.2).pushed = q.pushed + 1 := rfl
    have hrest := ih (q.pushAt a.1 a.2)
    rw [hone] at hrest
    rw [List.length_cons]
    show ((q.pushAt a.1 a.2).pushAll more).pushed = _
    omega

/-! ## what is held after any changes -/

theorem change_push (q : ReceiveQueue τ) (clock : Clock τ) (batch : List Bytes) :
    q.change (.push clock batch) = q.pushAll (HistoryChange.push clock batch).arrivals :=
  q.push_fst clock batch

theorem capacity_change (q : ReceiveQueue τ) (c : HistoryChange τ) :
    (q.change c).capacity = q.capacity := by
  cases c with
  | push clock batch => exact capacity_push q clock batch
  | clear => rfl

theorem capacity_run (q : ReceiveQueue τ) (changes : List (HistoryChange τ)) :
    (q.run changes).capacity = q.capacity := by
  induction changes generalizing q with
  | nil => rfl
  | cons c changes ih => exact (ih (q.change c)).trans (q.capacity_change c)

/-- What has arrived is counted, and to discard the frames does not change that. -/
theorem pushed_run (q : ReceiveQueue τ) (changes : List (HistoryChange τ)) :
    (q.run changes).pushed = q.pushed + (changes.flatMap HistoryChange.arrivals).length := by
  induction changes generalizing q with
  | nil => rfl
  | cons c changes ih =>
    have hrest := ih (q.change c)
    have hone : (q.change c).pushed = q.pushed + c.arrivals.length := by
      cases c with
      | push clock batch => rw [change_push, pushed_pushAll]
      | clear => rfl
    rw [List.flatMap_cons, List.length_append, ← Nat.add_assoc, ← hone]
    exact hrest

theorem Recalls.run (hp : Reading.Ordered p) {changes : List (HistoryChange τ)} (h : q.Recalls held)
    (hroom : 0 < q.capacity) (hheld : ∀ a ∈ held, p a.1)
    (hchanges : ∀ a ∈ changes.flatMap HistoryChange.arrivals, p a.1) :
    (q.run changes).Recalls (HistoryChange.sinceClear held changes) := by
  induction changes generalizing q held with
  | nil => exact h
  | cons c changes ih =>
    rw [List.flatMap_cons, List.forall_mem_append] at hchanges
    obtain ⟨hone, hrest⟩ := hchanges
    have hroom' : 0 < (q.change c).capacity := by rwa [capacity_change]
    cases c with
    | push clock batch =>
      have hpushed := h.pushAll hp hroom hheld hone
      rw [← change_push] at hpushed
      exact ih hpushed hroom' (List.forall_mem_append.mpr ⟨hheld, hone⟩) hrest
    | clear => exact ih (recalls_nil q.toList_clear) hroom' (by simp) hrest

theorem InOrder.run (hp : Reading.Ordered p) {changes : List (HistoryChange τ)} (h : q.InOrder p)
    (hchanges : ∀ a ∈ changes.flatMap HistoryChange.arrivals, p a.1) :
    (q.run changes).InOrder p := by
  induction changes generalizing q with
  | nil => exact h
  | cons c changes ih =>
    rw [List.flatMap_cons, List.forall_mem_append] at hchanges
    obtain ⟨hone, hrest⟩ := hchanges
    cases c with
    | push clock batch =>
      have hpushed := h.pushAll hp hone
      rw [← change_push] at hpushed
      exact ih hpushed hrest
    | clear => exact ih (inOrder_clear p q) hrest

omit [Reading τ] in
/-- A history is created if it is to have room for a frame, and it is empty then. -/
theorem create_eq_ok_iff {capacity : Nat} :
    create capacity = .ok q ↔ 1 ≤ capacity ∧ q = ⟨.empty, capacity, 0⟩ := by
  unfold create
  split
  next hzero => simp [hzero]
  next hzero =>
    rw [Except.ok.injEq, eq_comm]
    exact (and_iff_right (Nat.pos_of_ne_zero hzero)).symm

omit [Reading τ] in
theorem at?_eq (q : ReceiveQueue τ) (i : Nat) : q.at? i = q.toList.reverse[i]? := by
  unfold ReceiveQueue.at?
  rw [size_eq_length]
  split
  next hi => rw [List.getElem?_reverse hi]
  next hi => rw [List.getElem?_eq_none (by simpa using hi)]

/-! ## runs -/

section

variable {capacity : Nat} {q : ReceiveQueue Float} {changes : List (HistoryChange Float)}

/-- Let a history be created that has room for a frame, and let batches of payloads arrive in it
and its frames be discarded, in any order, while the clock gives numbers.  It holds the last of the
frames that have arrived since its frames were discarded, as many as it has room for: each has its
payload, and the latest reading since then and up to its own as its timestamp.  They are in the
order of their timestamps.  All that ever arrived is counted, and whoever looks at a single frame
sees one of this list. -/
theorem contents_of_run (hcapacity : 1 ≤ capacity)
    (hnumbers : ∀ a ∈ changes.flatMap HistoryChange.arrivals, a.1.isNaN = false) :
    ∃ q : ReceiveQueue Float, create capacity = .ok q ∧
      (∃ frames, FramesOf (HistoryChange.sinceClear [] changes) frames ∧
        (q.run changes).toList = frames.rtake capacity) ∧
      (q.run changes).size = min capacity (HistoryChange.sinceClear [] changes).length ∧
      (q.run changes).toList.Pairwise (fun f g => f.timestamp ≤ g.timestamp) ∧
      (q.run changes).pushed = (changes.flatMap HistoryChange.arrivals).length ∧
      (∀ i, (q.run changes).at? i = (q.run changes).toList.reverse[i]?) ∧
      (q.run changes).latest? = (q.run changes).toList.getLast? := by
  obtain ⟨q, hq⟩ : ∃ q : ReceiveQueue Float, q = ⟨.empty, capacity, 0⟩ := ⟨_, rfl⟩
  have hroom : q.capacity = capacity := by rw [hq]
  have hempty : q.toList = [] := by rw [hq]; rfl
  have hcount : q.pushed = 0 := by rw [hq]
  obtain ⟨frames, hframes, hheld⟩ := (recalls_nil hempty).run Reading.ordered_float
    (by omega) (by simp) hnumbers
  rw [capacity_run, hroom] at hheld
  have horder := (InOrder.of_nil (p := fun t => t.isNaN = false) hempty).run
    Reading.ordered_float hnumbers
  refine ⟨q, create_eq_ok_iff.mpr ⟨hcapacity, hq⟩, ⟨frames, hframes, hheld⟩, ?_, ?_, ?_,
    at?_eq _, latest?_eq _⟩
  · rw [size_eq_length, hheld, List.rtake, List.length_drop, hframes.length_eq]
    omega
  · exact horder.sorted.imp of_decide_eq_true
  · rw [pushed_run, hcount, Nat.zero_add]

/-- The clock steps back within a batch and between batches, and the frame that has set the latest
reading is evicted: those held go on to have it, but not the one from before the frames were
discarded. -/
theorem contents_of_run_evicted :
    let changes : List (HistoryChange Float) :=
      [.push ⟨0.0, [100.0]⟩ [[1]], .push ⟨0.0, [50.0, 70.0, 60.0]⟩ [[2], [3], [4]], .clear,
        .push ⟨0.0, [5.0]⟩ [[5]], .push ⟨0.0, []⟩ [], .push ⟨0.0, [9.0, 3.0, 4.0]⟩ [[6], [7], [8]]]
    (∀ a ∈ changes.flatMap HistoryChange.arrivals, a.1.isNaN = false) ∧
      ∃ q : ReceiveQueue Float, create 2 = .ok q ∧ (q.run changes).payloads = [[7], [8]] ∧
        (q.run changes).toList.all (fun f => f.timestamp == 9.0) = true ∧
        (q.run changes).pushed = 8 := by
  intro changes
  have hnumbers : ∀ a ∈ changes.flatMap HistoryChange.arrivals, a.1.isNaN = false := by
    decide +kernel
  have hcapacity : 1 ≤ 2 := by decide
  obtain ⟨q, hcreate, ⟨frames, hframes, hheld⟩, -, -, hpushed, -⟩ :=
    contents_of_run hcapacity hnumbers
  obtain ⟨-, rfl⟩ := create_eq_ok_iff.mp hcreate
  refine ⟨hnumbers, _, hcreate, ?_, by decide +kernel, hpushed⟩
  have hpayloads : frames.map Frame.payload = [[5], [6], [7], [8]] := hframes.payloads
  rw [payloads, hheld, List.rtake, List.map_drop, hpayloads, hframes.length_eq]
  rfl

/-- Let a history be what became of one that was created, while the clock gave numbers.  The
position that is found for a number is that of the first frame that is later, or the number of
frames if none is; the frame found is that frame, and the frames found are all that are later, in
order.  The later the number, the later the position. -/
theorem positions_of_run (hcreate : create capacity = .ok q)
    (hnumbers : ∀ a ∈ changes.flatMap HistoryChange.arrivals, a.1.isNaN = false) {t : Float}
    (ht : t.isNaN = false) :
    (q.run changes).positionAfter t =
        (q.run changes).toList.findIdx (fun f => t < f.timestamp) ∧
      (q.run changes).findAfter? t = (q.run changes).toList.find? (fun f => t < f.timestamp) ∧
      (q.run changes).framesAfter t = (q.run changes).toList.filter (fun f => t < f.timestamp) ∧
      ∀ u : Float, u.isNaN = false → t ≤ u →
        (q.run changes).positionAfter t ≤ (q.run changes).positionAfter u := by
  have hempty : q.toList = [] := by
    rw [(create_eq_ok_iff.mp hcreate).2]
    rfl
  have horder := (InOrder.of_nil (p := fun t => t.isNaN = false) hempty).run
    Reading.ordered_float hnumbers
  refine ⟨positionAfter_eq Reading.ordered_float horder ht,
    findAfter?_eq Reading.ordered_float horder ht, framesAfter_eq Reading.ordered_float horder ht,
    fun u hu hle => ?_⟩
  exact positionAfter_le Reading.ordered_float horder ht hu (decide_eq_true hle)

/-- Several frames have the same timestamp, also because the clock has stepped back: a search for
that timestamp finds the frame behind them, and nothing is later than infinity. -/
theorem positions_of_run_tied :
    let changes : List (HistoryChange Float) :=
      [.push ⟨0.0, [1.0, 2.0, 1.5, 2.0]⟩ [[1], [2], [3], [4]], .push ⟨0.0, [3.0]⟩ [[5]]]
    (∀ a ∈ changes.flatMap HistoryChange.arrivals, a.1.isNaN = false) ∧
      ∃ q : ReceiveQueue Float, create 4 = .ok q ∧ (2.0 : Float).isNaN = false ∧
        (1.0 / 0.0 : Float).isNaN = false ∧ (q.run changes).positionAfter 2.0 = 3 ∧
        (q.run changes).positionAfter (1.0 / 0.0) = (q.run changes).size := by
  intro changes
  have hnumbers : ∀ a ∈ changes.flatMap HistoryChange.arrivals, a.1.isNaN = false := by
    decide +kernel
  have htwo : (2.0 : Float).isNaN = false := by decide +kernel
  have hinfinity : (1.0 / 0.0 : Float).isNaN = false := by decide +kernel
  have hcreate : create 4 = .ok (⟨.empty, 4, 0⟩ : ReceiveQueue Float) :=
    create_eq_ok_iff.mpr ⟨by decide, rfl⟩
  refine ⟨hnumbers, _, hcreate, htwo, hinfinity, ?_, ?_⟩
  · rw [(positions_of_run hcreate hnumbers htwo).1]
    decide +kernel
  · rw [(positions_of_run hcreate hnumbers hinfinity).1]
    decide +kernel

end

end ReceiveQueue

end SerialLink
