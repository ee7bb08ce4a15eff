import Mathlib.Logic.ExistsUnique
import SerialLink.Proofs.Framing.Batches
import SerialLink.Proofs.Framing.Limit

/-!
# SerialLink.Proofs.Framing.Grammar

Which pieces a stream falls into, and which frame each of them gives.

1. A piece is a body with the delimiter that ends it, or it is cut off at the maximal length
   (`FramePiece`).  A frame is split off exactly if the bytes begin with a piece
   (`FramingConfig.split_eq_some_iff`), and none exactly if they hold no delimiter and are
   shorter than a window (`FramingConfig.split_eq_none_iff`).
2. A `Division` of a stream is a list of pieces with what is left over.  Its frames are those
   that are split off (`Division.splits`), and whatever is split off comes of a division
   (`Splits.exists_division`).
3. A stream has one division only (`Division.unique`), so that feeding computes it
   (`Framer.existsUnique_division`).
-/

namespace SerialLink

open Text

/-! ## one piece -/

/-- How a piece of a stream gives a frame, with the delimiter `d` and the maximal length `m`.
Behind the piece comes `rest`. -/
inductive FramePiece (d : Bytes) (m : Nat) (keep : Bool) (rest : Bytes) : Bytes → Bytes → Prop
  /-- A body and the delimiter that ends it, which the frame keeps or not. -/
  | terminated {body : Bytes} (h : Closes d m body) :
    FramePiece d m keep rest (body ++ d) (if keep then body ++ d else body)
  /-- Bytes that are cut off.  There are enough for the longest body with its delimiter, but no
  delimiter begins where it would end a body. -/
  | forced {piece : Bytes} (hm : 0 < m) (hlength : piece.length = m)
      (hremaining : m + d.length ≤ (piece ++ rest).length)
      (hnone : ∀ i ≤ m, ¬ OccursAt d (piece ++ rest) i) :
    FramePiece d m keep rest piece piece

section

variable {d bytes frame rest piece : Bytes} {m i : Nat} {keep : Bool}

/-- What stands before the first delimiter of the window is a body that this ends. -/
theorem closes_take
    (hfirst : firstAt? d (if m = 0 then bytes else bytes.take (m + d.length)) = some i) :
    Closes d m (bytes.take i) ∧ bytes.take i ++ d = bytes.take (i + d.length) := by
  -- the first delimiter of the window is the first one of all
  have hall : firstAt? d bytes = some i := by
    by_cases h0 : m = 0
    · rwa [if_pos h0] at hfirst
    · rw [if_neg h0] at hfirst
      rw [← List.take_append_drop (m + d.length) bytes]
      exact firstAt?_append hfirst
  obtain ⟨hi, hocc, hbefore⟩ := firstAt?_eq_some_iff.mp hall
  have hend := hocc.add_length_le hi
  have hlength : (bytes.take i).length = i := List.length_take_of_le hi
  have hbody : bytes.take i ++ d = bytes.take (i + d.length) := by
    rw [List.take_add, ← List.prefix_iff_eq_take.mp hocc]
  refine ⟨⟨?_, ?_⟩, hbody⟩
  · have hwhole : bytes.take i ++ d ++ bytes.drop (i + d.length) = bytes := by
      rw [hbody, List.take_append_drop]
    rw [hlength]
    refine firstAt?_eq_some_iff.mpr ⟨?_, ?_, fun j hj hocc' => ?_⟩
    · simp [hlength]
    · simp [OccursAt, List.drop_left' hlength]
    · refine hbefore j hj ?_
      rw [← hwhole]
      exact hocc'.append (by rw [List.length_append, hlength]; omega)
  · rw [hlength]
    by_cases h0 : m = 0
    · exact .inl h0
    · rw [if_neg h0] at hfirst
      have hwindow := firstAt?_add_length_le hfirst
      rw [List.length_take] at hwindow
      exact .inr (by omega)

/-- A window holds no delimiter exactly if none begins where it would end a body. -/
theorem firstAt?_window_eq_none_iff (hremaining : m + d.length ≤ bytes.length) :
    firstAt? d (bytes.take (m + d.length)) = none ↔ ∀ i ≤ m, ¬ OccursAt d bytes i := by
  constructor
  · intro hwindow i hi hocc
    have := lt_of_occursAt_of_window hwindow (by omega) hocc
    omega
  · intro hnone
    rw [firstAt?_eq_none_iff]
    intro i hi hocc
    have hend := hocc.add_length_le hi
    rw [List.length_take_of_le hremaining] at hend
    refine hnone i (by omega) ?_
    rw [← List.take_append_drop (m + d.length) bytes]
    exact hocc.append hi

namespace FramingConfig

/-- A frame is split off exactly if the bytes begin with a piece that gives it. -/
theorem split_eq_some_iff (hd : d ≠ []) :
    (delimiter d m keep).split bytes = some (frame, rest) ↔
      ∃ piece, piece ++ rest = bytes ∧ FramePiece d m keep rest piece frame := by
  constructor
  · intro h
    rw [split_delimiter hd] at h
    unfold splitDelimited at h
    dsimp only at h
    cases hfirst : firstAt? d (if m = 0 then bytes else bytes.take (m + d.length)) with
    | some i =>
      rw [hfirst] at h
      obtain ⟨rfl, rfl⟩ := Prod.mk.inj (Option.some.inj h)
      obtain ⟨hcloses, hbody⟩ := closes_take hfirst
      refine ⟨bytes.take i ++ d, by rw [hbody, List.take_append_drop], ?_⟩
      rw [apply_ite (List.take · bytes), ← hbody]
      exact .terminated hcloses
    | none =>
      rw [hfirst] at h
      dsimp only at h
      by_cases hcut : 0 < m ∧ m + d.length ≤ bytes.length
      · rw [if_pos hcut] at h
        obtain ⟨rfl, rfl⟩ := Prod.mk.inj (Option.some.inj h)
        rw [if_neg (Nat.ne_of_gt hcut.1), firstAt?_window_eq_none_iff hcut.2] at hfirst
        have hpiece := List.take_append_drop m bytes
        refine ⟨bytes.take m, hpiece, .forced hcut.1 (List.length_take_of_le (by omega)) ?_ ?_⟩
        · rw [hpiece]
          exact hcut.2
        · rwa [hpiece]
      · rw [if_neg hcut] at h
        cases h
  · rintro ⟨piece, rfl, hpiece⟩
    cases hpiece with
    | terminated hcloses => exact hcloses.split hd keep rest
    | forced hm hlength hremaining hnone =>
      have hwindow := (firstAt?_window_eq_none_iff hremaining).mpr hnone
      rw [split_delimiter hd]
      unfold splitDelimited
      dsimp only
      rw [if_neg (Nat.ne_of_gt hm), hwindow]
      dsimp only
      rw [if_pos ⟨hm, hremaining⟩, List.take_left' hlength, List.drop_left' hlength]

/-- No frame is split off exactly if there is no delimiter, and not so many bytes that one would
be cut off. -/
theorem split_eq_none_iff (hd : d ≠ []) :
    (delimiter d m keep).split bytes = none ↔
      ¬ d <:+: bytes ∧ (m = 0 ∨ bytes.length < m + d.length) := by
  rw [split_delimiter hd]
  unfold splitDelimited
  dsimp only
  constructor
  · intro h
    cases hfirst : firstAt? d (if m = 0 then bytes else bytes.take (m + d.length)) with
    | some i =>
      rw [hfirst] at h
      cases h
    | none =>
      rw [hfirst] at h
      dsimp only at h
      have hshort : m = 0 ∨ bytes.length < m + d.length := by
        by_cases hcut : 0 < m ∧ m + d.length ≤ bytes.length
        · rw [if_pos hcut] at h
          cases h
        · omega
      have hall : firstAt? d bytes = none := by
        cases hshort with
        | inl h0 => rwa [if_pos h0] at hfirst
        | inr hlt => rwa [List.take_of_length_le (Nat.le_of_lt hlt), ite_self] at hfirst
      refine ⟨fun hinside => ?_, hshort⟩
      obtain ⟨i, hi, hocc⟩ := isInfix_iff_occursAt.mp hinside
      exact firstAt?_eq_none_iff.mp hall i hi hocc
  · rintro ⟨hinside, hshort⟩
    have hall : firstAt? d bytes = none :=
      firstAt?_eq_none_iff.mpr fun i hi hocc => hinside (isInfix_iff_occursAt.mpr ⟨i, hi, hocc⟩)
    have hfirst : firstAt? d (if m = 0 then bytes else bytes.take (m + d.length)) = none := by
      cases hshort with
      | inl h0 => rwa [if_pos h0]
      | inr hlt => rwa [List.take_of_length_le (Nat.le_of_lt hlt), ite_self]
    rw [hfirst]
    exact if_neg (by omega)

end FramingConfig

end

/-! ## all pieces -/

/-- A stream falls into these pieces, which give these frames, and the rest is left over: it holds
no delimiter, and is too short for a piece to be cut off. -/
inductive Division (d : Bytes) (m : Nat) (keep : Bool) :
    List Bytes → List Bytes → Bytes → Prop
  | rest {rest : Bytes} (hnone : ¬ d <:+: rest) (hshort : m = 0 ∨ rest.length < m + d.length) :
    Division d m keep [] [] rest
  | piece {piece frame rest : Bytes} {pieces frames : List Bytes}
      (h : FramePiece d m keep (pieces.flatten ++ rest) piece frame)
      (hmore : Division d m keep pieces frames rest) :
    Division d m keep (piece :: pieces) (frame :: frames) rest

section

variable {d bytes last : Bytes} {m : Nat} {keep : Bool} {pieces frames : List Bytes}

/-- The frames of a division are those that are split off. -/
theorem Division.splits (hd : d ≠ []) (h : Division d m keep pieces frames last) :
    Splits (.delimiter d m keep) (pieces.flatten ++ last) frames last := by
  induction h with
  | rest hnone hshort => exact .done ((FramingConfig.split_eq_none_iff hd).mpr ⟨hnone, hshort⟩)
  | piece hpiece _ ih =>
    rw [List.flatten_cons, List.append_assoc]
    exact .frame ((FramingConfig.split_eq_some_iff hd).mpr ⟨_, rfl, hpiece⟩) ih

/-- What is split off comes of a division. -/
theorem Splits.exists_division (hd : d ≠ [])
    (h : Splits (.delimiter d m keep) bytes frames last) :
    ∃ pieces, pieces.flatten ++ last = bytes ∧ Division d m keep pieces frames last := by
  induction h with
  | done hnone =>
    obtain ⟨hinside, hshort⟩ := (FramingConfig.split_eq_none_iff hd).mp hnone
    exact ⟨[], rfl, .rest hinside hshort⟩
  | frame hsplit _ ih =>
    obtain ⟨pieces, rfl, hmore⟩ := ih
    obtain ⟨piece, rfl, hpiece⟩ := (FramingConfig.split_eq_some_iff hd).mp hsplit
    refine ⟨piece :: pieces, ?_, .piece hpiece hmore⟩
    rw [List.flatten_cons, List.append_assoc]

/-- A stream has one division only. -/
theorem Division.unique (hd : d ≠ []) {pieces' frames' : List Bytes} {last' : Bytes}
    (h : Division d m keep pieces frames last) (h' : Division d m keep pieces' frames' last')
    (hsame : pieces.flatten ++ last = pieces'.flatten ++ last') :
    pieces = pieces' ∧ frames = frames' ∧ last = last' := by
  have hsplits' := h'.splits hd
  rw [← hsame] at hsplits'
  obtain ⟨rfl, rfl⟩ := (h.splits hd).unique hsplits'
  refine ⟨?_, rfl, rfl⟩
  clear hsplits'
  -- frame by frame, the same rest follows the two pieces, so that these are the same
  induction h generalizing pieces' with
  | rest =>
    cases h' with
    | rest => rfl
  | piece hpiece _ ih =>
    cases h' with
    | piece hpiece' hmore' =>
      rw [List.flatten_cons, List.flatten_cons, List.append_assoc, List.append_assoc] at hsame
      have hsplit := (FramingConfig.split_eq_some_iff hd).mpr ⟨_, rfl, hpiece⟩
      have hsplit' := (FramingConfig.split_eq_some_iff hd).mpr ⟨_, rfl, hpiece'⟩
      rw [hsame, hsplit'] at hsplit
      have hrest := (Prod.mk.inj (Option.some.inj hsplit)).2
      rw [hrest] at hsame
      rw [List.append_cancel_right hsame, ih hrest.symm hmore']

end

/-- A fresh framer that is fed a stream divides it in the one way there is: the stream is its
pieces with the bytes carried over, the frames are those that the pieces give, and any other
division of the stream would have other pieces, frames or bytes left over. -/
theorem Framer.existsUnique_division {d : Bytes} (hd : d ≠ []) (m : Nat) (keep : Bool)
    (s : Bytes) :
    let fed := (Framer.create (.delimiter d m keep)).feed s
    (∃! pieces : List Bytes, pieces.flatten ++ fed.2.buffer = s ∧
      Division d m keep pieces fed.1 fed.2.buffer) ∧
      ∀ (pieces frames : List Bytes) (last : Bytes), pieces.flatten ++ last = s →
        Division d m keep pieces frames last → frames = fed.1 ∧ last = fed.2.buffer := by
  intro fed
  have hfed : Splits (.delimiter d m keep) s fed.1 fed.2.buffer :=
    Framer.splits_feed (.create (.delimiter d m keep)) s
  obtain ⟨pieces, hwhole, hdivision⟩ := hfed.exists_division hd
  refine ⟨⟨pieces, ⟨hwhole, hdivision⟩, ?_⟩, ?_⟩
  · rintro pieces' ⟨hwhole', hdivision'⟩
    exact (hdivision'.unique hd hdivision (hwhole'.trans hwhole.symm)).1
  · intro pieces' frames last hwhole' hdivision'
    exact (hdivision'.unique hd hdivision (hwhole'.trans hwhole.symm)).2

/-- The first body is as long as a body may be.  Then a delimiter begins one byte too late to end
one, the last body is empty, and with one byte more the rest would be cut. -/
theorem Framer.existsUnique_division_borders :
    let d := Utf8.bytes "aba"
    let s := Utf8.bytes "xyzabapqrsabaabauvwab"
    let fed := (Framer.create (.delimiter d 3 false)).feed s
    d ≠ [] ∧ fed = (["xyz", "pqr", "s", ""].map Utf8.bytes,
        ⟨.delimiter d 3 false, Utf8.bytes "uvwab"⟩) ∧
      (∃! pieces : List Bytes, pieces.flatten ++ fed.2.buffer = s ∧
        Division d 3 false pieces fed.1 fed.2.buffer) ∧
        ∀ (pieces frames : List Bytes) (last : Bytes), pieces.flatten ++ last = s →
          Division d 3 false pieces frames last → frames = fed.1 ∧ last = fed.2.buffer := by
  intro d s fed
  have hd : d ≠ [] := by decide +kernel
  exact ⟨hd, by decide +kernel, existsUnique_division hd 3 false s⟩

end SerialLink
