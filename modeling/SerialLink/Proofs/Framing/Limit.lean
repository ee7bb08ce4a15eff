import SerialLink.Proofs.Framing

/-!
# SerialLink.Proofs.Framing.Limit

What a maximal length does to frames that keep their delimiter.

1. A frame ends with the first delimiter, if that stands within the window, or else it is cut
   off at the maximal length (`LimitedSplit`).
2. Where a frame is cut off, every delimiter begins behind the cut, so that the first one behind
   the cut is the first one of all (`firstAt?_eq_map_drop`).
3. Frames that were cut off are put together again by `rejoin`.  What comes out are the frames
   without a maximal length (`Splits.rejoined`).
-/

namespace SerialLink

/-! ## occurrences and cuts -/

section

variable {α : Type} {d xs : List α} {i n : Nat}

/-- What occurs somewhere is a piece of the list. -/
theorem isInfix_iff_occursAt : d <:+: xs ↔ ∃ i ≤ xs.length, OccursAt d xs i := by
  constructor
  · rintro ⟨front, back, rfl⟩
    refine ⟨front.length, ?_, ?_⟩
    · simp only [List.length_append]
      omega
    · rw [OccursAt, List.append_assoc, List.drop_left]
      exact List.prefix_append d back
  · rintro ⟨i, -, hocc⟩
    exact hocc.isInfix.trans (List.drop_suffix i xs).isInfix

variable [BEq α] [LawfulBEq α]

/-- What occurs somewhere has a first occurrence. -/
theorem firstAt?_eq_none_iff : firstAt? d xs = none ↔ ∀ i ≤ xs.length, ¬ OccursAt d xs i := by
  constructor
  · intro hnone i
    induction i using Nat.strongRecOn with
    | ind i ih =>
      intro hi hocc
      have hfirst : firstAt? d xs = some i :=
        firstAt?_eq_some_iff.mpr ⟨hi, hocc, fun j hj => ih j hj (by omega)⟩
      rw [hnone] at hfirst
      cases hfirst
  · intro hall
    cases hfirst : firstAt? d xs with
    | none => rfl
    | some i =>
      obtain ⟨hi, hocc, -⟩ := firstAt?_eq_some_iff.mp hfirst
      exact absurd hocc (hall i hi)

/-- What ends with the first occurrence ends with `d`. -/
theorem isSuffix_take_of_firstAt? (hfirst : firstAt? d xs = some i) :
    d <:+ xs.take (i + d.length) := by
  obtain ⟨-, hocc, -⟩ := firstAt?_eq_some_iff.mp hfirst
  have hlast : (xs.drop i).take d.length = d := (List.prefix_iff_eq_take.mp hocc).symm
  rw [List.take_add, hlast]
  exact List.suffix_append _ d

/-- If `d` does not occur in the window of a cut, which goes on behind the cut for as long as `d`
is, then every occurrence begins behind the cut. -/
theorem lt_of_occursAt_of_window (hwindow : firstAt? d (xs.take (n + d.length)) = none)
    (hi : i ≤ xs.length) (hocc : OccursAt d xs i) : n < i := by
  rw [← Nat.not_le]
  intro hle
  have hend := hocc.add_length_le hi
  have hlength : i + d.length ≤ (xs.take (n + d.length)).length := by
    rw [List.length_take]
    omega
  rw [← List.take_append_drop (n + d.length) xs] at hocc
  exact firstAt?_eq_none_iff.mp hwindow i (by omega) (hocc.of_append hlength)

/-- So what is cut off does not hold `d`. -/
theorem not_isInfix_take_of_window (hwindow : firstAt? d (xs.take (n + d.length)) = none) :
    ¬ d <:+: xs.take n := by
  intro hinside
  have hprefix : xs.take n <+: xs.take (n + d.length) :=
    List.take_prefix_take_left (Nat.le_add_right n d.length)
  obtain ⟨i, hi, hocc⟩ := isInfix_iff_occursAt.mp (hinside.trans hprefix.isInfix)
  exact firstAt?_eq_none_iff.mp hwindow i hi hocc

/-- And the first occurrence of all is the first one behind the cut. -/
theorem firstAt?_eq_map_drop (hwindow : firstAt? d (xs.take (n + d.length)) = none)
    (hn : n ≤ xs.length) : firstAt? d xs = (firstAt? d (xs.drop n)).map (n + ·) := by
  cases hdrop : firstAt? d (xs.drop n) with
  | some j =>
    obtain ⟨hj, hocc, hfirst⟩ := firstAt?_eq_some_iff.mp hdrop
    rw [List.length_drop] at hj
    rw [OccursAt, List.drop_drop] at hocc
    rw [Option.map_some]
    refine firstAt?_eq_some_iff.mpr ⟨by omega, hocc, fun k hk hk' => ?_⟩
    have hnk := Nat.le_of_lt (lt_of_occursAt_of_window hwindow (by omega) hk')
    refine hfirst (k - n) (by omega) ?_
    rwa [OccursAt, List.drop_drop, Nat.add_sub_cancel' hnk]
  | none =>
    rw [Option.map_none, firstAt?_eq_none_iff]
    intro i hi hocc
    have hni := Nat.le_of_lt (lt_of_occursAt_of_window hwindow hi hocc)
    refine firstAt?_eq_none_iff.mp hdrop (i - n) ?_ ?_
    · rw [List.length_drop]
      omega
    · rwa [OccursAt, List.drop_drop, Nat.add_sub_cancel' hni]

end

/-! ## one frame -/

section

variable {d bytes frame rest : Bytes} {m : Nat}

/-- How a frame that keeps its delimiter is split off under a maximal length. -/
inductive LimitedSplit (d : Bytes) (m : Nat) (bytes : Bytes) : Bytes → Bytes → Prop
  /-- It ends with the first delimiter. -/
  | ended {i : Nat} (hfirst : firstAt? d bytes = some i) :
    LimitedSplit d m bytes (bytes.take (i + d.length)) (bytes.drop (i + d.length))
  /-- It is cut off, and no delimiter stands within the window. -/
  | cut (hwindow : firstAt? d (bytes.take (m + d.length)) = none)
      (hlength : m + d.length ≤ bytes.length) :
    LimitedSplit d m bytes (bytes.take m) (bytes.drop m)

/-- A delimiter stands nowhere in such a frame but at its end. -/
theorem LimitedSplit.isInfix_iff_isSuffix (h : LimitedSplit d m bytes frame rest) :
    d <:+: frame ↔ d <:+ frame := by
  refine ⟨fun hinside => ?_, List.IsSuffix.isInfix⟩
  cases h with
  | ended hfirst => exact isSuffix_take_of_firstAt? hfirst
  | cut hwindow => exact absurd hinside (not_isInfix_take_of_window hwindow)

namespace FramingConfig

theorem split_delimiter (hd : d ≠ []) (m : Nat) (keep : Bool) (bytes : Bytes) :
    (delimiter d m keep).split bytes = splitDelimited d m keep bytes := by
  obtain ⟨b, d, rfl⟩ := List.exists_cons_of_ne_nil hd
  cases bytes with
  | cons => rfl
  | nil =>
    have hnone : firstAt? (b :: d) [] = none := rfl
    have hshort : ¬ (0 < m ∧ m + (b :: d).length ≤ ([] : Bytes).length) := by simp
    unfold splitDelimited
    rw [List.take_nil, ite_self]
    dsimp only
    rw [hnone]
    exact (if_neg hshort).symm

/-- Without a maximal length, only delimiters split. -/
theorem split_unlimited (hd : d ≠ []) (bytes : Bytes) :
    (delimiter d 0 true).split bytes =
      (firstAt? d bytes).map fun i => (bytes.take (i + d.length), bytes.drop (i + d.length)) := by
  rw [split_delimiter hd]
  unfold splitDelimited
  rw [if_pos rfl]
  dsimp only
  cases firstAt? d bytes with
  | some i => rfl
  | none => exact if_neg fun hpos => Nat.lt_irrefl 0 hpos.1

/-- With a maximal length, bytes that are long enough are split in any case. -/
theorem split_limited (hd : d ≠ []) (hm : 0 < m) (bytes : Bytes) :
    (delimiter d m true).split bytes = match firstAt? d (bytes.take (m + d.length)) with
      | some i => some (bytes.take (i + d.length), bytes.drop (i + d.length))
      | none =>
        if m + d.length ≤ bytes.length then some (bytes.take m, bytes.drop m) else none := by
  rw [split_delimiter hd]
  unfold splitDelimited
  rw [if_neg (Nat.ne_of_gt hm)]
  dsimp only
  cases firstAt? d (bytes.take (m + d.length)) with
  | some i => rfl
  | none => simp only [hm, true_and]

/-- A first occurrence within the window is the first one of all. -/
theorem limitedSplit_of_split (hd : d ≠ []) (hm : 0 < m)
    (h : (delimiter d m true).split bytes = some (frame, rest)) :
    LimitedSplit d m bytes frame rest := by
  rw [split_limited hd hm] at h
  cases hwindow : firstAt? d (bytes.take (m + d.length)) with
  | some i =>
    rw [hwindow] at h
    obtain ⟨rfl, rfl⟩ := Prod.mk.inj (Option.some.inj h)
    have hfirst : firstAt? d (bytes.take (m + d.length) ++ bytes.drop (m + d.length)) = some i :=
      firstAt?_append hwindow
    rw [List.take_append_drop] at hfirst
    exact .ended hfirst
  | none =>
    rw [hwindow] at h
    by_cases hlength : m + d.length ≤ bytes.length
    · rw [if_pos hlength] at h
      obtain ⟨rfl, rfl⟩ := Prod.mk.inj (Option.some.inj h)
      exact .cut hwindow hlength
    · rw [if_neg hlength] at h
      cases h

/-- Bytes that hold no complete frame hold no delimiter. -/
theorem firstAt?_of_split_eq_none (hd : d ≠ []) (hm : 0 < m)
    (h : (delimiter d m true).split bytes = none) : firstAt? d bytes = none := by
  rw [split_limited hd hm] at h
  cases hwindow : firstAt? d (bytes.take (m + d.length)) with
  | some i =>
    rw [hwindow] at h
    cases h
  | none =>
    rw [hwindow] at h
    by_cases hlength : m + d.length ≤ bytes.length
    · rw [if_pos hlength] at h
      cases h
    · rwa [List.take_of_length_le (by omega)] at hwindow

end FramingConfig

end

/-! ## all frames -/

/-- Frames put together again: a frame that ends with `d` completes those since the last such
frame.  `front` are the bytes of those, and in the end they are left over. -/
def rejoin (d : Bytes) : (front : Bytes) → List Bytes → List Bytes × Bytes
  | front, [] => ([], front)
  | front, frame :: frames =>
    if d <:+ frame then
      let (wholes, rest) := rejoin d [] frames
      ((front ++ frame) :: wholes, rest)
    else rejoin d (front ++ frame) frames

namespace Splits

variable {d bytes last : Bytes} {m : Nat} {frames : List Bytes}

/-- A delimiter stands nowhere in a frame of limited length but at its end. -/
theorem isInfix_iff_isSuffix (hd : d ≠ []) (hm : 0 < m)
    (h : Splits (.delimiter d m true) bytes frames last) :
    ∀ frame ∈ frames, d <:+: frame ↔ d <:+ frame := by
  induction h with
  | done => exact nofun
  | frame hsplit _ ih =>
    intro frame hframe
    cases List.mem_cons.mp hframe with
    | inl heq =>
      rw [heq]
      exact (FramingConfig.limitedSplit_of_split hd hm hsplit).isInfix_iff_isSuffix
    | inr hmem => exact ih frame hmem

/-- Frames of limited length, put together again, are the frames without a maximal length.
`front` are bytes that were cut off before; by `hfront` the first delimiter of all is still
the first one behind them. -/
theorem rejoined (hd : d ≠ []) (hm : 0 < m)
    (h : Splits (.delimiter d m true) bytes frames last) (front : Bytes)
    (hfront : firstAt? d (front ++ bytes) = (firstAt? d bytes).map (front.length + ·)) :
    Splits (.delimiter d 0 true) (front ++ bytes) (rejoin d front frames).1
      ((rejoin d front frames).2 ++ last) := by
  induction h generalizing front with
  | done hnone =>
    refine .done ?_
    rw [FramingConfig.split_unlimited hd, hfront,
      FramingConfig.firstAt?_of_split_eq_none hd hm hnone]
    rfl
  | @frame bytes frame rest last frames hsplit _ ih =>
    unfold rejoin
    cases FramingConfig.limitedSplit_of_split hd hm hsplit with
    | @ended i hfirst =>
      rw [if_pos (isSuffix_take_of_firstAt? hfirst)]
      have hrest := ih [] (by simp)
      refine .frame ?_ hrest
      rw [FramingConfig.split_unlimited hd, hfront, hfirst, Option.map_some, Option.map_some,
        Nat.add_assoc, List.take_length_add_append, List.drop_length_add_append]
      rfl
    | cut hwindow hlength =>
      rw [if_neg fun hsuffix => not_isInfix_take_of_window hwindow hsuffix.isInfix]
      have hcut := firstAt?_eq_map_drop hwindow (by omega)
      have hm' : (bytes.take m).length = m := List.length_take_of_le (by omega)
      -- the bytes cut off go to the front
      have hrest := ih (front ++ bytes.take m)
      rw [List.append_assoc, List.take_append_drop, hfront, hcut, Option.map_map,
        List.length_append, hm'] at hrest
      refine hrest (congrArg (Option.map · _) (funext fun j => ?_))
      exact (Nat.add_assoc front.length m j).symm

end Splits

/-- A frame of limited length holds a delimiter exactly if it ends with one.  Put together again,
the frames of limited length are those without a maximal length, and what is left over of
them is, with the bytes carried over, what is carried over without a maximal length.  So to
cut a frame off divides no delimiter, and it makes, hides or moves none. -/
theorem Framer.rejoin_feed_limited {d : Bytes} (hd : d ≠ []) {m : Nat} (hm : 0 < m) (s : Bytes) :
    let limited := (Framer.create (.delimiter d m true)).feed s
    let unlimited := (Framer.create (.delimiter d 0 true)).feed s
    (∀ frame ∈ limited.1, d <:+: frame ↔ d <:+ frame) ∧
      (rejoin d [] limited.1).1 = unlimited.1 ∧
      (rejoin d [] limited.1).2 ++ limited.2.buffer = unlimited.2.buffer := by
  intro limited unlimited
  have hlimited : Splits (.delimiter d m true) s limited.1 limited.2.buffer :=
    Framer.splits_feed (.create (.delimiter d m true)) s
  have hunlimited : Splits (.delimiter d 0 true) s unlimited.1 unlimited.2.buffer :=
    Framer.splits_feed (.create (.delimiter d 0 true)) s
  have hrejoined := Splits.rejoined hd hm hlimited [] (by simp)
  exact ⟨hlimited.isInfix_iff_isSuffix hd hm, hrejoined.unique hunlimited⟩

/-- The first delimiter reaches beyond the first window.  Its last byte could also begin the
next one, which is then none. -/
theorem Framer.rejoin_feed_limited_overlap :
    let s : Bytes := [0, 3, 4, 1, 2, 1, 2, 1, 9, 1, 2, 8, 8]
    let limited := (Framer.create (.delimiter [1, 2, 1] 2 true)).feed s
    let unlimited := (Framer.create (.delimiter [1, 2, 1] 0 true)).feed s
    limited.1 = [[0, 3], [4, 1, 2, 1], [2, 1], [9, 1]] ∧ limited.2.buffer = [2, 8, 8] ∧
      unlimited.1 = [[0, 3, 4, 1, 2, 1]] ∧ unlimited.2.buffer = [2, 1, 9, 1, 2, 8, 8] ∧
      (∀ frame ∈ limited.1, [1, 2, 1] <:+: frame ↔ [1, 2, 1] <:+ frame) ∧
      (rejoin [1, 2, 1] [] limited.1).1 = unlimited.1 ∧
      (rejoin [1, 2, 1] [] limited.1).2 ++ limited.2.buffer = unlimited.2.buffer := by
  refine ⟨?_, ?_, ?_, ?_, Framer.rejoin_feed_limited (by decide) (by decide) _⟩
  · decide +kernel
  · decide +kernel
  · decide +kernel
  · decide +kernel

end SerialLink
