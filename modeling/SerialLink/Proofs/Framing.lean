import SerialLink.Framing

/-!
# SerialLink.Proofs.Framing

How bytes are split into frames, however they arrive.

1. `firstAt?` gives the first occurrence, and what is appended to a list does not move it
   (`firstAt?_append`).
2. `Splits` is the relation between bytes, their frames and what is carried over;
   `Framer.feed` computes it (`Framer.splits_feed`), and it is a function (`Splits.unique`).
3. A framing is `Stable` if bytes to come leave a complete frame as it is.  Delimiter
   framing is (`stable_delimiter`), raw framing is not.  Under a stable framing the frames
   do not depend on how the bytes are divided (`Framer.feed_append`).
4. Whatever the framing, frames are pieces of the bytes (`Splits.isInfix`), and what is carried
   over is their end (`Splits.suffix`).
-/

namespace SerialLink

/-! ## occurrences -/

section

variable {α : Type} {d xs ys : List α} {i k n : Nat}

/-- An occurrence lies within the list. -/
theorem OccursAt.add_length_le (h : OccursAt d xs i) (hi : i ≤ xs.length) :
    i + d.length ≤ xs.length := by
  have := h.length_le
  rw [List.length_drop] at this
  omega

/-- An occurrence is one in any longer list. -/
theorem OccursAt.append (h : OccursAt d xs i) (hi : i ≤ xs.length) : OccursAt d (xs ++ ys) i := by
  unfold OccursAt
  rw [List.drop_append_of_le_length hi]
  exact h.trans (List.prefix_append _ _)

/-- An occurrence in a longer list that ends within the list is one in the list. -/
theorem OccursAt.of_append (h : OccursAt d (xs ++ ys) i) (hi : i + d.length ≤ xs.length) :
    OccursAt d xs i := by
  unfold OccursAt at h ⊢
  rw [List.drop_append_of_le_length (by omega)] at h
  exact List.prefix_of_prefix_length_le h (List.prefix_append _ _)
    (by rw [List.length_drop]; omega)

variable [BEq α] [LawfulBEq α]

theorem firstAtFrom?_eq_some_iff : firstAtFrom? d k xs = some n ↔
    ∃ i ≤ xs.length, n = k + i ∧ OccursAt d xs i ∧ ∀ j < i, ¬ OccursAt d xs j := by
  induction xs generalizing k with
  | nil =>
    unfold firstAtFrom?
    by_cases hd : d <+: []
    · rw [if_pos (List.isPrefixOf_iff_prefix.mpr hd)]
      constructor
      · rintro ⟨⟩
        exact ⟨0, Nat.le_refl 0, rfl, hd, fun j hj => absurd hj (Nat.not_lt_zero j)⟩
      · rintro ⟨i, hi, rfl, -, -⟩
        rw [Nat.le_zero.mp hi, Nat.add_zero]
    · rw [if_neg (mt List.isPrefixOf_iff_prefix.mp hd)]
      refine ⟨nofun, ?_⟩
      rintro ⟨i, -, -, hocc, -⟩
      exact absurd (by simpa [OccursAt] using hocc) hd
  | cons x xs ih =>
    unfold firstAtFrom?
    by_cases hd : d <+: x :: xs
    · rw [if_pos (List.isPrefixOf_iff_prefix.mpr hd)]
      constructor
      · rintro ⟨⟩
        exact ⟨0, Nat.zero_le _, rfl, hd, fun j hj => absurd hj (Nat.not_lt_zero j)⟩
      · rintro ⟨i, -, rfl, -, hfirst⟩
        cases i with
        | zero => rfl
        | succ i => exact absurd hd (hfirst 0 (Nat.succ_pos i))
    · rw [if_neg (mt List.isPrefixOf_iff_prefix.mp hd), ih]
      -- an occurrence in the tail is one in the list, one place further on
      constructor
      · rintro ⟨i, hi, rfl, hocc, hfirst⟩
        refine ⟨i + 1, Nat.succ_le_succ hi, by omega, hocc, fun j hj => ?_⟩
        cases j with
        | zero => exact hd
        | succ j => exact hfirst j (Nat.lt_of_succ_lt_succ hj)
      · rintro ⟨i, hi, rfl, hocc, hfirst⟩
        cases i with
        | zero => exact absurd hocc hd
        | succ i =>
          exact ⟨i, Nat.le_of_succ_le_succ hi, by omega, hocc,
            fun j hj => hfirst (j + 1) (Nat.succ_lt_succ hj)⟩

/-- `firstAt?` gives the first occurrence. -/
theorem firstAt?_eq_some_iff :
    firstAt? d xs = some i ↔ i ≤ xs.length ∧ OccursAt d xs i ∧ ∀ j < i, ¬ OccursAt d xs j := by
  unfold firstAt?
  rw [firstAtFrom?_eq_some_iff]
  constructor
  · rintro ⟨j, hj, rfl, h⟩
    rw [Nat.zero_add]
    exact ⟨hj, h⟩
  · rintro ⟨hi, h⟩
    exact ⟨i, hi, (Nat.zero_add i).symm, h⟩

/-- What is appended does not move the first occurrence. -/
theorem firstAt?_append (h : firstAt? d xs = some i) : firstAt? d (xs ++ ys) = some i := by
  obtain ⟨hi, hocc, hfirst⟩ := firstAt?_eq_some_iff.mp h
  have hend := hocc.add_length_le hi
  refine firstAt?_eq_some_iff.mpr ⟨?_, hocc.append hi, fun j hj hj' => ?_⟩
  · rw [List.length_append]; omega
  · exact hfirst j hj (hj'.of_append (by omega))

theorem firstAt?_add_length_le (h : firstAt? d xs = some i) : i + d.length ≤ xs.length := by
  obtain ⟨hi, hocc, -⟩ := firstAt?_eq_some_iff.mp h
  exact hocc.add_length_le hi

end

/-! ## one frame -/

namespace FramingConfig

variable {c : FramingConfig} {bytes data frame rest : Bytes}

/-- A first frame stands at the front, and what follows it is the end. -/
theorem split_eq (h : c.split bytes = some (frame, rest)) :
    ∃ n m, frame = bytes.take n ∧ rest = bytes.drop m ∧ n ≤ m ∧ 0 < m ∧ m ≤ bytes.length := by
  unfold split at h
  split at h
  · cases h
  next hne =>
    have hpos : 0 < bytes.length := by
      rw [List.length_pos_iff]; intro h0; simp [h0] at hne
    split at h
    next b d maxLength keep =>
      unfold splitDelimited at h
      dsimp only at h
      split at h
      next i hi =>
        obtain ⟨rfl, rfl⟩ := Prod.mk.inj (Option.some.inj h)
        have hle := firstAt?_add_length_le hi
        refine ⟨_, _, rfl, rfl, ?_, ?_, ?_⟩
        · split <;> omega
        · rw [List.length_cons]; omega
        · split at hle
          · exact hle
          · rw [List.length_take] at hle; omega
      next =>
        split at h
        next hw =>
          obtain ⟨rfl, rfl⟩ := Prod.mk.inj (Option.some.inj h)
          exact ⟨_, _, rfl, rfl, Nat.le_refl _, hw.1, by omega⟩
        · cases h
    next =>
      obtain ⟨rfl, rfl⟩ := Prod.mk.inj (Option.some.inj h)
      exact ⟨bytes.length, bytes.length, by simp, by simp, Nat.le_refl _, hpos, Nat.le_refl _⟩

/-- Splitting a frame off takes at least one byte. -/
theorem length_lt_of_split (h : c.split bytes = some (frame, rest)) :
    rest.length < bytes.length := by
  obtain ⟨n, m, -, rfl, -, hm, hle⟩ := split_eq h
  rw [List.length_drop]
  omega

/-- What is left when a frame was split off is the end of the bytes. -/
theorem split_isSuffix (h : c.split bytes = some (frame, rest)) : rest <:+ bytes := by
  obtain ⟨n, m, -, rfl, -, -, -⟩ := split_eq h
  exact List.drop_suffix m bytes

/-- A frame is the front of the bytes it is split off from. -/
theorem split_isPrefix (h : c.split bytes = some (frame, rest)) : frame <+: bytes := by
  obtain ⟨n, m, rfl, -, -, -, -⟩ := split_eq h
  exact List.take_prefix n bytes

/-- Bytes to come leave a complete frame as it is. -/
def Stable (c : FramingConfig) : Prop :=
  ∀ {bytes frame rest : Bytes} (data : Bytes), c.split bytes = some (frame, rest) →
    c.split (bytes ++ data) = some (frame, rest ++ data)

end FramingConfig

/-- Bytes to come leave the window as it is, or make it longer. -/
theorem take_append_eq (bytes data : Bytes) (n : Nat) :
    ∃ more, (bytes ++ data).take n = bytes.take n ++ more := by
  refine ⟨data.take (n - bytes.length), ?_⟩
  rw [List.take_append]

theorem splitDelimited_append {d bytes frame rest : Bytes} {maxLength : Nat} {keep : Bool}
    (data : Bytes) (h : splitDelimited d maxLength keep bytes = some (frame, rest)) :
    splitDelimited d maxLength keep (bytes ++ data) = some (frame, rest ++ data) := by
  unfold splitDelimited at h ⊢
  dsimp only at h ⊢
  cases hi : firstAt? d (if maxLength = 0 then bytes else bytes.take (maxLength + d.length)) with
  | some i =>
    rw [hi] at h
    obtain ⟨rfl, rfl⟩ := Prod.mk.inj (Option.some.inj h)
    have hstop : i + d.length ≤ bytes.length := by
      have := firstAt?_add_length_le hi
      split at this
      · exact this
      · rw [List.length_take] at this; omega
    have hlong : firstAt? d (if maxLength = 0 then bytes ++ data
        else (bytes ++ data).take (maxLength + d.length)) = some i := by
      split
      next h0 => rw [if_pos h0] at hi; exact firstAt?_append hi
      next h0 =>
        rw [if_neg h0] at hi
        obtain ⟨more, hmore⟩ := take_append_eq bytes data (maxLength + d.length)
        rw [hmore]
        exact firstAt?_append hi
    rw [hlong]
    have htake : (if keep = true then i + d.length else i) ≤ bytes.length := by split <;> omega
    simp only [List.take_append_of_le_length htake, List.drop_append_of_le_length hstop]
  | none =>
    rw [hi] at h
    dsimp only at h
    split at h
    next hw =>
      -- the window is full, so that it is the same with the bytes to come
      obtain ⟨rfl, rfl⟩ := Prod.mk.inj (Option.some.inj h)
      have h0 : maxLength ≠ 0 := by omega
      rw [if_neg h0] at hi ⊢
      rw [List.take_append_of_le_length hw.2, hi, if_pos ⟨hw.1, by rw [List.length_append]; omega⟩,
        List.take_append_of_le_length (by omega), List.drop_append_of_le_length (by omega)]
    · cases h

/-- Delimiter framing is stable. -/
theorem FramingConfig.stable_delimiter {d : Bytes} (hd : d ≠ []) (maxLength : Nat) (keep : Bool) :
    (FramingConfig.delimiter d maxLength keep).Stable := by
  intro bytes frame rest data h
  obtain ⟨b, d, rfl⟩ := List.exists_cons_of_ne_nil hd
  unfold split at h ⊢
  split at h
  · cases h
  next hne =>
    rw [if_neg (by simpa using fun h0 => absurd h0 (by simpa using hne))]
    exact splitDelimited_append data h

theorem FramingConfig.windowFits_delimiter_iff {d : Bytes} {maxLength : Nat} {keep : Bool} :
    (FramingConfig.delimiter d maxLength keep).windowFits = true ↔
      maxLength = 0 ∨ maxLength + d.length < UInt64.size := by
  unfold windowFits window
  by_cases h0 : maxLength = 0
  · simp [h0]
  · simp [h0]

theorem FramingConfig.windowFits_delimiter {d : Bytes} {maxLength : Nat} (keep : Bool)
    (h : maxLength + d.length < UInt64.size) :
    (FramingConfig.delimiter d maxLength keep).windowFits = true :=
  windowFits_delimiter_iff.mpr (.inr h)

/-! ## all frames -/

/-- The bytes have these frames, one after the other, and the last bytes are carried over. -/
inductive Splits (c : FramingConfig) : Bytes → List Bytes → Bytes → Prop
  | done {bytes : Bytes} (h : c.split bytes = none) : Splits c bytes [] bytes
  | frame {bytes frame rest last : Bytes} {frames : List Bytes}
      (h : c.split bytes = some (frame, rest)) (hrest : Splits c rest frames last) :
      Splits c bytes (frame :: frames) last

namespace Splits

variable {c : FramingConfig} {bytes data last last' : Bytes} {frames frames' : List Bytes}

/-- Bytes have one sequence of frames only. -/
theorem unique (h : Splits c bytes frames last) (h' : Splits c bytes frames' last') :
    frames = frames' ∧ last = last' := by
  induction h generalizing frames' with
  | done hnone =>
    cases h' with
    | done => exact ⟨rfl, rfl⟩
    | frame hsome => rw [hnone] at hsome; cases hsome
  | frame hsome _ ih =>
    cases h' with
    | done hnone => rw [hnone] at hsome; cases hsome
    | frame hsome' hrest' =>
      rw [hsome] at hsome'
      obtain ⟨rfl, rfl⟩ := Prod.mk.inj (Option.some.inj hsome')
      obtain ⟨rfl, rfl⟩ := ih hrest'
      exact ⟨rfl, rfl⟩

/-- With enough steps all frames are split off. -/
theorem splitAll (c : FramingConfig) {fuel : Nat} (h : bytes.length ≤ fuel) :
    Splits c bytes (c.splitAll fuel bytes).1 (c.splitAll fuel bytes).2 := by
  induction fuel generalizing bytes with
  | zero =>
    have hnil : bytes = [] := List.eq_nil_of_length_eq_zero (Nat.le_zero.mp h)
    subst hnil
    exact done rfl
  | succ fuel ih =>
    unfold FramingConfig.splitAll
    cases hsplit : c.split bytes with
    | none => exact done hsplit
    | some p =>
      obtain ⟨frame, rest⟩ := p
      have := FramingConfig.length_lt_of_split hsplit
      exact .frame hsplit (ih (by omega))

/-- Under a stable framing, bytes to come are framed with what is carried over. -/
theorem append (hc : c.Stable) (h : Splits c bytes frames last)
    (h' : Splits c (last ++ data) frames' last') :
    Splits c (bytes ++ data) (frames ++ frames') last' := by
  induction h with
  | done => exact h'
  | frame hsplit _ ih => exact .frame (hc data hsplit) (ih h')

/-- What is carried over is the end of the bytes. -/
theorem suffix (h : Splits c bytes frames last) : last <:+ bytes := by
  induction h with
  | done => exact List.suffix_refl _
  | frame hsplit _ ih => exact ih.trans (FramingConfig.split_isSuffix hsplit)

/-- Frames are pieces of the bytes. -/
theorem isInfix (h : Splits c bytes frames last) : ∀ f ∈ frames, f <:+: bytes := by
  induction h with
  | done => exact fun f hf => absurd hf List.not_mem_nil
  | frame hsplit _ ih =>
    intro f hf
    cases List.mem_cons.mp hf with
    | inl heq => exact heq ▸ (FramingConfig.split_isPrefix hsplit).isInfix
    | inr hmem => exact (ih f hmem).trans (FramingConfig.split_isSuffix hsplit).isInfix

end Splits

namespace Framer

variable {f : Framer}

/-- The framing of a framer does not change. -/
@[simp] theorem config_feed (f : Framer) (data : Bytes) : (f.feed data).2.config = f.config := rfl

/-- Feeding splits all frames off. -/
theorem splits_feed (f : Framer) (data : Bytes) :
    Splits f.config (f.buffer ++ data) (f.feed data).1 (f.feed data).2.buffer :=
  Splits.splitAll f.config (Nat.le_refl _)

/-- What feeding gives, in terms of the relation. -/
theorem feed_eq_of_splits {data last : Bytes} {frames : List Bytes}
    (h : Splits f.config (f.buffer ++ data) frames last) :
    f.feed data = (frames, { f with buffer := last }) := by
  obtain ⟨h₁, h₂⟩ := (splits_feed f data).unique h
  rw [← h₁, ← h₂]
  rfl

/-- Under a stable framing, to feed bytes in two parts is to feed them at once. -/
theorem feed_append (hc : f.config.Stable) (a b : Bytes) :
    f.feed (a ++ b) = ((f.feed a).1 ++ ((f.feed a).2.feed b).1, ((f.feed a).2.feed b).2) := by
  have ha := splits_feed f a
  have hb := splits_feed (f.feed a).2 b
  rw [config_feed] at hb
  have hab := ha.append hc hb
  rw [List.append_assoc] at hab
  rw [feed_eq_of_splits hab]
  rfl

end Framer

end SerialLink
