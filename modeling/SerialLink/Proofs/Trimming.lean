import Mathlib.Data.List.DropRight
import SerialLink.Proofs.Utf8.Pieces
import SerialLink.Text.Blank

/-!
# SerialLink.Proofs.Trimming

What is left when both ends of a list are stripped.

1. A list is bare if nothing at its ends satisfies the test (`Bare`).  What is left of a list is
   bare, and what was taken away satisfies the test (`Trims`); this determines it
   (`trimEnds_eq_iff`).
2. What satisfies the test may be put around a list without a change to what is left
   (`trimEnds_between`).
3. A text whose ends are not blank has no blank bytes at the ends of its encoding, since every
   blank byte is a blank character of its own (`bare_encode`).
-/

namespace SerialLink

variable {α : Type} {p : α → Bool} {xs ys front back : List α}

/-! ## bare lists -/

/-- Nothing at either end of the list satisfies the test. -/
structure Bare (p : α → Bool) (xs : List α) : Prop where
  front : ∀ x ∈ xs.head?, p x = false
  back : ∀ x ∈ xs.getLast?, p x = false

/-- A list without anything that satisfies the test is bare. -/
theorem Bare.of_forall (h : ∀ x ∈ xs, p x = false) : Bare p xs :=
  ⟨fun x hx => h x (List.mem_of_mem_head? hx), fun x hx => h x (List.mem_of_mem_getLast? hx)⟩

theorem dropWhile_of_head? (h : ∀ x ∈ xs.head?, p x = false) : xs.dropWhile p = xs := by
  cases xs with
  | nil => rfl
  | cons x xs => exact List.dropWhile_cons_of_neg (by simp [h x rfl])

theorem head?_dropWhile (p : α → Bool) (xs : List α) :
    ∀ x ∈ (xs.dropWhile p).head?, p x = false := by
  intro x hx
  have h := List.head?_dropWhile_not p xs
  rwa [Option.mem_def.mp hx] at h

/-- Nothing is taken away from a bare list. -/
theorem trimEnds_of_bare (h : Bare p xs) : trimEnds p xs = xs := by
  have hback : ∀ x ∈ xs.reverse.head?, p x = false := by
    rw [List.head?_reverse]
    exact h.back
  rw [trimEnds, dropWhile_of_head? h.front, dropWhile_of_head? hback, List.reverse_reverse]

theorem bare_trimEnds (p : α → Bool) (xs : List α) : Bare p (trimEnds p xs) := by
  constructor
  · intro x hx
    obtain ⟨tail, htail⟩ : trimEnds p xs <+: xs.dropWhile p := List.rdropWhile_prefix p _
    refine head?_dropWhile p xs x ?_
    rw [← htail, List.head?_append, Option.mem_def.mp hx]
    rfl
  · intro x hx
    rw [trimEnds, List.getLast?_reverse] at hx
    exact head?_dropWhile p _ x hx

/-! ## what is taken away -/

/-- `ys` is `xs` without what satisfies the test at its ends. -/
structure Trims (p : α → Bool) (xs ys : List α) : Prop where
  bare : Bare p ys
  around : ∃ front back, xs = front ++ ys ++ back ∧ (∀ x ∈ front, p x) ∧ ∀ x ∈ back, p x

theorem trims_trimEnds (p : α → Bool) (xs : List α) : Trims p xs (trimEnds p xs) := by
  refine ⟨bare_trimEnds p xs, xs.takeWhile p, (xs.dropWhile p).rtakeWhile p, ?_,
    fun x => List.mem_takeWhile_imp, fun x => List.mem_rtakeWhile_imp⟩
  have hright : trimEnds p xs ++ (xs.dropWhile p).rtakeWhile p = xs.dropWhile p :=
    List.rdropWhile_append_rtakeWhile
  rw [List.append_assoc, hright, List.takeWhile_append_dropWhile]

theorem trimEnds_append_left (h : ∀ x ∈ front, p x) (xs : List α) :
    trimEnds p (front ++ xs) = trimEnds p xs := by
  rw [trimEnds, List.dropWhile_append_of_pos h, trimEnds]

theorem trimEnds_append_right (h : ∀ x ∈ back, p x) (xs : List α) :
    trimEnds p (xs ++ back) = trimEnds p xs := by
  have hback : ∀ x ∈ back.reverse, p x := fun x hx => h x (List.mem_reverse.mp hx)
  rw [trimEnds, trimEnds, List.dropWhile_append]
  split
  next hall =>
    rw [List.isEmpty_iff.mp hall, List.dropWhile_eq_nil_iff.mpr h]
  next => rw [List.reverse_append, List.dropWhile_append_of_pos hback]

/-- What satisfies the test may be put around a list. -/
theorem trimEnds_between (hfront : ∀ x ∈ front, p x) (hback : ∀ x ∈ back, p x) (xs : List α) :
    trimEnds p (front ++ xs ++ back) = trimEnds p xs := by
  rw [trimEnds_append_right hback, trimEnds_append_left hfront]

/-- What is left is determined by what it is. -/
theorem trimEnds_eq_iff : trimEnds p xs = ys ↔ Trims p xs ys := by
  constructor
  · rintro rfl
    exact trims_trimEnds p xs
  · rintro ⟨hbare, front, back, rfl, hfront, hback⟩
    rw [trimEnds_between hfront hback, trimEnds_of_bare hbare]

/-- What is left is a piece of the list. -/
theorem Trims.isInfix (h : Trims p xs ys) : ys <:+: xs := by
  obtain ⟨front, back, rfl, -, -⟩ := h.around
  exact List.infix_append front ys back

/-! ## blank characters and blank bytes -/

namespace Text

/-- A blank byte is a blank character. -/
theorem isBlank_of_isBlankByte {b : UInt8} {c : Char} (h : isBlankByte b = true)
    (hb : b ∈ String.utf8EncodeChar c) : isBlank c = true := by
  simp only [isBlankByte, Bool.or_eq_true, beq_iff_eq] at h
  have hcode := Utf8.eq_or_le_of_mem_encodeChar hb
  have hc : c.toNat = b.toNat := by
    obtain (((rfl | rfl) | rfl) | rfl) | rfl := h <;> simp at hcode ⊢ <;> omega
  obtain (((rfl | rfl) | rfl) | rfl) | rfl := h <;> simp [isBlank, blankRanges, hc]

/-- The ends of an encoded text are not blank if those of the text are not. -/
theorem bare_encode {cs : List Char} (h : Bare isBlank cs) : Bare isBlankByte (Utf8.encode cs) := by
  constructor
  · intro b hb
    obtain ⟨c, hc, hmem⟩ := Utf8.exists_of_head?_encode hb
    exact Bool.eq_false_iff.mpr fun hblank =>
      Bool.eq_false_iff.mp (h.front c hc) (isBlank_of_isBlankByte hblank hmem)
  · intro b hb
    obtain ⟨c, hc, hmem⟩ := Utf8.exists_of_getLast?_encode hb
    exact Bool.eq_false_iff.mpr fun hblank =>
      Bool.eq_false_iff.mp (h.back c hc) (isBlank_of_isBlankByte hblank hmem)

end Text

end SerialLink
