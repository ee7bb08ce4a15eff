import SerialLink.Clock

/-!
# SerialLink.Proofs.Readings

The order of the readings that clocks give.

1. `Reading.Ordered p` — among the readings that satisfy `p`, `Reading.le` compares any two
   of them and is transitive, and `Reading.lt` is its strict part.
2. Floats are ordered as long as they are numbers (`Reading.ordered_float`).  Each unpacked
   float has a rank of three integers, its class before its exponent before its mantissa,
   and two floats that are numbers compare as their ranks do.
3. Rational readings are all ordered (`Reading.ordered_rat`).
4. `Clock.All p` — whatever the clock is asked, it gives readings that satisfy `p`.
-/

namespace SerialLink

/-! ## orders -/

/-- The readings that satisfy `p` are ordered. -/
structure Reading.Ordered {τ : Type} [Reading τ] (p : τ → Prop) : Prop where
  le_total {a b : τ} : p a → p b → Reading.le a b = true ∨ Reading.le b a = true
  le_trans {a b c : τ} : p a → p b → p c →
    Reading.le a b = true → Reading.le b c = true → Reading.le a c = true
  lt_iff {a b : τ} : p a → p b → (Reading.lt a b = true ↔ ¬ Reading.le b a = true)

/-- A reading that is not before another is at or after it. -/
theorem Reading.Ordered.le_of_not_lt {τ : Type} [Reading τ] {p : τ → Prop} {a b : τ}
    (h : Reading.Ordered p) (ha : p a) (hb : p b) (hlt : ¬ Reading.lt a b = true) :
    Reading.le b a = true := by
  rw [h.lt_iff ha hb] at hlt
  exact Decidable.not_not.mp hlt

theorem Reading.Ordered.le_of_lt {τ : Type} [Reading τ] {p : τ → Prop} {a b : τ}
    (h : Reading.Ordered p) (ha : p a) (hb : p b) (hlt : Reading.lt a b = true) :
    Reading.le a b = true :=
  (h.le_total ha hb).resolve_right ((h.lt_iff ha hb).mp hlt)

theorem Reading.Ordered.mono {τ : Type} [Reading τ] {p q : τ → Prop}
    (h : Reading.Ordered q) (hpq : ∀ t, p t → q t) : Reading.Ordered p where
  le_total ha hb := h.le_total (hpq _ ha) (hpq _ hb)
  le_trans ha hb hc := h.le_trans (hpq _ ha) (hpq _ hb) (hpq _ hc)
  lt_iff ha hb := h.lt_iff (hpq _ ha) (hpq _ hb)

theorem Reading.Ordered.le_refl {τ : Type} [Reading τ] {p : τ → Prop} {a : τ}
    (h : Reading.Ordered p) (ha : p a) : Reading.le a a = true :=
  (h.le_total ha ha).elim id id

/-- Rational readings are ordered. -/
theorem Reading.ordered_rat : Reading.Ordered fun _ : Rat => True where
  le_total _ _ := by simpa [Reading.le] using Rat.le_total
  le_trans _ _ _ hab hbc := by
    simp only [Reading.le, decide_eq_true_eq] at hab hbc ⊢
    exact Rat.le_trans hab hbc
  lt_iff _ _ := by
    simp only [Reading.le, Reading.lt, decide_eq_true_eq]
    exact Rat.not_le.symm

/-! ## floats -/

section

open Float.Model

/-- Where an unpacked float stands among the numbers: its class, from minus infinity up to
infinity, then its exponent and its mantissa, both negated below zero. -/
def floatRank : UnpackedFloat → Int × Int × Int
  | .notANumber => (3, 0, 0)
  | .infinity .negative => (-2, 0, 0)
  | .finite .negative m e _ => (-1, -e, -m)
  | .zero _ => (0, 0, 0)
  | .finite .positive m e _ => (1, e, m)
  | .infinity .positive => (2, 0, 0)

/-- Ranks are compared part by part. -/
def compareRanks (a b : Int × Int × Int) : Ordering :=
  (compare a.1 b.1).then ((compare a.2.1 b.2.1).then (compare a.2.2 b.2.2))

/-- The first rank is the lower one. -/
def RankBefore (a b : Int × Int × Int) : Prop :=
  a.1 < b.1 ∨ a.1 = b.1 ∧ (a.2.1 < b.2.1 ∨ a.2.1 = b.2.1 ∧ a.2.2 < b.2.2)

instance (a b : Int × Int × Int) : Decidable (RankBefore a b) :=
  inferInstanceAs (Decidable (_ ∨ _))

theorem compareRanks_eq_lt (a b : Int × Int × Int) :
    compareRanks a b = .lt ↔ RankBefore a b := by
  simp only [compareRanks, RankBefore, Ordering.then_eq_lt, Int.compare_eq_lt, Int.compare_eq_eq]

theorem isLE_compareRanks (a b : Int × Int × Int) :
    (compareRanks a b).isLE = true ↔ ¬ RankBefore b a := by
  rw [← Ordering.ne_gt_iff_isLE]
  simp only [compareRanks, RankBefore, Ordering.then_eq_gt, Int.compare_eq_gt,
    Int.compare_eq_eq]
  omega

theorem compare_natCast (m n : Nat) : compare (m : Int) (n : Int) = compare m n := by
  rcases Nat.lt_trichotomy m n with h | h | h
  · rw [Nat.compare_eq_lt.mpr h, Int.compare_eq_lt.mpr (by omega)]
  · rw [Nat.compare_eq_eq.mpr h, Int.compare_eq_eq.mpr (by omega)]
  · rw [Nat.compare_eq_gt.mpr h, Int.compare_eq_gt.mpr (by omega)]

theorem compare_neg (a b : Int) : compare (-a) (-b) = (compare a b).swap := by
  rcases Int.lt_trichotomy a b with h | h | h
  · rw [Int.compare_eq_lt.mpr h, Int.compare_eq_gt.mpr (by omega)]
    rfl
  · rw [Int.compare_eq_eq.mpr h, Int.compare_eq_eq.mpr (by omega)]
    rfl
  · rw [Int.compare_eq_gt.mpr h, Int.compare_eq_lt.mpr (by omega)]
    rfl

/-- Floats that are numbers compare as their ranks do. -/
theorem compare_unpacked {a b : UnpackedFloat} (ha : a.isNaN = false) (hb : b.isNaN = false) :
    a.compare b = some (compareRanks (floatRank a) (floatRank b)) := by
  rcases a with ⟨_ | _⟩ | _ | _ | ⟨⟨_ | _⟩, m, e, hm⟩ <;>
    rcases b with ⟨_ | _⟩ | _ | _ | ⟨⟨_ | _⟩, n, f, hn⟩ <;>
    first
      | cases ha; done
      | cases hb; done
      | rfl
      | skip
  · have hcompare : (compare (-e) (-f)).then (compare (-m : Int) (-n)) =
        ((compare e f).then (compare m n)).swap := by
      rw [compare_neg, compare_neg, compare_natCast, Ordering.swap_then]
    exact congrArg some hcompare.symm
  · have hcompare : (compare e f).then (compare (m : Int) n) =
        (compare e f).then (compare m n) := by
      rw [compare_natCast]
    exact congrArg some hcompare.symm

/-- A number is below another if its rank is. -/
theorem unpacked_lt_iff {a b : UnpackedFloat} (ha : a.isNaN = false) (hb : b.isNaN = false) :
    a.lt b = true ↔ RankBefore (floatRank a) (floatRank b) := by
  show (a.compare b == some .lt) = true ↔ _
  rw [compare_unpacked ha hb, beq_iff_eq, Option.some_inj, compareRanks_eq_lt]

/-- A number is at or below another unless the rank of the other is the lower one. -/
theorem unpacked_le_iff {a b : UnpackedFloat} (ha : a.isNaN = false) (hb : b.isNaN = false) :
    a.le b = true ↔ ¬ RankBefore (floatRank b) (floatRank a) := by
  show (a.compare b).any (·.isLE) = true ↔ _
  rw [compare_unpacked ha hb, ← isLE_compareRanks]
  rfl

theorem not_rankBefore_trans {a b c : Int × Int × Int} (hab : ¬ RankBefore b a)
    (hbc : ¬ RankBefore c b) : ¬ RankBefore c a := by
  simp only [RankBefore] at hab hbc ⊢
  omega

theorem not_rankBefore_total (a b : Int × Int × Int) : ¬ RankBefore b a ∨ ¬ RankBefore a b := by
  simp only [RankBefore]
  omega

theorem float_lt_iff {a b : Float} (ha : a.isNaN = false) (hb : b.isNaN = false) :
    Reading.lt a b = true ↔
      RankBefore (floatRank a.toModel.unpack) (floatRank b.toModel.unpack) := by
  have hlt : a < b ↔ a.toModel.unpack.lt b.toModel.unpack = true := decide_eq_true_iff
  rw [← unpacked_lt_iff ha hb, ← hlt]
  exact decide_eq_true_iff

theorem float_le_iff {a b : Float} (ha : a.isNaN = false) (hb : b.isNaN = false) :
    Reading.le a b = true ↔
      ¬ RankBefore (floatRank b.toModel.unpack) (floatRank a.toModel.unpack) := by
  have hle : a ≤ b ↔ a.toModel.unpack.le b.toModel.unpack = true := decide_eq_true_iff
  rw [← unpacked_le_iff ha hb, ← hle]
  exact decide_eq_true_iff

end

/-- Floats that are numbers are ordered. -/
theorem Reading.ordered_float : Reading.Ordered fun t : Float => t.isNaN = false where
  le_total ha hb := by
    rw [float_le_iff ha hb, float_le_iff hb ha]
    exact not_rankBefore_total _ _
  le_trans ha hb hc hab hbc := by
    rw [float_le_iff ha hb] at hab
    rw [float_le_iff hb hc] at hbc
    rw [float_le_iff ha hc]
    exact not_rankBefore_trans hab hbc
  lt_iff ha hb := by rw [float_lt_iff ha hb, float_le_iff hb ha, Classical.not_not]

/-- Every finite float is a number. -/
theorem Reading.isNaN_of_isFinite {t : Float} (h : t.isFinite = true) : t.isNaN = false := by
  have hfin : t.toModel.unpack.isFinite = true := h
  show t.toModel.unpack.isNaN = false
  cases hunpack : t.toModel.unpack with
  | notANumber => rw [hunpack] at hfin; cases hfin
  | infinity s => rfl
  | zero s => rfl
  | finite s m e hm => rfl

/-- No finite float is the lowest reading. -/
theorem Reading.isLowest_of_isFinite {t : Float} (h : t.isFinite = true) :
    Reading.isLowest t = false := by
  have hlow : (-1.0 / 0.0 : Float).toModel.unpack = .infinity .negative := by rfl
  have hfin : t.toModel.unpack.isFinite = true := h
  show (t.toModel.unpack.compare (-1.0 / 0.0 : Float).toModel.unpack == some .eq) = false
  rw [hlow]
  cases h : t.toModel.unpack with
  | infinity s => rw [h] at hfin; cases hfin
  | notANumber => rw [h] at hfin; cases hfin
  | zero s => rfl
  | finite s m e hm => cases s <;> rfl

/-- Of the numbers, minus infinity is the one that is not above minus infinity. -/
theorem Reading.isLowest_iff {t : Float} (ht : t.isNaN = false) :
    Reading.isLowest t = true ↔ Reading.le t (-1.0 / 0.0) = true := by
  have hlow : (-1.0 / 0.0 : Float).toModel.unpack = .infinity .negative := by rfl
  have hnumber : t.toModel.unpack.isNaN = false := ht
  have hle : t ≤ -1.0 / 0.0 ↔
      t.toModel.unpack.le (-1.0 / 0.0 : Float).toModel.unpack = true := decide_eq_true_iff
  have hlowest : Reading.isLowest t =
      (t.toModel.unpack.compare (-1.0 / 0.0 : Float).toModel.unpack == some .eq) := rfl
  rw [hlowest, Reading.le, instReadingFloat, decide_eq_true_iff, hle, hlow]
  cases hunpack : t.toModel.unpack with
  | notANumber => rw [hunpack] at hnumber; contradiction
  | infinity s => cases s <;> exact Iff.rfl
  | zero s => exact Iff.rfl
  | finite s m e hm => cases s <;> exact Iff.rfl

/-- No float is at or before what is not a number. -/
theorem Reading.le_of_isNaN {t : Float} (h : t.isNaN = true) (u : Float) :
    Reading.le u t = false := by
  have hnan : t.toModel.unpack.isNaN = true := h
  have hle : u ≤ t ↔ u.toModel.unpack.le t.toModel.unpack = true := decide_eq_true_iff
  have hcompare : u.toModel.unpack.le t.toModel.unpack = false := by
    cases ht : t.toModel.unpack with
    | notANumber => cases u.toModel.unpack <;> rfl
    | infinity s => rw [ht] at hnan; cases hnan
    | zero s => rw [ht] at hnan; cases hnan
    | finite s m e hm => rw [ht] at hnan; cases hnan
  refine decide_eq_false fun hbefore => ?_
  rw [hle.mp hbefore] at hcompare
  cases hcompare

/-! ## clocks -/

namespace Clock

variable {τ : Type} {p : τ → Prop} {c : Clock τ}

/-- All readings that the clock gives satisfy `p`. -/
structure All (p : τ → Prop) (c : Clock τ) : Prop where
  current : p c.current
  queued : ∀ t ∈ c.queued, p t

/-- The reading of a clock is one of those that it gives. -/
theorem All.read (h : c.All p) : p c.read.1 ∧ c.read.2.All p := by
  obtain ⟨now, queued⟩ := c
  cases queued with
  | nil => exact ⟨h.current, h⟩
  | cons t ts =>
    have ht : p t := h.queued t List.mem_cons_self
    exact ⟨ht, ht, fun u hu => h.queued u (List.mem_cons_of_mem t hu)⟩

end Clock

end SerialLink
