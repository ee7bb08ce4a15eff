import Mathlib.Algebra.Group.Nat.Defs
import SerialLink.Proofs.Readings

/-!
# SerialLink.Proofs.Readings.Difference

The difference of two floats.

1. To round what is not zero, at an exponent that is not too low, does not give zero
   (`exists_round`), and to pack the result keeps its sign (`isNegative_unpack_pack`).
2. Floats as they are stored have one mantissa and one exponent for each number (`Stored`), so
   that they compare as their mantissas do when brought to a common exponent
   (`shiftLeft_lt_iff`).
3. So the difference of two numbers is below zero exactly if the first is below the second
   (`Reading.soonAfter_zero`): no difference is too small to be seen.
-/

namespace SerialLink

namespace Difference

open Float.Model UnpackedFloat
open Float.Model.UnpackedFloat (pack unpack)

/-! ## rounding -/

/-- A mantissa and an exponent within the bounds of a float. -/
structure Fits (m : Nat) (e : Int) : Prop where
  pos : 0 < m
  lt : m < 2 ^ 53
  le : -1074 ≤ e

/-- A mantissa within the bounds that is as long as it can be: it is shorter only at the
lowest exponent. -/
structure FitsFully (m : Nat) (e : Int) : Prop extends Fits m e where
  long : e = -1074 ∨ 2 ^ 52 ≤ m

theorem targetExponent_eq (total : Int) :
    Format.binary64.targetExponent total = max (total - 53) (-1074) := by
  simp only [Format.targetExponent]
  rfl

theorem mantissa_shiftRight (em : ExtendedMantissa) (k : Nat) :
    (em >>> k).mantissa = em.mantissa / 2 ^ k := by
  induction k with
  | zero => simp [HShiftRight.hShiftRight, Nat.repeat]
  | succ k ih =>
    show (em >>> k).shiftRightOne.mantissa = em.mantissa / 2 ^ (k + 1)
    rw [ExtendedMantissa.shiftRightOne, ih, Nat.div_div_eq_div_mul, Nat.pow_succ]

theorem mantissa_ofMantissaAndAccuracy (m : Nat) (a : Accuracy) :
    (ExtendedMantissa.ofMantissaAndAccuracy m a).mantissa = m := by
  cases a with
  | exact => rfl
  | inexact o => cases o <;> rfl

theorem le_roundedMantissa (em : ExtendedMantissa) : em.mantissa ≤ em.roundedMantissa := by
  unfold ExtendedMantissa.roundedMantissa
  cases em.accuracy with
  | exact => exact Nat.le_refl em.mantissa
  | inexact o => cases o <;> simp [Accuracy.roundToNearestEven]

/-- To shift a mantissa to its target exponent brings it within bounds, and does not lose it. -/
theorem fits_shift {m : Nat} {e : Int} (hm : 0 < m) (he : -1074 ≤ e) (a : Accuracy) :
    let shifted := shiftToTargetExponent Format.binary64 m e a
    Fits shifted.1.mantissa shifted.2 := by
  have hlow := Nat.log2_self_le (Nat.ne_of_gt hm)
  have hhigh : m < 2 ^ (m.log2 + 1) := Nat.lt_log2_self
  simp only [shiftToTargetExponent, shiftToExponent, mantissa_shiftRight,
    mantissa_ofMantissaAndAccuracy, targetExponent_eq, totalExponent]
  by_cases hlog : 52 ≤ m.log2
  · have hshift : (max ((m.log2 : Int) + 1 + e - 53) (-1074) - e).toNat = m.log2 - 52 := by omega
    have hsplit : 2 ^ m.log2 = 2 ^ 52 * 2 ^ (m.log2 - 52) := by
      rw [← Nat.pow_add]
      congr 1
      omega
    have hscale := Nat.two_pow_pos (m.log2 - 52)
    rw [hshift]
    refine ⟨Nat.div_pos ?_ hscale, ?_, by omega⟩
    · omega
    · rw [Nat.div_lt_iff_lt_mul hscale]
      rw [Nat.pow_succ] at hhigh
      omega
  · have hshift : (max ((m.log2 : Int) + 1 + e - 53) (-1074) - e).toNat = 0 := by omega
    have hbound : 2 ^ (m.log2 + 1) ≤ 2 ^ 53 := Nat.pow_le_pow_right (by omega) (by omega)
    rw [hshift, Nat.pow_zero, Nat.div_one]
    exact ⟨hm, by omega, by omega⟩

theorem shiftLeft_pos {m : Nat} (hm : 0 < m) (k : Nat) : 0 < m <<< k := by
  rw [Nat.shiftLeft_eq]
  exact Nat.mul_pos hm (Nat.two_pow_pos k)

/-- What is not zero is not rounded to zero. -/
theorem exists_round (s : Sign) {m : Nat} {e : Int} (hm : 0 < m) (he : -1074 ≤ e) :
    ∃ n f hn, UnpackedFloat.round Format.binary64 s m e = .finite s n f hn ∧ Fits n f := by
  unfold UnpackedFloat.round decreaseExponent roundWithAccuracy
  dsimp only
  generalize hk : (e - Format.binary64.targetExponent (totalExponent m e)).toNat = k
  have hlow : -1074 ≤ e - k := by
    rw [targetExponent_eq] at hk
    omega
  have hfirst := fits_shift (shiftLeft_pos hm k) hlow .exact
  dsimp only at hfirst
  have hpos := Nat.lt_of_lt_of_le hfirst.pos (le_roundedMantissa _)
  have hsecond := fits_shift hpos hfirst.le .exact
  dsimp only at hsecond
  rw [dif_neg (Nat.ne_of_gt hsecond.pos)]
  exact ⟨_, _, _, rfl, hsecond⟩

/-! ## signs -/

/-- An unpacked float below zero. -/
def isNegative : UnpackedFloat → Bool
  | .infinity .negative | .finite .negative .. => true
  | _ => false

theorem lt_zero (a : UnpackedFloat) (s : Sign) : a.lt (.zero s) = isNegative a := by
  cases a with
  | notANumber => rfl
  | infinity s => cases s <;> rfl
  | zero s => rfl
  | finite s m e hm => cases s <;> rfl

/-- An unpacked float that can be packed. -/
def Packs : UnpackedFloat → Prop
  | .finite _ m e _ => Fits m e
  | _ => True

/-- To normalize gives the sign, and a float that can be packed. -/
theorem normalize_packs {e : Int} (he : -1074 ≤ e) (m : Int) (s : Sign) :
    Packs (UnpackedFloat.normalize Format.binary64 m e s) ∧
      isNegative (UnpackedFloat.normalize Format.binary64 m e s) = decide (m < 0) := by
  unfold UnpackedFloat.normalize
  rcases Int.lt_trichotomy m 0 with hm | rfl | hm
  · obtain ⟨n, f, hn, hround, hfits⟩ :=
      exists_round .negative (m := (-m).toNat) (e := e) (by omega) he
    rw [Int.compare_eq_lt.mpr hm]
    dsimp only
    rw [hround]
    exact ⟨hfits, (decide_eq_true hm).symm⟩
  · exact ⟨trivial, rfl⟩
  · obtain ⟨n, f, hn, hround, hfits⟩ :=
      exists_round .positive (m := m.toNat) (e := e) (by omega) he
    have hnot : ¬ m < 0 := by omega
    rw [Int.compare_eq_gt.mpr hm]
    dsimp only
    rw [hround]
    exact ⟨hfits, (decide_eq_false hnot).symm⟩

theorem ofBitVec_unpackSign (s : Sign) (exponent : BitVec 11) (mantissa : BitVec 52) :
    Sign.ofBitVec (unpackSign (packComponents Format.binary64 s exponent mantissa)) = s := by
  have hbit : unpackSign (packComponents Format.binary64 s exponent mantissa) = s.toBitVec := by
    show (s.toBitVec ++ exponent ++ mantissa).extractLsb' 63 1 = s.toBitVec
    rw [BitVec.extractLsb'_append_eq_of_le (by omega),
      BitVec.extractLsb'_append_eq_of_le (by omega)]
    cases s <;> rfl
  rw [hbit]
  cases s <;> rfl

/-- The bits of what is neither zero nor without a number stand for something of their sign. -/
theorem isNegative_unpack {b : BitVec 64} (hlast : @unpackExponent Format.binary64 b ≠ -1#_)
    (hzero : @unpackExponent Format.binary64 b ≠ 0#_ ∨ @unpackMantissa Format.binary64 b ≠ 0#_) :
    isNegative (unpack Format.binary64 b) =
      isNegative (.infinity (.ofBitVec (@unpackSign Format.binary64 b))) := by
  unfold UnpackedFloat.unpack
  dsimp only
  rw [if_neg hlast]
  generalize Sign.ofBitVec (@unpackSign Format.binary64 b) = s
  by_cases hexponent : @unpackExponent Format.binary64 b = 0#_
  · rw [if_pos hexponent, dif_neg (hzero.resolve_left (not_not_intro hexponent))]
    cases s <;> rfl
  · rw [if_neg hexponent]
    cases s <;> rfl

theorem isNegative_unpack_packComponents (s : Sign) {exponent : BitVec 11} {mantissa : BitVec 52}
    (hlast : exponent ≠ -1#_) (hzero : exponent ≠ 0#_ ∨ mantissa ≠ 0#_) :
    isNegative (unpack Format.binary64 (packComponents Format.binary64 s exponent mantissa)) =
      isNegative (.infinity s) := by
  rw [isNegative_unpack, ofBitVec_unpackSign]
  · rwa [unpackExponent_packComponents]
  · rwa [unpackExponent_packComponents, unpackMantissa_packComponents]

theorem ofNat_ne {w m n : Nat} (hm : m < 2 ^ w) (hn : n < 2 ^ w) (hne : m ≠ n) :
    BitVec.ofNat w m ≠ BitVec.ofNat w n := by
  intro h
  have hvalue : (BitVec.ofNat w m).toNat = (BitVec.ofNat w n).toNat := congrArg BitVec.toNat h
  rw [BitVec.toNat_ofNat, BitVec.toNat_ofNat, Nat.mod_eq_of_lt hm, Nat.mod_eq_of_lt hn] at hvalue
  exact hne hvalue

/-- What is packed is unpacked with the same sign, and it does not become zero. -/
theorem isNegative_unpack_pack {a : UnpackedFloat} (ha : Packs a) :
    isNegative (unpack Format.binary64 (pack Format.binary64 a)) = isNegative a := by
  cases a with
  | notANumber => decide
  | infinity s => cases s <;> decide
  | zero s => cases s <;> decide
  | finite s m e hm =>
    obtain ⟨-, hlt, hle⟩ := ha
    have hbias : Format.binary64.exponentBias = 1023 := by decide
    have hbits : Format.binary64.mantissaBits = 53 := by decide
    have hsign : isNegative (.finite s m e hm) = isNegative (.infinity s) := by cases s <;> rfl
    rw [hsign]
    unfold UnpackedFloat.pack
    simp only [hbias, hbits]
    by_cases hexponent : 2 ^ 11 ≤ (e + (1023 : Nat) + (52 : Nat)).toNat + 1
    · rw [if_pos hexponent]
      cases s <;> decide
    · rw [if_neg hexponent]
      by_cases hlog : m.log2 + 1 = 53
      · have hlast : BitVec.ofNat 11 (e + (1023 : Nat) + (52 : Nat)).toNat ≠ -1#11 :=
          ofNat_ne (n := 2047) (by omega) (by omega) (by omega)
        have hfirst : BitVec.ofNat 11 (e + (1023 : Nat) + (52 : Nat)).toNat ≠ 0#11 :=
          ofNat_ne (by omega) (by omega) (by omega)
        rw [if_pos hlog]
        exact isNegative_unpack_packComponents s hlast (.inl hfirst)
      · have hlow : m.log2 < 53 := (Nat.log2_lt (Nat.ne_of_gt hm)).mpr hlt
        have hshort : m < 2 ^ 52 := (Nat.log2_lt (Nat.ne_of_gt hm)).mp (by omega)
        have hmantissa : BitVec.ofNat 52 m ≠ 0#52 := ofNat_ne hshort (by omega) (by omega)
        rw [if_neg hlog]
        exact isNegative_unpack_packComponents s (by decide) (.inr hmantissa)

/-! ## floats as they are stored -/

/-- An unpacked float that stands for the bits of a float. -/
def Stored : UnpackedFloat → Prop
  | .finite _ m e _ => FitsFully m e
  | _ => True

/-- Every float is stored so. -/
theorem stored_unpack (b : BitVec 64) : Stored (unpack Format.binary64 b) := by
  have hbias : Format.binary64.exponentBias = 1023 := by decide
  have hmantissa : (@unpackMantissa Format.binary64 b).toNat < 2 ^ 52 := BitVec.isLt _
  unfold UnpackedFloat.unpack
  dsimp only
  rw [hbias]
  by_cases hlast : @unpackExponent Format.binary64 b = -1#_
  · rw [if_pos hlast]
    split <;> exact trivial
  rw [if_neg hlast]
  by_cases hfirst : @unpackExponent Format.binary64 b = 0#_
  · rw [if_pos hfirst]
    by_cases hzero : @unpackMantissa Format.binary64 b = 0#_
    · rw [dif_pos hzero]
      exact trivial
    · rw [dif_neg hzero, hfirst]
      have hpos : 0 < (@unpackMantissa Format.binary64 b).toNat := by
        simpa [BitVec.toNat_pos, BitVec.pos_iff_ne_zero] using hzero
      exact ⟨⟨hpos, by omega, by simp⟩, .inl (by simp)⟩
  · rw [if_neg hfirst]
    have hpos : 0 < (@unpackExponent Format.binary64 b).toNat := by
      simpa [BitVec.toNat_pos, BitVec.pos_iff_ne_zero] using hfirst
    have hvalue : (1#1 ++ @unpackMantissa Format.binary64 b).toNat =
        2 ^ 52 + (@unpackMantissa Format.binary64 b).toNat := by
      rw [BitVec.toNat_append, ← Nat.shiftLeft_add_eq_or_of_lt hmantissa]
      rfl
    exact ⟨⟨by omega, by omega, by omega⟩, .inr (by omega)⟩

/-- A mantissa that is not the shortest outgrows all others when it is brought to a lower
exponent. -/
theorem lt_shiftLeft {m n : Nat} {e f : Int} (ha : Fits m e)
    (hb : FitsFully n f) (hlt : e < f) : m < n <<< (f - e).toNat := by
  obtain ⟨k, hk⟩ : ∃ k, (f - e).toNat = k + 1 := ⟨(f - e).toNat - 1, by omega⟩
  have hlow := ha.le
  have hlong : 2 ^ 52 ≤ n := hb.long.resolve_left (by omega)
  have hshort := ha.lt
  have hscale := Nat.two_pow_pos k
  calc m < 2 ^ 52 * 2 := by omega
    _ ≤ n * 2 := Nat.mul_le_mul_right 2 hlong
    _ ≤ n * 2 * 2 ^ k := Nat.le_mul_of_pos_right _ hscale
    _ = n <<< (f - e).toNat := by
      rw [hk, Nat.shiftLeft_eq, Nat.pow_succ, Nat.mul_assoc, Nat.mul_comm 2]

/-- Mantissas of floats as they are stored, brought to a common exponent, compare as their
exponents do, and by themselves if the exponents are equal. -/
theorem shiftLeft_lt_iff {m n : Nat} {e f : Int} (ha : FitsFully m e) (hb : FitsFully n f) :
    m <<< (e - min e f).toNat < n <<< (f - min e f).toNat ↔ e < f ∨ e = f ∧ m < n := by
  rcases Int.lt_trichotomy e f with hlt | rfl | hgt
  · have hmin : min e f = e := by omega
    have houtgrown := lt_shiftLeft ha.toFits hb hlt
    rw [hmin, Int.sub_self]
    exact iff_of_true houtgrown (.inl hlt)
  · simp
  · have hmin : min e f = f := by omega
    have houtgrown := lt_shiftLeft hb.toFits ha hgt
    have hnot : ¬ (e < f ∨ e = f ∧ m < n) := by omega
    rw [hmin, Int.sub_self]
    exact iff_of_false (Nat.lt_asymm houtgrown) hnot

/-- The difference of two numbers that are neither zero nor infinite. -/
theorem sub_finite (s t : Sign) {m n : Nat} {e f : Int} {hm : 0 < m} {hn : 0 < n}
    (ha : Stored (.finite s m e hm)) (hb : Stored (.finite t n f hn)) :
    let difference := UnpackedFloat.sub Format.binary64 (.finite s m e hm) (.finite t n f hn)
    Packs difference ∧ (isNegative difference = true ↔
      RankBefore (floatRank (.finite s m e hm)) (floatRank (.finite t n f hn))) := by
  have hlow : -1074 ≤ min e f := Int.le_min.mpr ⟨ha.le, hb.le⟩
  obtain ⟨hpacks, hnegative⟩ := normalize_packs hlow
    (s.apply (m <<< (e - min e f).toNat : Nat) - t.apply (n <<< (f - min e f).toNat : Nat))
    .positive
  have hless := shiftLeft_lt_iff ha hb
  have hmore := shiftLeft_lt_iff hb ha
  rw [Int.min_comm] at hmore
  have hwide := shiftLeft_pos hm (e - min e f).toNat
  have hwide' := shiftLeft_pos hn (f - min e f).toNat
  refine ⟨hpacks, ?_⟩
  show isNegative (UnpackedFloat.normalize Format.binary64 _ _ _) = true ↔ _
  rw [hnegative, decide_eq_true_iff]
  cases s <;> cases t <;>
    change _ ↔ RankBefore (_, _, _) (_, _, _) <;>
    simp only [Sign.apply, RankBefore, true_and] <;> omega

/-- A difference is below zero exactly if the first number is below the second. -/
theorem sub_packs {a b : UnpackedFloat} (ha : Stored a) (hb : Stored b) (hna : a.isNaN = false)
    (hnb : b.isNaN = false) :
    Packs (UnpackedFloat.sub Format.binary64 a b) ∧
      (isNegative (UnpackedFloat.sub Format.binary64 a b) = true ↔
        RankBefore (floatRank a) (floatRank b)) := by
  -- Next to zero and infinity the classes alone decide, and the rounding has nothing to do.
  rcases a with ⟨_ | _⟩ | _ | ⟨_ | _⟩ | ⟨⟨_ | _⟩, m, e, hm⟩ <;>
    rcases b with ⟨_ | _⟩ | _ | ⟨_ | _⟩ | ⟨⟨_ | _⟩, n, f, hn⟩ <;>
    first
      | cases hna; done
      | cases hnb; done
      | exact sub_finite _ _ ha hb
      | exact ⟨trivial, of_decide_eq_true rfl⟩
      | exact ⟨ha.toFits, of_decide_eq_true rfl⟩
      | exact ⟨hb.toFits, of_decide_eq_true rfl⟩

end Difference

open Float.Model Difference

/-- Less than no time has passed between two numbers exactly if the second is the earlier
one. -/
theorem Reading.soonAfter_zero {a b : Float} (ha : a.isNaN = false) (hb : b.isNaN = false) :
    Reading.soonAfter a b .zero = true ↔ Reading.lt b a = true := by
  have hspan : Duration.zero.seconds.toModel.unpack = .zero .positive := by rfl
  have hless : b - a < Duration.zero.seconds ↔
      (b - a).toModel.unpack.lt Duration.zero.seconds.toModel.unpack = true := decide_eq_true_iff
  have hdifference : (b - a).toModel.unpack = UnpackedFloat.unpack Format.binary64
      (UnpackedFloat.pack Format.binary64
        (UnpackedFloat.sub Format.binary64 b.toModel.unpack a.toModel.unpack)) := rfl
  obtain ⟨hpacks, hnegative⟩ := sub_packs (stored_unpack b.toModel.toBits.toBitVec)
    (stored_unpack a.toModel.toBits.toBitVec) hb ha
  rw [float_lt_iff hb ha]
  show decide (b - a < Duration.zero.seconds) = true ↔ _
  rw [decide_eq_true_iff, hless, hspan, lt_zero, hdifference]
  exact (congrArg (· = true) (isNegative_unpack_pack hpacks)).to_iff.trans hnegative

end SerialLink
