import SerialLink.Json.Parser
import SerialLink.Json.Printer

/-!
# SerialLink.Proofs.Json.Tokens

Strings and numerals as they stand in a JSON text.

1. A text that is written as a string is read as pieces that say it again: a character that was
   escaped by four digits comes back as their unit, any other as itself (`pieces?_escaped`,
   `pieces?_quoted`).
2. The digits of a number are read as far as they go, if what follows does not continue a
   numeral (`Parser.Stops`), and they stand for the number again (`numeral?_intText`).
-/

namespace SerialLink.Json

open Decimal

namespace Parser

/-! ## strings -/

/-- The four digits of a character that is escaped by them. -/
theorem unit?_hexDigit {n : Nat} (h : n < 0x20) :
    unit? '0' '0' (hexDigit (n / 16)) (hexDigit (n % 16)) = some n := by
  have hall : ∀ n < 0x20, unit? '0' '0' (hexDigit (n / 16)) (hexDigit (n % 16)) = some n := by
    decide
  exact hall n h

/-- A character as it stands in a string: escaped by a letter, by four digits, or not at all. -/
theorem escaped_cases (c : Char) :
    (∃ e, escaped c = ['\\', e] ∧ e ≠ 'u' ∧ letterEscape? e = some c) ∨
    (c.toNat < 0x20 ∧
      escaped c = ['\\', 'u', '0', '0', hexDigit (c.toNat / 16), hexDigit (c.toNat % 16)]) ∨
    (escaped c = [c] ∧ c ≠ '"' ∧ c ≠ '\\' ∧ ¬c.toNat < 0x20) := by
  unfold escaped
  iterate 7
    split
    next hc => subst hc; exact .inl ⟨_, rfl, by decide, rfl⟩
  split
  next hlow => exact .inr (.inl ⟨hlow, rfl⟩)
  next hquote hslash _ _ _ _ _ hlow => exact .inr (.inr ⟨rfl, hquote, hslash, hlow⟩)

theorem text?_unit {n : Nat} (h : n < 0xd800) (ps : List Piece) :
    text? (.unit n :: ps) = (text? ps).map (Char.ofNat n :: ·) := by
  have hhigh : isHighHalf n = false := by simp [isHighHalf]; omega
  have hlow : isLowHalf n = false := by simp [isLowHalf]; omega
  rw [text?.eq_def]
  simp [hhigh, hlow]

/-- A character as it stands in a string is one piece, which says it again. -/
theorem pieces?_escaped (c : Char) {cs rest : List Char} {ps : List Piece}
    (h : pieces? cs = some (ps, rest)) :
    ∃ p, pieces? (escaped c ++ cs) = some (p :: ps, rest) ∧
      text? (p :: ps) = (text? ps).map (c :: ·) := by
  obtain ⟨e, heq, hletter, hmeans⟩ | ⟨hlow, heq⟩ | ⟨heq, hquote, hslash, hlow⟩ := escaped_cases c
  · refine ⟨.char c, ?_, rfl⟩
    rw [heq]
    simp [pieces?, hletter, hmeans, h]
  · refine ⟨.unit c.toNat, ?_, ?_⟩
    · rw [heq]
      simp [pieces?, unit?_hexDigit hlow, h]
    · rw [text?_unit (by omega), Char.ofNat_toNat]
  · refine ⟨.char c, ?_, rfl⟩
    rw [heq]
    simp [pieces?, hslash, hlow, h]

/-- A text that is written as a string is read as pieces that say it again. -/
theorem pieces?_quoted (cs rest : List Char) :
    ∃ ps, pieces? (cs.flatMap escaped ++ '"' :: rest) = some (ps, rest) ∧ text? ps = some cs := by
  induction cs with
  | nil => exact ⟨[], by simp [pieces?], rfl⟩
  | cons c cs ih =>
    obtain ⟨ps, hpieces, htext⟩ := ih
    obtain ⟨p, hpiece, hagain⟩ := pieces?_escaped c hpieces
    refine ⟨p :: ps, ?_, ?_⟩
    · rw [List.flatMap_cons, List.append_assoc]
      exact hpiece
    · rw [hagain, htext]
      rfl

/-! ## numerals -/

/-- The text does not continue a numeral. -/
def Stops (cs : List Char) : Prop :=
  ∀ c ∈ cs.head?, isDigit c = false ∧ c ≠ '.' ∧ c ≠ 'e' ∧ c ≠ 'E'

theorem isDigit_eq (c : Char) : isDigit c = c.isDigit := by
  simp [isDigit, Char.isDigit, Char.le_def]

theorem isDigit_of_mem {n : Nat} {c : Char} (h : c ∈ digitText n) : isDigit c = true := by
  rw [isDigit_eq]
  exact Nat.isDigit_of_mem_toDigits (by decide) (by decide) h

/-- A number has at least one digit. -/
theorem exists_digitText (n : Nat) : ∃ c cs, digitText n = c :: cs ∧ isDigit c = true := by
  cases htext : digitText n with
  | nil => exact absurd htext Nat.toDigits_ne_nil
  | cons c cs => exact ⟨c, cs, rfl, isDigit_of_mem (n := n) (htext ▸ List.mem_cons_self)⟩

/-- Digits are read as far as they go. -/
theorem digits_append {cs rest : List Char} (hdigits : ∀ c ∈ cs, isDigit c = true)
    (hstops : Stops rest) : digits (cs ++ rest) = (cs.map fun c => c.toNat - '0'.toNat, rest) := by
  induction cs with
  | nil =>
    cases rest with
    | nil => rfl
    | cons c rest => simp [digits, (hstops c rfl).1]
  | cons c cs ih =>
    obtain ⟨hc, hcs⟩ := List.forall_mem_cons.mp hdigits
    have hrest := Prod.mk.inj (ih hcs)
    simp only [digits, List.cons_append, List.takeWhile_cons, List.dropWhile_cons, hc, if_true,
      List.map_cons, hrest.1, hrest.2]

/-- The digits of a number stand for it. -/
theorem natOfDigits_digitText (n : Nat) :
    natOfDigits ((digitText n).map fun c => c.toNat - '0'.toNat) = n := by
  rw [natOfDigits, List.foldl_map]
  exact Nat.ofDigitChars_toDigits (by decide) (by decide)

/-- The digits of a number that is not zero do not begin with a zero. -/
theorem head?_digitText {n : Nat} (h : 0 < n) : (digitText n).head? ≠ some '0' := by
  induction n using Nat.strongRecOn with
  | ind n ih =>
    rw [digitText, Nat.toDigits_eq_if (by decide)]
    split
    next hsmall =>
      have hall : ∀ n < 10, 0 < n → [n.digitChar].head? ≠ some '0' := by decide
      exact hall n hsmall h
    next hlarge =>
      have hrest := ih (n / 10) (by omega) (by omega)
      cases hfront : Nat.toDigits 10 (n / 10) with
      | nil => exact absurd hfront Nat.toDigits_ne_nil
      | cons d ds =>
        rw [digitText, hfront] at hrest
        exact hrest

/-- A zero stands alone. -/
theorem digits_ne_zero_cons (n d : Nat) (ds : List Nat) :
    ((digitText n).map fun c => c.toNat - '0'.toNat) ≠ 0 :: d :: ds := by
  intro heq
  obtain ⟨c, cs, htext, hdigit⟩ := exists_digitText n
  rw [htext, List.map_cons] at heq
  obtain ⟨hzero, hmore⟩ := List.cons.inj heq
  have hc : c = '0' := by
    simp only [isDigit, Bool.and_eq_true, decide_eq_true_eq] at hdigit
    have hle : '0'.toNat ≤ c.toNat := hdigit.1
    exact Char.toNat_inj.mp (by omega)
  cases Nat.eq_zero_or_pos n with
  | inl hn =>
    subst hn
    cases htext
    cases hmore
  | inr hn =>
    refine head?_digitText hn ?_
    rw [htext, hc]
    rfl

/-- The digits of a number are read as its numeral, which has no sign and nothing else. -/
theorem unsigned?_digitText (negative : Bool) (n : Nat) {rest : List Char} (hstops : Stops rest) :
    ∃ ds, unsigned? negative (digitText n ++ rest) = some (⟨negative, ds, [], none⟩, rest) ∧
      natOfDigits ds = n := by
  refine ⟨_, ?_, natOfDigits_digitText n⟩
  have hdigits := digits_append (fun c => isDigit_of_mem (n := n)) hstops
  have hdigits? : digits? (digitText n ++ rest) =
      some ((digitText n).map fun c => c.toNat - '0'.toNat, rest) := by
    unfold digits?
    rw [hdigits]
    obtain ⟨c, cs, htext, -⟩ := exists_digitText n
    rw [htext]
    rfl
  have hwhole : whole? (digitText n ++ rest) =
      some ((digitText n).map fun c => c.toNat - '0'.toNat, rest) := by
    unfold whole?
    rw [hdigits?]
    split
    next heq => exact absurd (Prod.mk.inj (Option.some.inj heq)).1 (digits_ne_zero_cons n _ _)
    next => rfl
  have hfraction : fraction? rest = some ([], rest) := by
    cases rest with
    | nil => rfl
    | cons c rest => simp [fraction?, (hstops c rfl).2.1]
  have hexponent : exponent? rest = some (none, rest) := by
    cases rest with
    | nil => rfl
    | cons c rest => simp [exponent?, (hstops c rfl).2.2.1, (hstops c rfl).2.2.2]
  simp [unsigned?, hwhole, hfraction, hexponent]

/-- The integers that fit into 64 bits, signed or unsigned. -/
def FitsWord (n : Int) : Prop := -(UInt64.size / 2 : Nat) ≤ n ∧ n ≤ maxUnsigned

theorem value?_unsigned {ds : List Nat} (h : natOfDigits ds ≤ maxUnsigned) :
    Numeral.value? ⟨false, ds, [], none⟩ = some (.int (natOfDigits ds)) := by
  simp [Numeral.value?, Numeral.isWhole, h]

theorem value?_negative {ds : List Nat} (hpos : 0 < natOfDigits ds)
    (hle : natOfDigits ds ≤ UInt64.size / 2) :
    Numeral.value? ⟨true, ds, [], none⟩ = some (.int (-(natOfDigits ds : Nat))) := by
  simp [Numeral.value?, Numeral.isWhole, hpos, hle]

/-- The text of an integer is read as a numeral that stands for it. -/
theorem numeral?_intText {n : Int} (hfits : FitsWord n) {rest : List Char} (hstops : Stops rest) :
    ∃ num, numeral? (intText n ++ rest) = some (num, rest) ∧ num.value? = some (.int n) := by
  obtain ⟨hlow, hhigh⟩ := hfits
  simp only [UInt64.size, maxUnsigned] at hlow hhigh
  unfold intText
  split
  next hneg =>
    obtain ⟨ds, hread, hvalue⟩ := unsigned?_digitText true n.natAbs hstops
    refine ⟨_, hread, ?_⟩
    have hpos : 0 < n.natAbs ∧ n.natAbs ≤ UInt64.size / 2 := by
      simp only [UInt64.size]
      omega
    have hn : -(n.natAbs : Int) = n := by omega
    rw [value?_negative (hvalue ▸ hpos.1) (hvalue ▸ hpos.2), hvalue, hn]
  next hneg =>
    obtain ⟨ds, hread, hvalue⟩ := unsigned?_digitText false n.natAbs hstops
    refine ⟨⟨false, ds, [], none⟩, ?_, ?_⟩
    · obtain ⟨c, cs, htext, hdigit⟩ := exists_digitText n.natAbs
      have hsign : c ≠ '-' := fun hc => by
        subst hc
        cases hdigit
      rw [htext] at hread ⊢
      simpa [numeral?, hsign] using hread
    · have hle : n.natAbs ≤ maxUnsigned := by
        simp only [maxUnsigned, UInt64.size]
        omega
      have hn : (n.natAbs : Int) = n := by omega
      rw [value?_unsigned (hvalue ▸ hle), hvalue, hn]

theorem exists_intText (n : Int) :
    ∃ c cs, intText n = c :: cs ∧ (isDigit c = true ∨ c = '-') := by
  unfold intText
  split
  · exact ⟨_, _, rfl, .inr rfl⟩
  · obtain ⟨c, cs, htext, hdigit⟩ := exists_digitText n.natAbs
    exact ⟨c, cs, htext, .inl hdigit⟩

end Parser

end SerialLink.Json
