import Mathlib.Data.Bool.AllAny
import SerialLink.Proofs.Json.Tokens

/-!
# SerialLink.Proofs.Json.Characters

Which characters stand in numbers and in JSON texts.

1. The text of a number consists of graphic characters, if what stands for numbers that are none
   does (`Decimal.graphic_intText`, `Decimal.Layout.graphic_chars`).
2. No control character stands in a JSON text on one line: those of a string are escaped
   (`Json.le_escaped`), names of members like other strings, and nothing else is put between the
   parts of a value than brackets, commas and colons (`Json.le_compact`).
-/

namespace SerialLink

/-- The character is one of ASCII that is visible. -/
def Graphic (c : Char) : Prop := 0x20 < c.toNat ∧ c.toNat < 0x7f

instance (c : Char) : Decidable (Graphic c) := inferInstanceAs (Decidable (_ ∧ _))

namespace Decimal

/-! ## numbers -/

theorem graphic_digitText (n : Nat) : ∀ c ∈ digitText n, Graphic c := by
  intro c hc
  have hdigit := Json.Parser.isDigit_of_mem hc
  simp only [Json.Parser.isDigit, Bool.and_eq_true, decide_eq_true_eq] at hdigit
  have hlow : '0'.toNat ≤ c.toNat := hdigit.1
  have hhigh : c.toNat ≤ '9'.toNat := hdigit.2
  constructor
  · exact Nat.lt_of_lt_of_le (by decide) hlow
  · exact Nat.lt_of_le_of_lt hhigh (by decide)

theorem graphic_intText (n : Int) : ∀ c ∈ intText n, Graphic c := by
  unfold intText
  split
  · exact List.forall_mem_cons.mpr ⟨by decide, graphic_digitText _⟩
  · exact graphic_digitText _

theorem graphic_replicate {c : Char} (h : Graphic c) (n : Nat) :
    ∀ d ∈ List.replicate n c, Graphic d :=
  fun _ hd => List.eq_of_mem_replicate hd ▸ h

theorem graphic_positional (fraction : Bool) (v : Scaled) :
    ∀ c ∈ positional fraction v, Graphic c := by
  unfold positional
  dsimp only
  split
  · refine List.forall_mem_append.mpr ⟨List.forall_mem_append.mpr
      ⟨graphic_digitText _, graphic_replicate (by decide) _⟩, ?_⟩
    split <;> exact List.all_iff_forall_prop.mp (by decide)
  · have hpadded (n : Nat) : ∀ c ∈ List.replicate n '0' ++ digitText v.digits, Graphic c :=
      List.forall_mem_append.mpr ⟨graphic_replicate (by decide) n, graphic_digitText _⟩
    refine List.forall_mem_append.mpr ⟨fun c hc => hpadded _ c (List.mem_of_mem_take hc),
      List.forall_mem_cons.mpr ⟨by decide, fun c hc => hpadded _ c (List.mem_of_mem_drop hc)⟩⟩

theorem graphic_exponential (signed : Bool) (v : Scaled) (magnitude : Int) :
    ∀ c ∈ exponential signed v magnitude, Graphic c := by
  have hdigits := graphic_digitText v.digits
  have hmark : ∀ c ∈ if signed && decide (0 ≤ magnitude) then ['e', '+'] else ['e'],
      Graphic c := by
    split <;> exact List.all_iff_forall_prop.mp (by decide)
  unfold exponential
  dsimp only
  split
  next => exact List.forall_mem_nil _
  next d hone =>
    rw [hone] at hdigits
    exact List.forall_mem_append.mpr ⟨List.forall_mem_cons.mpr
      ⟨hdigits d List.mem_cons_self, hmark⟩, graphic_intText magnitude⟩
  next d ds _ hmore =>
    rw [hmore] at hdigits
    obtain ⟨hd, hds⟩ := List.forall_mem_cons.mp hdigits
    refine List.forall_mem_append.mpr ⟨?_, graphic_intText magnitude⟩
    exact List.forall_mem_append.mpr ⟨List.forall_mem_cons.mpr
      ⟨hd, List.forall_mem_cons.mpr ⟨by decide, hds⟩⟩, hmark⟩

/-- The text of a float is made of digits, signs, a point and the mark of an exponent, or it is
what stands for a number that is none. -/
theorem Layout.graphic_chars {l : Layout} (hnan : ∀ c ∈ l.nan.toList, Graphic c)
    (hinfinity : ∀ c ∈ l.infinity.toList, Graphic c) (x : Float) :
    ∀ c ∈ l.chars x, Graphic c := by
  have hmagnitude (v : Scaled) : ∀ c ∈ l.magnitudeText v, Graphic c := by
    unfold magnitudeText
    dsimp only
    split
    · exact graphic_positional _ v
    · exact graphic_exponential _ v _
  unfold chars
  split
  · exact hnan
  · exact hinfinity
  · exact List.forall_mem_cons.mpr ⟨by decide, hinfinity⟩
  · dsimp only
    split
    · exact List.forall_mem_cons.mpr ⟨by decide, hmagnitude _⟩
    · exact hmagnitude _

end Decimal

namespace Json

open Decimal

/-! ## JSON texts -/

theorem graphic_numberLayout (x : Float) : ∀ c ∈ numberLayout.chars x, Graphic c :=
  Layout.graphic_chars (List.all_iff_forall_prop.mp (by decide))
    (List.all_iff_forall_prop.mp (by decide)) x

/-- A control character is escaped. -/
theorem le_escaped (c : Char) : ∀ d ∈ escaped c, 0x20 ≤ d.toNat := by
  unfold escaped
  iterate 7
    split
    next => exact List.all_iff_forall_prop.mp (by decide)
  split
  next hlow =>
    have hall : ∀ n < 0x20, ['\\', 'u', '0', '0', hexDigit (n / 16), hexDigit (n % 16)].all
        fun d => 0x20 ≤ d.toNat := by decide
    exact List.all_iff_forall_prop.mp (hall c.toNat hlow)
  next hlow => exact List.forall_mem_singleton.mpr (Nat.le_of_not_lt hlow)

theorem le_quoted (s : String) : ∀ c ∈ quoted s, 0x20 ≤ c.toNat := by
  refine List.forall_mem_append.mpr ⟨List.forall_mem_cons.mpr ⟨by decide, ?_⟩,
    List.all_iff_forall_prop.mp (by decide)⟩
  intro d hd
  obtain ⟨c, -, hc⟩ := List.mem_flatMap.mp hd
  exact le_escaped c d hc

theorem le_leafText (v : Json) : ∀ c ∈ leafText v, 0x20 ≤ c.toNat := by
  cases v with
  | null => exact List.all_iff_forall_prop.mp (by decide)
  | bool b => cases b <;> exact List.all_iff_forall_prop.mp (by decide)
  | int n => exact fun c hc => Nat.le_of_lt (graphic_intText n c hc).1
  | float x => exact fun c hc => Nat.le_of_lt (graphic_numberLayout x c hc).1
  | str s => exact le_quoted s
  | arr vs =>
    show ∀ c ∈ ['[', ']'], 0x20 ≤ c.toNat
    exact List.all_iff_forall_prop.mp (by decide)
  | obj ms =>
    show ∀ c ∈ ['\x7b', '\x7d'], 0x20 ≤ c.toNat
    exact List.all_iff_forall_prop.mp (by decide)

mutual

/-- A JSON text on one line has no control characters. -/
theorem le_compact : ∀ v : Json, ∀ c ∈ compact v, 0x20 ≤ c.toNat
  | .null => le_leafText .null
  | .bool b => le_leafText (.bool b)
  | .int n => le_leafText (.int n)
  | .float x => le_leafText (.float x)
  | .str s => le_leafText (.str s)
  | .arr vs => by
    rw [compact]
    exact List.forall_mem_append.mpr
      ⟨List.forall_mem_cons.mpr ⟨by decide, le_compactElements vs⟩,
        List.all_iff_forall_prop.mp (by decide)⟩
  | .obj ms => by
    rw [compact]
    exact List.forall_mem_append.mpr
      ⟨List.forall_mem_cons.mpr ⟨by decide, le_compactMembers ms⟩,
        List.all_iff_forall_prop.mp (by decide)⟩

theorem le_compactElements : ∀ vs : List Json, ∀ c ∈ compactElements vs, 0x20 ≤ c.toNat
  | [] => nofun
  | [v] => by
    rw [compactElements]
    exact le_compact v
  | v :: w :: vs => by
    show ∀ c ∈ compact v ++ ',' :: compactElements (w :: vs), 0x20 ≤ c.toNat
    exact List.forall_mem_append.mpr ⟨le_compact v,
      List.forall_mem_cons.mpr ⟨by decide, le_compactElements (w :: vs)⟩⟩

theorem le_compactMembers :
    ∀ ms : List (String × Json), ∀ c ∈ compactMembers ms, 0x20 ≤ c.toNat
  | [] => nofun
  | [(name, v)] => by
    rw [compactMembers]
    exact List.forall_mem_append.mpr ⟨le_quoted name,
      List.forall_mem_cons.mpr ⟨by decide, le_compact v⟩⟩
  | (name, v) :: m :: ms => by
    show ∀ c ∈ quoted name ++ ':' :: compact v ++ ',' :: compactMembers (m :: ms), 0x20 ≤ c.toNat
    refine List.forall_mem_append.mpr ⟨List.forall_mem_append.mpr ⟨le_quoted name,
      List.forall_mem_cons.mpr ⟨by decide, le_compact v⟩⟩, ?_⟩
    exact List.forall_mem_cons.mpr ⟨by decide, le_compactMembers (m :: ms)⟩

end

end Json

end SerialLink
