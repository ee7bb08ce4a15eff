import SerialLink.Payload.Value
import SerialLink.Proofs.Json.Characters
import SerialLink.Proofs.Trimming

/-!
# SerialLink.Proofs.Payload.Normal

What a value becomes can be sent as it is.

1. No number, truth value or JSON text begins or ends with a blank: numbers consist of graphic
   characters, and the parts of JSON stand between brackets or quotation marks
   (`Json.bare_compact`).
2. So every value but bytes becomes the encoding of a bare text (`SendValue.exists_bare_text`).
3. Such bytes are left as they are when they are sent again, as bytes or as the text that they
   are (`SendValue.normalize_again`): a text that is bare of blank characters is bare of blank
   bytes.
-/

namespace SerialLink

open Text Decimal

/-! ## texts without blanks at their ends -/

/-- A visible character is not blank: no range of blanks reaches into those of ASCII that are
visible. -/
theorem Graphic.isBlank_eq_false {c : Char} (h : Graphic c) : isBlank c = false := by
  obtain ⟨hlow, hhigh⟩ := h
  have hranges : ∀ r ∈ blankRanges, r.2 ≤ 0x20 ∨ 0x7f ≤ r.1 := by decide
  refine List.any_eq_false.mpr fun r hr => ?_
  have hr := hranges r hr
  simp only [Bool.and_eq_true, decide_eq_true_eq]
  omega

theorem bare_of_graphic {cs : List Char} (h : ∀ c ∈ cs, Graphic c) : Bare isBlank cs :=
  .of_forall fun c hc => (h c hc).isBlank_eq_false

/-- What stands between visible characters is bare. -/
theorem bare_between {first last : Char} (hfirst : Graphic first) (hlast : Graphic last)
    (cs : List Char) : Bare isBlank (first :: cs ++ [last]) := by
  constructor
  · rintro c ⟨⟩
    exact hfirst.isBlank_eq_false
  · rw [List.getLast?_concat]
    rintro c ⟨⟩
    exact hlast.isBlank_eq_false

/-- A JSON text on one line has no blanks at its ends. -/
theorem Json.bare_compact (v : Json) : Bare isBlank v.compact := by
  cases v with
  | null => exact bare_of_graphic (List.all_iff_forall_prop.mp (by decide))
  | bool b => cases b <;> exact bare_of_graphic (List.all_iff_forall_prop.mp (by decide))
  | int n => exact bare_of_graphic (graphic_intText n)
  | float x => exact bare_of_graphic (graphic_numberLayout x)
  | str s => exact bare_between (by decide) (by decide) _
  -- no induction: whatever the parts are, they stand between brackets
  | arr vs =>
    rw [compact]
    exact bare_between (by decide) (by decide) _
  | obj ms =>
    rw [compact]
    exact bare_between (by decide) (by decide) _

namespace SendValue

theorem graphic_floatLayout (x : Float) : ∀ c ∈ floatLayout.chars x, Graphic c :=
  Layout.graphic_chars (List.all_iff_forall_prop.mp (by decide))
    (List.all_iff_forall_prop.mp (by decide)) x

/-! ## what a value becomes -/

/-- Every value but bytes becomes a text without blanks at its ends. -/
theorem exists_bare_text {v : SendValue} (h : ∀ bs, v ≠ .bytes bs) :
    ∃ cs, v.normalize = Utf8.encode cs ∧ Bare isBlank cs := by
  cases v with
  | bytes bs => exact absurd rfl (h bs)
  | text s => exact ⟨_, rfl, bare_trimEnds isBlank s.toList⟩
  | json v => exact ⟨_, rfl, v.bare_compact⟩
  | int n => exact ⟨_, rfl, bare_of_graphic (graphic_intText n)⟩
  | uint n => exact ⟨_, rfl, bare_of_graphic (graphic_digitText n)⟩
  | float x => exact ⟨_, rfl, bare_of_graphic (graphic_floatLayout x)⟩
  | bool b => cases b <;> exact ⟨_, rfl, bare_of_graphic (List.all_iff_forall_prop.mp (by decide))⟩

/-- What a value becomes has no blank bytes at its ends. -/
theorem bare_normalize (v : SendValue) : Bare isBlankByte v.normalize := by
  by_cases h : ∃ bs, v = .bytes bs
  · obtain ⟨bs, rfl⟩ := h
    exact bare_trimEnds isBlankByte bs
  · obtain ⟨cs, hcs, hbare⟩ := exists_bare_text (not_exists.mp h)
    exact hcs ▸ bare_encode hbare

/-- What a value becomes may be sent again in its place: as bytes, and, if the value was not given
as bytes, as the text that it is. -/
theorem normalize_again (v : SendValue) :
    (SendValue.bytes v.normalize).normalize = v.normalize ∧
      ((∀ bs, v ≠ .bytes bs) →
        ∃ s : String, Utf8.decode? v.normalize = some s.toList ∧
          (SendValue.text s).normalize = v.normalize) := by
  refine ⟨trimEnds_of_bare v.bare_normalize, fun h => ?_⟩
  obtain ⟨cs, hcs, hbare⟩ := exists_bare_text h
  refine ⟨String.ofList cs, ?_, ?_⟩
  · rw [hcs, Utf8.decode?_encode, String.toList_ofList]
  · rw [hcs, normalize, String.toList_ofList, trim, trimEnds_of_bare hbare]

/-- Blanks that are no blank bytes: a vertical tab, an em space and a next-line character. -/
theorem normalize_again_vertical_tab :
    (∀ bs, SendValue.text "\u000b\u2003 a\u2003b\u0085" ≠ .bytes bs) ∧
      ∃ s : String,
        Utf8.decode? (SendValue.text "\u000b\u2003 a\u2003b\u0085").normalize = some s.toList ∧
          (SendValue.text s).normalize =
            (SendValue.text "\u000b\u2003 a\u2003b\u0085").normalize :=
  ⟨nofun, (normalize_again _).2 nofun⟩

end SendValue

end SerialLink
