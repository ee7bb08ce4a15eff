import SerialLink.Payload.Expected
import SerialLink.Proofs.Framing.Limit
import SerialLink.Proofs.Trimming

/-!
# SerialLink.Proofs.Payload.Decoding

How a payload is read as text.

1. What stands in front of the first occurrence of a marker is the longest front of the text in
   which no occurrence begins (`CutBefore`), so that the marker does not occur in it.  The text is
   cut there (`cutBefore_cutAt`).
2. A text in which the marker does not occur is read as it is from its own bytes
   (`payloadText_encode`).
3. So reading a payload keeps all of a payload that is well-formed if there is no marker, leaves
   nothing of a marker if there is one, and changes nothing when it is done again
   (`payloadText_before_marker`).
-/

namespace SerialLink

open Text

/-! ## what stands before an occurrence -/

section

variable {α : Type} {d xs front : List α}

/-- `front` is the part of `xs` in front of the first occurrence of `d`. -/
structure CutBefore (d xs front : List α) : Prop where
  /-- `xs` begins with it. -/
  within : front <+: xs
  /-- No occurrence begins in it. -/
  clear : ∀ i < front.length, ¬ OccursAt d xs i
  /-- `xs` does not begin with anything longer in which no occurrence begins. -/
  longest : ∀ other, other <+: xs → (∀ i < other.length, ¬ OccursAt d xs i) → other <+: front
  /-- Behind it is an occurrence or the end of `xs`. -/
  stops : OccursAt d xs front.length ∨ front = xs

/-- What goes on up to an occurrence or the end is longest. -/
theorem cutBefore_of_stops (hwithin : front <+: xs)
    (hclear : ∀ i < front.length, ¬ OccursAt d xs i)
    (hstops : OccursAt d xs front.length ∨ front = xs) : CutBefore d xs front := by
  refine ⟨hwithin, hclear, fun other hother hclear' => ?_, hstops⟩
  obtain hocc | rfl := hstops
  -- anything longer would hold the beginning of this occurrence
  · have hle : other.length ≤ front.length :=
      Nat.le_of_not_lt fun hlt => hclear' front.length hlt hocc
    exact List.prefix_of_prefix_length_le hother hwithin hle
  · exact hother

/-- So `d` does not occur in it. -/
theorem CutBefore.not_isInfix (h : CutBefore d xs front) (hd : d ≠ []) : ¬ d <:+: front := by
  intro hinside
  obtain ⟨i, hi, hocc⟩ := isInfix_iff_occursAt.mp hinside
  have hend := hocc.add_length_le hi
  have hpos := List.length_pos_iff.mpr hd
  obtain ⟨back, rfl⟩ := h.within
  exact h.clear i (by omega) (hocc.append hi)

end

variable {marker cs : List Char}

theorem cutBefore_cutAt (hmarker : marker ≠ []) (cs : List Char) :
    CutBefore marker cs (cutAt marker cs) := by
  rw [cutAt, if_neg (by simpa using hmarker)]
  cases hfirst : firstAt? marker cs with
  | none =>
    have hclear := firstAt?_eq_none_iff.mp hfirst
    exact cutBefore_of_stops List.prefix_rfl (fun i hi => hclear i (Nat.le_of_lt hi)) (.inr rfl)
  | some i =>
    obtain ⟨hi, hocc, hclear⟩ := firstAt?_eq_some_iff.mp hfirst
    have hlength : (cs.take i).length = i := List.length_take_of_le hi
    refine cutBefore_of_stops (List.take_prefix i cs) ?_ (.inl ?_)
    · rwa [hlength]
    · rwa [hlength]

/-- A text is not cut if the marker does not occur in it. -/
theorem cutAt_of_not_isInfix (h : ¬ marker <:+: cs) : cutAt marker cs = cs := by
  have hmarker : marker ≠ [] := by
    rintro rfl
    exact h List.nil_infix
  obtain hocc | heq := (cutBefore_cutAt hmarker cs).stops
  · have hle := (cutBefore_cutAt hmarker cs).within.length_le
    exact absurd (isInfix_iff_occursAt.mpr ⟨_, hle, hocc⟩) h
  · exact heq

/-! ## payloads as texts -/

section

variable {readUntil : Option String}

theorem payloadText_strip (payload : Bytes) (readUntil : Option String) :
    payloadText payload readUntil true = trim (payloadText payload readUntil false) :=
  rfl

/-- Without a marker nothing is cut off, and with the empty one neither. -/
theorem payloadText_of_no_marker (h : readUntil.getD "" = "") (payload : Bytes) :
    payloadText payload readUntil false = Utf8.decodeLossy payload := by
  cases readUntil with
  | none => rfl
  | some marker =>
    obtain rfl : marker = "" := h
    rfl

/-- A text in which the marker does not occur is read from its bytes. -/
theorem payloadText_encode (h : ∀ marker ∈ readUntil, marker ≠ "" → ¬ marker.toList <:+: cs) :
    payloadText (Utf8.encode cs) readUntil false = cs := by
  by_cases hempty : readUntil.getD "" = ""
  · rw [payloadText_of_no_marker hempty, Utf8.decodeLossy_encode]
  · cases readUntil with
    | none => exact absurd rfl hempty
    | some marker =>
      have hcut : cutAt marker.toList (Utf8.decodeLossy (Utf8.encode cs)) = cs := by
        rw [Utf8.decodeLossy_encode]
        exact cutAt_of_not_isInfix (h marker rfl hempty)
      exact hcut

theorem toList_ne_nil {marker : String} (h : marker ≠ "") : marker.toList ≠ [] :=
  fun hnil => h (String.toList_eq_nil_iff.mp hnil)

/-- What is read up to a marker does not hold it, stripped or not. -/
theorem not_isInfix_payloadText {marker : String} (h : marker ≠ "") (payload : Bytes)
    (strip : Bool) : ¬ marker.toList <:+: payloadText payload (some marker) strip := by
  have hcut : ¬ marker.toList <:+: payloadText payload (some marker) false :=
    (cutBefore_cutAt (toList_ne_nil h) _).not_isInfix (toList_ne_nil h)
  cases strip with
  | false => exact hcut
  | true => exact fun hinside => hcut (hinside.trans (trims_trimEnds isBlank _).isInfix)

/-- What was read is read again from its bytes. -/
theorem payloadText_again (payload : Bytes) (readUntil : Option String) (strip : Bool) :
    payloadText (Utf8.encode (payloadText payload readUntil strip)) readUntil strip =
      payloadText payload readUntil strip := by
  have hfree : ∀ marker ∈ readUntil, marker ≠ "" →
      ¬ marker.toList <:+: payloadText payload readUntil strip := by
    rintro marker ⟨⟩ hmarker
    exact not_isInfix_payloadText hmarker payload strip
  cases strip with
  | false => exact payloadText_encode hfree
  | true =>
    rw [payloadText_strip (Utf8.encode _), payloadText_encode hfree]
    exact trimEnds_of_bare (bare_trimEnds isBlank _)

end

/-- A payload that is read without a marker and not stripped keeps its bytes exactly if it is
well-formed.  With a marker, what is read is the decoded text in front of the first occurrence, and
the marker is not in it.  Stripping takes the blanks at both ends away from that and nothing else,
and what was read once is left as it is when it is read again. -/
theorem payloadText_before_marker (payload : Bytes) :
    (∀ readUntil : Option String, readUntil.getD "" = "" →
      (Utf8.encode (payloadText payload readUntil false) = payload ↔
        (Utf8.decode? payload).isSome)) ∧
    (∀ marker : String, marker ≠ "" →
      CutBefore marker.toList (Utf8.decodeLossy payload)
        (payloadText payload (some marker) false) ∧
      ∀ strip, ¬ marker.toList <:+: payloadText payload (some marker) strip) ∧
    ∀ readUntil : Option String,
      Trims isBlank (payloadText payload readUntil false) (payloadText payload readUntil true) ∧
      ∀ strip, payloadText (Utf8.encode (payloadText payload readUntil strip)) readUntil strip =
        payloadText payload readUntil strip := by
  refine ⟨fun readUntil hempty => ?_, fun marker hmarker => ?_, fun readUntil => ?_⟩
  · rw [payloadText_of_no_marker hempty, Option.isSome_iff_exists]
    constructor
    · intro hkept
      exact ⟨_, Utf8.decode?_eq_some_iff.mpr hkept.symm⟩
    · rintro ⟨cs, hcs⟩
      rw [Utf8.decode?_eq_some_iff.mp hcs, Utf8.decodeLossy_encode]
  · exact ⟨cutBefore_cutAt (toList_ne_nil hmarker) _, not_isInfix_payloadText hmarker payload⟩
  · exact ⟨trims_trimEnds isBlank _, payloadText_again payload readUntil⟩

/-- A payload with a sequence that breaks off, a byte that begins none and another sequence that
breaks off, read up to a marker that begins with what replaces them. -/
theorem payloadText_before_marker_replaced :
    let payload : Bytes := [0x20, 0x61, 0xe2, 0x80, 0xff, 0x20, 0xc3]
    ((none : Option String).getD "" = "" ∧
      (Utf8.encode (payloadText payload none false) = payload ↔
        (Utf8.decode? payload).isSome)) ∧
    "\ufffd " ≠ "" ∧
      CutBefore "\ufffd ".toList (Utf8.decodeLossy payload) " a\ufffd".toList := by
  intro payload
  obtain ⟨hwhole, hcut, -⟩ := payloadText_before_marker payload
  have hread : payloadText payload (some "\ufffd ") false = " a\ufffd".toList := by
    decide +kernel
  exact ⟨⟨rfl, hwhole none rfl⟩, by decide, hread ▸ (hcut "\ufffd " (by decide)).1⟩

end SerialLink
