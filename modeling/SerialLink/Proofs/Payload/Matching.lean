import SerialLink.Payload.Expected
import SerialLink.Payload.Value
import SerialLink.Proofs.Trimming

/-!
# SerialLink.Proofs.Payload.Matching

Which payloads are an expected response.

1. The encoding of a text matches the text without the blanks around it
   (`Expected.accepts_encode`).
2. Blanks around a payload change nothing (`Expected.accepts_text_between`,
   `Expected.accepts_bytes_between`), whether it is well-formed or not: blanks are decoded apart
   from the payload, so that they neither complete an ill-formed piece nor break one off.
3. So what was sent matches the joined texts of its values, whatever blanks it ends with
   (`Expected.accepts_padded`).
-/

namespace SerialLink

open Text

/-! ## what is sent -/

/-- Texts that are joined are encoded one by one. -/
theorem encode_intercalate (joiner : List Char) (texts : List (List Char)) :
    Utf8.encode (joiner.intercalate texts) =
      (Utf8.encode joiner).intercalate (texts.map Utf8.encode) := by
  induction texts with
  | nil => rfl
  | cons text texts ih =>
    cases texts with
    | nil => rw [List.map_singleton, List.intercalate_singleton, List.intercalate_singleton]
    | cons next texts =>
      simp only [List.map_cons] at ih ⊢
      rw [List.intercalate_cons_cons, List.intercalate_cons_cons, Utf8.encode_append,
        Utf8.encode_append, ih]

/-- Values that become texts are joined to a text. -/
theorem joined_of_texts {values : List SendValue} {texts : List (List Char)}
    (h : values.map SendValue.normalize = texts.map Utf8.encode) (joiner : String) :
    joined (Utf8.bytes joiner) values = Utf8.encode (joiner.toList.intercalate texts) := by
  rw [joined, h, encode_intercalate]
  rfl

namespace Expected

/-! ## blanks around a payload -/

theorem accepts_encode {pattern : String} {cs : List Char} :
    (Expected.text pattern true).accepts (Utf8.encode cs) = true ↔
      Trims isBlank cs pattern.toList := by
  rw [accepts, Utf8.decode?_encode]
  exact beq_iff_eq.trans trimEnds_eq_iff

theorem accepts_text_between (pattern : String) (payload : Bytes) {front back : List Char}
    (hfront : ∀ c ∈ front, isBlank c) (hback : ∀ c ∈ back, isBlank c) :
    (Expected.text pattern true).accepts (Utf8.encode front ++ payload ++ Utf8.encode back) =
      (Expected.text pattern true).accepts payload := by
  simp only [accepts, Utf8.decode?_between]
  cases Utf8.decode? payload with
  | none => rfl
  | some cs =>
    have htrim : trim (front ++ cs ++ back) = trim cs := trimEnds_between hfront hback cs
    simp only [Option.map_some, if_true, htrim]

theorem accepts_bytes_between (pattern payload : Bytes) {front back : Bytes}
    (hfront : ∀ b ∈ front, isBlankByte b) (hback : ∀ b ∈ back, isBlankByte b) :
    (Expected.bytes pattern true).accepts (front ++ payload ++ back) =
      (Expected.bytes pattern true).accepts payload := by
  have htrim : trimBlankBytes (front ++ payload ++ back) = trimBlankBytes payload :=
    trimEnds_between hfront hback payload
  simp only [accepts, if_true, htrim]

/-- What was sent matches the joined text, whatever blanks it ends with. -/
theorem accepts_sent_iff {values : List SendValue} {joiner ending : String} {cs : List Char}
    (hjoined : joined (Utf8.bytes joiner) values = Utf8.encode cs)
    (hending : ∀ c ∈ ending.toList, isBlank c) (pattern : String) :
    (Expected.text pattern true).accepts (encode values ⟨ending, joiner⟩) = true ↔
      Trims isBlank cs pattern.toList := by
  have hsent : encode values ⟨ending, joiner⟩ =
      Utf8.encode [] ++ Utf8.encode cs ++ Utf8.encode ending.toList := by
    rw [encode, hjoined]
    rfl
  rw [hsent, accepts_text_between pattern _ (List.forall_mem_nil _) hending, accepts_encode]

/-- Blanks around a payload make no difference to an expected response that is not compared as it
is: blank characters to a text, whether the payload is a text or not, and blank bytes to bytes.
So what was sent with blanks at its end matches exactly the joined text of the values without the
blanks around it: if the joined values are a text, and if each of the values is. -/
theorem accepts_padded :
    (∀ (pattern : String) (payload : Bytes) (front back : String),
      (∀ c ∈ front.toList, isBlank c) → (∀ c ∈ back.toList, isBlank c) →
      (Expected.text pattern true).accepts (Utf8.bytes front ++ payload ++ Utf8.bytes back) =
        (Expected.text pattern true).accepts payload) ∧
    (∀ pattern payload front back : Bytes,
      (∀ b ∈ front, isBlankByte b) → (∀ b ∈ back, isBlankByte b) →
      (Expected.bytes pattern true).accepts (front ++ payload ++ back) =
        (Expected.bytes pattern true).accepts payload) ∧
    ∀ (pattern : String) (values : List SendValue) (options : SendOptions),
      (∀ c ∈ options.ending.toList, isBlank c) →
      (∀ cs, joined (Utf8.bytes options.joiner) values = Utf8.encode cs →
        ((Expected.text pattern true).accepts (encode values options) = true ↔
          Trims isBlank cs pattern.toList)) ∧
      ∀ texts, values.map SendValue.normalize = texts.map Utf8.encode →
        ((Expected.text pattern true).accepts (encode values options) = true ↔
          Trims isBlank (options.joiner.toList.intercalate texts) pattern.toList) := by
  refine ⟨fun pattern payload front back hfront hback =>
      accepts_text_between pattern payload hfront hback,
    fun pattern payload front back hfront hback =>
      accepts_bytes_between pattern payload hfront hback, ?_⟩
  intro pattern values options hending
  refine ⟨fun cs hjoined => accepts_sent_iff hjoined hending pattern, fun texts htexts => ?_⟩
  exact accepts_sent_iff (joined_of_texts htexts options.joiner) hending pattern

/-- A payload that ends within a sequence, in front of blanks of two and of three bytes; a payload
that is no text; and an echo of three values, one of them given as bytes. -/
theorem accepts_padded_truncated :
    (Expected.text "OK" true).accepts
        (Utf8.bytes "\u3000" ++ (Utf8.bytes "OK" ++ [0xe2, 0x80]) ++ Utf8.bytes "\u0085\u2028") =
      (Expected.text "OK" true).accepts (Utf8.bytes "OK" ++ [0xe2, 0x80]) ∧
    (Expected.bytes [0xff] true).accepts ([0x0c] ++ [0xff] ++ [0x20, 0x0a]) =
      (Expected.bytes [0xff] true).accepts [0xff] ∧
    ((Expected.text "hello\u00a0\u00e9\u00a0world" true).accepts
        (encode [.text " hello", .bytes [0x20, 0xc3, 0xa9], .text "world\t"]
          ⟨"\r\n", "\u00a0"⟩) = true) := by
  obtain ⟨htext, hbytes, hsent⟩ := accepts_padded
  refine ⟨htext _ _ _ _ (List.all_eq_true.mp (by decide)) (List.all_eq_true.mp (by decide)),
    hbytes _ _ _ _ (List.all_eq_true.mp (by decide)) (List.all_eq_true.mp (by decide)), ?_⟩
  have hending : ∀ c ∈ "\r\n".toList, isBlank c := List.all_eq_true.mp (by decide)
  exact ((hsent _ _ ⟨"\r\n", "\u00a0"⟩ hending).2 ["hello".toList, ['\u00e9'], "world".toList]
    (by decide +kernel)).mpr (trimEnds_eq_iff.mp (by decide +kernel))

end Expected

end SerialLink
