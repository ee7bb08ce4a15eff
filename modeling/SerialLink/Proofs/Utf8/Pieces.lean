import Mathlib.Data.List.Induction
import SerialLink.Proofs.Utf8

/-!
# SerialLink.Proofs.Utf8.Pieces

Where the pieces of a byte string end, and what they say.

1. No byte that continues a sequence begins one.  So a byte string may be cut in front of every
   byte that continues no sequence, and its pieces are those of the two parts, ill-formed or not
   (`pieces_append`).  An encoded text begins with such a byte (`begins_encode`).
2. A well-formed piece consists of the bytes of its character (`piece_eq_some`).  So nothing is
   decoded but what was encoded (`decode?_eq_some_iff`).
3. A byte of a character is its code point, or beyond those of ASCII
   (`eq_or_le_of_mem_encodeChar`).
-/

namespace SerialLink.Text.Utf8

open SerialLink

variable {b : UInt8} {l : Lead} {bs xs ys : Bytes}

/-- What a byte promises as the first of a sequence of one, two, three or four. -/
theorem lead?_cases (h : lead? b = some l) :
    (b.toNat < 0x80 ∧ l = ⟨b.toNat, 0, 0x80, 0xbf⟩) ∨
    (0xc2 ≤ b.toNat ∧ b.toNat < 0xe0 ∧ l = ⟨b.toNat - 0xc0, 1, 0x80, 0xbf⟩) ∨
    (0xe0 ≤ b.toNat ∧ b.toNat < 0xf0 ∧ l = ⟨b.toNat - 0xe0, 2,
      if b.toNat = 0xe0 then 0xa0 else 0x80, if b.toNat = 0xed then 0x9f else 0xbf⟩) ∨
    (0xf0 ≤ b.toNat ∧ b.toNat < 0xf5 ∧ l = ⟨b.toNat - 0xf0, 3,
      if b.toNat = 0xf0 then 0x90 else 0x80, if b.toNat = 0xf4 then 0x8f else 0xbf⟩) := by
  simp only [lead?, beq_iff_eq] at h
  split at h
  next hone => exact .inl ⟨hone, (Option.some.inj h).symm⟩
  split at h
  next => cases h
  next hmore =>
    split at h
    next htwo => exact .inr (.inl ⟨by omega, htwo, (Option.some.inj h).symm⟩)
    split at h
    next hthree => exact .inr (.inr (.inl ⟨by omega, hthree, (Option.some.inj h).symm⟩))
    split at h
    next hfour => exact .inr (.inr (.inr ⟨by omega, hfour, (Option.some.inj h).symm⟩))
    next => cases h

/-! ## where pieces end -/

/-- The byte string does not begin with a byte that continues a sequence. -/
def Begins (bs : Bytes) : Prop := ∀ b ∈ bs.head?, ¬(0x80 ≤ b.toNat ∧ b.toNat ≤ 0xbf)

theorem begins_cons : Begins (b :: bs) ↔ ¬(0x80 ≤ b.toNat ∧ b.toNat ≤ 0xbf) :=
  ⟨fun h => h b rfl, fun h _ hb => Option.some.inj hb ▸ h⟩

/-- A first byte continues no sequence. -/
theorem begins_of_lead? (h : lead? b = some l) : Begins (b :: bs) := by
  rw [begins_cons]
  obtain ⟨hb, -⟩ | ⟨hb, -⟩ | ⟨hb, -⟩ | ⟨hb, -⟩ := lead?_cases h <;> omega

/-- Only such bytes are promised as continue a sequence. -/
theorem range_of_lead? (h : lead? b = some l) : 0x80 ≤ l.low ∧ l.high ≤ 0xbf := by
  obtain ⟨-, rfl⟩ | ⟨-, -, rfl⟩ | ⟨-, -, rfl⟩ | ⟨-, -, rfl⟩ := lead?_cases h
  · exact ⟨Nat.le_refl _, Nat.le_refl _⟩
  · exact ⟨Nat.le_refl _, Nat.le_refl _⟩
  · dsimp only
    constructor <;> split <;> omega
  · dsimp only
    constructor <;> split <;> omega

theorem continuation_append {low high : Nat} (hlow : 0x80 ≤ low) (hhigh : high ≤ 0xbf)
    (hys : Begins ys) (bits used more : Nat) (xs : Bytes) :
    continuation bits used low high more (xs ++ ys) =
      continuation bits used low high more xs := by
  induction more generalizing bits used low high xs with
  | zero => rfl
  | succ more ih =>
    cases xs with
    | cons x xs => simp only [List.cons_append, continuation, ih (Nat.le_refl _) (Nat.le_refl _)]
    | nil =>
      -- the sequence breaks off at the end of the bytes, and what follows does not go on with it
      cases ys with
      | nil => rfl
      | cons y ys =>
        have hstop : ¬(low ≤ y.toNat ∧ y.toNat ≤ high) := fun hrange =>
          begins_cons.mp hys ⟨Nat.le_trans hlow hrange.1, Nat.le_trans hrange.2 hhigh⟩
        simp [continuation, hstop]

theorem continuation_le (bits used low high more : Nat) (bs : Bytes) :
    (continuation bits used low high more bs).2 ≤ used + bs.length := by
  induction more generalizing bits used low high bs with
  | zero => exact Nat.le_add_right used bs.length
  | succ more ih =>
    cases bs with
    | nil => exact Nat.le_refl used
    | cons b bs =>
      rw [continuation]
      split
      · have hrest := ih (bits * 64 + (b.toNat - 0x80)) (used + 1) 0x80 0xbf bs
        rw [List.length_cons]
        omega
      · exact Nat.le_add_right used _

/-- What does not continue a sequence adds nothing to the piece before it. -/
theorem piece_append (hys : Begins ys) (b : UInt8) (xs : Bytes) :
    piece b (xs ++ ys) = piece b xs := by
  unfold piece
  split
  next => rfl
  next l hlead =>
    obtain ⟨hlow, hhigh⟩ := range_of_lead? hlead
    rw [continuation_append hlow hhigh hys]

theorem piece_le (b : UInt8) (bs : Bytes) : (piece b bs).2 ≤ bs.length := by
  unfold piece
  split
  next => exact Nat.zero_le _
  next l _ =>
    have hle := continuation_le l.bits 0 l.low l.high l.more bs
    rwa [Nat.zero_add] at hle

theorem piecesFrom_append_of_le (hys : Begins ys) {skip : Nat} (hskip : skip ≤ xs.length) :
    piecesFrom skip (xs ++ ys) = piecesFrom skip xs ++ pieces ys := by
  induction xs generalizing skip with
  | nil =>
    obtain rfl := Nat.le_zero.mp hskip
    rfl
  | cons x xs ih =>
    cases skip with
    | succ skip => exact ih (Nat.le_of_succ_le_succ hskip)
    | zero => simp only [List.cons_append, piecesFrom, piece_append hys, ih (piece_le x xs)]

/-- A byte string may be cut wherever no sequence goes on. -/
theorem pieces_append (hys : Begins ys) (xs : Bytes) :
    pieces (xs ++ ys) = pieces xs ++ pieces ys :=
  piecesFrom_append_of_le hys (Nat.zero_le _)

/-- An encoded text does not begin with a byte that continues a sequence. -/
theorem begins_encode (cs : List Char) : Begins (encode cs) := by
  cases cs with
  | nil => exact nofun
  | cons c cs =>
    obtain ⟨b, tail, hbytes, hpiece⟩ := piece_encodeChar c []
    rw [encode, List.flatMap_cons, hbytes, List.cons_append]
    unfold piece at hpiece
    split at hpiece
    next => cases hpiece
    next hlead => exact begins_of_lead? hlead

/-! ## what pieces say -/

/-- A sequence goes on with a byte in its range. -/
theorem exists_of_continuation {bits used low high more code : Nat}
    (h : (continuation bits used low high (more + 1) bs).1 = some code) :
    ∃ b rest, bs = b :: rest ∧ low ≤ b.toNat ∧ b.toNat ≤ high ∧
      continuation bits used low high (more + 1) bs =
        continuation (bits * 64 + (b.toNat - 0x80)) (used + 1) 0x80 0xbf more rest := by
  cases bs with
  | nil => cases h
  | cons b rest =>
    rw [continuation] at h ⊢
    split at h
    next hrange =>
      rw [if_pos hrange]
      simp only [Bool.and_eq_true, decide_eq_true_eq] at hrange
      exact ⟨b, rest, rfl, hrange.1, hrange.2, rfl⟩
    next => cases h

/-- The bytes of a character, by its code point. -/
theorem encodeChar_ofNat {v : Nat} (h : v < 0xd800 ∨ 0xdfff < v ∧ v < 0x110000) :
    String.utf8EncodeChar (Char.ofNat v) =
      if v ≤ 0x7f then [UInt8.ofNat v]
      else if v ≤ 0x7ff then [UInt8.ofNat (v / 64 % 32 + 192), UInt8.ofNat (v % 64 + 128)]
      else if v ≤ 0xffff then
        [UInt8.ofNat (v / 4096 % 16 + 224), UInt8.ofNat (v / 64 % 64 + 128),
          UInt8.ofNat (v % 64 + 128)]
      else
        [UInt8.ofNat (v / 262144 % 8 + 240), UInt8.ofNat (v / 4096 % 64 + 128),
          UInt8.ofNat (v / 64 % 64 + 128), UInt8.ofNat (v % 64 + 128)] := by
  have hv : (Char.ofNat v).toNat = v := by
    rw [Char.ofNat, dif_pos h]
    rfl
  generalize Char.ofNat v = c at hv
  subst hv
  rfl

theorem ofNat_eq_of_toNat {n : Nat} (h : n = b.toNat) : UInt8.ofNat n = b := by
  rw [h, UInt8.ofNat_toNat]

section

variable {x y z : UInt8}

theorem encodeChar_one (hb : b.toNat < 0x80) :
    String.utf8EncodeChar (Char.ofNat b.toNat) = [b] := by
  rw [encodeChar_ofNat (by omega), if_pos (by omega), UInt8.ofNat_toNat]

theorem encodeChar_two (hb : 0xc2 ≤ b.toNat ∧ b.toNat < 0xe0)
    (hx : 0x80 ≤ x.toNat ∧ x.toNat ≤ 0xbf) :
    String.utf8EncodeChar (Char.ofNat ((b.toNat - 0xc0) * 64 + (x.toNat - 0x80))) = [b, x] := by
  rw [encodeChar_ofNat (by omega), if_neg (by omega), if_pos (by omega),
    ofNat_eq_of_toNat (b := b) (by omega), ofNat_eq_of_toNat (b := x) (by omega)]

theorem encodeChar_three (hb : 0xe0 ≤ b.toNat ∧ b.toNat < 0xf0)
    (hx : (if b.toNat = 0xe0 then 0xa0 else 0x80) ≤ x.toNat ∧
      x.toNat ≤ if b.toNat = 0xed then 0x9f else 0xbf)
    (hy : 0x80 ≤ y.toNat ∧ y.toNat ≤ 0xbf) :
    String.utf8EncodeChar (Char.ofNat
      (((b.toNat - 0xe0) * 64 + (x.toNat - 0x80)) * 64 + (y.toNat - 0x80))) = [b, x, y] := by
  have hxrange : 0x80 ≤ x.toNat ∧ x.toNat ≤ 0xbf ∧ (b.toNat = 0xe0 → 0xa0 ≤ x.toNat) ∧
      (b.toNat = 0xed → x.toNat ≤ 0x9f) := by
    split at hx <;> split at hx <;> omega
  rw [encodeChar_ofNat (by omega), if_neg (by omega), if_neg (by omega), if_pos (by omega),
    ofNat_eq_of_toNat (b := b) (by omega), ofNat_eq_of_toNat (b := x) (by omega),
    ofNat_eq_of_toNat (b := y) (by omega)]

theorem encodeChar_four (hb : 0xf0 ≤ b.toNat ∧ b.toNat < 0xf5)
    (hx : (if b.toNat = 0xf0 then 0x90 else 0x80) ≤ x.toNat ∧
      x.toNat ≤ if b.toNat = 0xf4 then 0x8f else 0xbf)
    (hy : 0x80 ≤ y.toNat ∧ y.toNat ≤ 0xbf) (hz : 0x80 ≤ z.toNat ∧ z.toNat ≤ 0xbf) :
    String.utf8EncodeChar (Char.ofNat
      ((((b.toNat - 0xf0) * 64 + (x.toNat - 0x80)) * 64 + (y.toNat - 0x80)) * 64 +
        (z.toNat - 0x80))) = [b, x, y, z] := by
  have hxrange : 0x80 ≤ x.toNat ∧ x.toNat ≤ 0xbf ∧ (b.toNat = 0xf0 → 0x90 ≤ x.toNat) ∧
      (b.toNat = 0xf4 → x.toNat ≤ 0x8f) := by
    split at hx <;> split at hx <;> omega
  rw [encodeChar_ofNat (by omega), if_neg (by omega), if_neg (by omega), if_neg (by omega),
    ofNat_eq_of_toNat (b := b) (by omega), ofNat_eq_of_toNat (b := x) (by omega),
    ofNat_eq_of_toNat (b := y) (by omega), ofNat_eq_of_toNat (b := z) (by omega)]

end

theorem piece_of_lead? (h : lead? b = some l) (bs : Bytes) :
    piece b bs = ((continuation l.bits 0 l.low l.high l.more bs).1.map Char.ofNat,
      (continuation l.bits 0 l.low l.high l.more bs).2) := by
  rw [piece, h]

/-- A well-formed piece consists of the bytes of its character. -/
theorem piece_eq_some {c : Char} (h : (piece b bs).1 = some c) :
    ∃ tail rest, bs = tail ++ rest ∧ (piece b bs).2 = tail.length ∧
      String.utf8EncodeChar c = b :: tail := by
  cases hlead : lead? b with
  | none => simp [piece, hlead] at h
  | some l =>
    rw [piece_of_lead? hlead] at h ⊢
    obtain ⟨code, hcode, rfl⟩ := Option.map_eq_some_iff.mp h
    obtain ⟨hb, rfl⟩ | ⟨hlow, hhigh, rfl⟩ | ⟨hlow, hhigh, rfl⟩ | ⟨hlow, hhigh, rfl⟩ :=
      lead?_cases hlead
    · obtain rfl : b.toNat = code := Option.some.inj hcode
      exact ⟨[], bs, rfl, rfl, encodeChar_one hb⟩
    · obtain ⟨x, rest, rfl, hx, hx', heq⟩ := exists_of_continuation hcode
      rw [heq] at hcode ⊢
      obtain rfl := Option.some.inj hcode
      exact ⟨[x], rest, rfl, rfl, encodeChar_two ⟨hlow, hhigh⟩ ⟨hx, hx'⟩⟩
    · obtain ⟨x, rest, rfl, hx, hx', heq⟩ := exists_of_continuation hcode
      rw [heq] at hcode ⊢
      obtain ⟨y, rest, rfl, hy, hy', heq⟩ := exists_of_continuation hcode
      rw [heq] at hcode ⊢
      obtain rfl := Option.some.inj hcode
      exact ⟨[x, y], rest, rfl, rfl, encodeChar_three ⟨hlow, hhigh⟩ ⟨hx, hx'⟩ ⟨hy, hy'⟩⟩
    · obtain ⟨x, rest, rfl, hx, hx', heq⟩ := exists_of_continuation hcode
      rw [heq] at hcode ⊢
      obtain ⟨y, rest, rfl, hy, hy', heq⟩ := exists_of_continuation hcode
      rw [heq] at hcode ⊢
      obtain ⟨z, rest, rfl, hz, hz', heq⟩ := exists_of_continuation hcode
      rw [heq] at hcode ⊢
      obtain rfl := Option.some.inj hcode
      exact ⟨[x, y, z], rest, rfl, rfl,
        encodeChar_four ⟨hlow, hhigh⟩ ⟨hx, hx'⟩ ⟨hy, hy'⟩ ⟨hz, hz'⟩⟩

/-- Pieces that are all well-formed are those of an encoded text. -/
theorem eq_encode_of_pieces {cs : List Char} (h : pieces bs = cs.map some) : bs = encode cs := by
  induction cs generalizing bs with
  | nil =>
    cases bs with
    | nil => rfl
    | cons b bs => cases h
  | cons c cs ih =>
    cases bs with
    | nil => cases h
    | cons b bs =>
      rw [pieces, piecesFrom, List.map_cons] at h
      obtain ⟨hpiece, hrest⟩ := List.cons.inj h
      obtain ⟨tail, rest, rfl, hlength, hbytes⟩ := piece_eq_some hpiece
      rw [hlength, piecesFrom_append] at hrest
      rw [encode, List.flatMap_cons, hbytes, List.cons_append, ih hrest]
      rfl

theorem map_some_of_mapM_id {ps : List (Option Char)} {cs : List Char}
    (h : ps.mapM id = some cs) : ps = cs.map some := by
  induction ps generalizing cs with
  | nil => cases cs <;> simp_all
  | cons p ps ih =>
    rw [List.mapM_cons] at h
    obtain ⟨c, hc, h⟩ := Option.bind_eq_some_iff.mp h
    obtain ⟨rest, hrest, h⟩ := Option.bind_eq_some_iff.mp h
    obtain rfl := Option.some.inj h
    rw [List.map_cons, ← ih hrest]
    exact congrArg (· :: ps) hc

/-- Nothing is decoded but what was encoded. -/
theorem decode?_eq_some_iff {cs : List Char} : decode? bs = some cs ↔ bs = encode cs := by
  constructor
  · intro h
    exact eq_encode_of_pieces (map_some_of_mapM_id h)
  · rintro rfl
    exact decode?_encode cs

/-- Lenient decoding undoes encoding as well. -/
theorem decodeLossy_encode (cs : List Char) : decodeLossy (encode cs) = cs := by
  rw [decodeLossy, pieces_encode, List.map_map]
  exact List.map_id cs

/-- Encoded texts around a byte string are decoded apart from it. -/
theorem decode?_between (u v : List Char) (bs : Bytes) :
    decode? (encode u ++ bs ++ encode v) = (decode? bs).map fun cs => u ++ cs ++ v := by
  have hpieces : pieces (encode u ++ bs ++ encode v) = u.map some ++ (pieces bs ++ v.map some) := by
    rw [List.append_assoc, pieces_encode_append, pieces_append (begins_encode v), pieces_encode]
  rw [decode?, decode?, hpieces, List.mapM_append, List.mapM_append, mapM_id_map_some,
    mapM_id_map_some]
  cases (pieces bs).mapM id with
  | none => rfl
  | some cs => simp

/-! ## the bytes of a character -/

/-- A byte of a character is its code point, or beyond those of ASCII. -/
theorem eq_or_le_of_mem_encodeChar {c : Char} (hb : b ∈ String.utf8EncodeChar c) :
    b.toNat = c.toNat ∨ 0x80 ≤ b.toNat := by
  have hcode := code_lt c
  have hbytes := encodeChar_ofNat hcode
  rw [Char.ofNat_toNat] at hbytes
  rw [hbytes] at hb
  split at hb
  · rw [List.mem_singleton.mp hb]
    exact .inl (toNat_ofNat (by omega))
  split at hb
  · simp only [List.mem_cons, List.not_mem_nil, or_false] at hb
    obtain rfl | rfl := hb <;> rw [toNat_ofNat (by omega)] <;> omega
  split at hb
  · simp only [List.mem_cons, List.not_mem_nil, or_false] at hb
    obtain rfl | rfl | rfl := hb <;> rw [toNat_ofNat (by omega)] <;> omega
  · simp only [List.mem_cons, List.not_mem_nil, or_false] at hb
    obtain rfl | rfl | rfl | rfl := hb <;> rw [toNat_ofNat (by omega)] <;> omega

/-- The first byte of a text is one of its first character. -/
theorem exists_of_head?_encode {cs : List Char} (h : (encode cs).head? = some b) :
    ∃ c, cs.head? = some c ∧ b ∈ String.utf8EncodeChar c := by
  cases cs with
  | nil => cases h
  | cons c cs =>
    obtain ⟨first, tail, hbytes, -⟩ := piece_encodeChar c []
    rw [encode, List.flatMap_cons, hbytes] at h
    obtain rfl := Option.some.inj h
    exact ⟨c, rfl, hbytes ▸ List.mem_cons_self⟩

/-- The last byte of a text is one of its last character. -/
theorem exists_of_getLast?_encode {cs : List Char} (h : (encode cs).getLast? = some b) :
    ∃ c, cs.getLast? = some c ∧ b ∈ String.utf8EncodeChar c := by
  cases cs using List.reverseRecOn with
  | nil => cases h
  | append_singleton cs c =>
    obtain ⟨first, tail, hbytes, -⟩ := piece_encodeChar c []
    have hlast : (encode (cs ++ [c])).getLast? = (String.utf8EncodeChar c).getLast? := by
      rw [encode, List.flatMap_append, List.flatMap_singleton, hbytes, List.getLast?_append,
        List.getLast?_cons, Option.some_or]
    exact ⟨c, List.getLast?_concat, List.mem_of_getLast? (hlast ▸ h)⟩

end SerialLink.Text.Utf8
