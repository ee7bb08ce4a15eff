import SerialLink.Text.Utf8

/-!
# SerialLink.Proofs.Utf8

What is encoded is decoded again.

1. The bytes of one character are one well-formed piece, whatever follows them
   (`piece_encodeChar`): the first byte promises as many as follow, and each of these is in
   its range.
2. So the pieces of an encoded text are its characters (`pieces_encode`), and strict decoding
   undoes encoding (`decode?_encode`).
-/

namespace SerialLink.Text.Utf8

open SerialLink

/-! ## one character -/

/-- The code points of characters: those of the halves of pairs are none. -/
theorem code_lt (c : Char) : c.toNat < 0xd800 ∨ 0xdfff < c.toNat ∧ c.toNat < 0x110000 :=
  c.valid

theorem toNat_ofNat {n : Nat} (h : n < 256) : (UInt8.ofNat n).toNat = n :=
  UInt8.toNat_ofNat_of_lt' h

/-- A byte that continues a sequence carries six bits. -/
theorem continuation_tail {low high n : Nat} (hlow : low ≤ n % 64 + 128)
    (hhigh : n % 64 + 128 ≤ high) (bits used more : Nat) (bs : Bytes) :
    continuation bits used low high (more + 1) (UInt8.ofNat (n % 64 + 128) :: bs) =
      continuation (bits * 64 + n % 64) (used + 1) 0x80 0xbf more bs := by
  have hbyte := toNat_ofNat (n := n % 64 + 128) (by omega)
  rw [continuation, hbyte, if_pos (by simp [hlow, hhigh]), Nat.add_sub_cancel]

theorem continuation_last {n : Nat} (bits used more : Nat) (bs : Bytes) :
    continuation bits used 0x80 0xbf (more + 1) (UInt8.ofNat (n % 64 + 128) :: bs) =
      continuation (bits * 64 + n % 64) (used + 1) 0x80 0xbf more bs :=
  continuation_tail (by omega) (by omega) bits used more bs

theorem piece_eq {b : UInt8} {l : Lead} (hlead : lead? b = some l) {bs : Bytes} {code used : Nat}
    (hrest : continuation l.bits 0 l.low l.high l.more bs = (some code, used)) :
    piece b bs = (some (Char.ofNat code), used) := by
  simp [piece, hlead, hrest]

theorem piece_one {v : Nat} (h : v < 0x80) (bs : Bytes) :
    piece (UInt8.ofNat v) bs = (some (Char.ofNat v), 0) := by
  have hlead : lead? (UInt8.ofNat v) = some ⟨v, 0, 0x80, 0xbf⟩ := by
    simp only [lead?, toNat_ofNat (show v < 256 by omega)]
    rw [if_pos h]
  exact piece_eq hlead rfl

theorem piece_two {v : Nat} (h : 0x80 ≤ v) (h' : v < 0x800) (bs : Bytes) :
    piece (UInt8.ofNat (v / 64 % 32 + 192)) (UInt8.ofNat (v % 64 + 128) :: bs) =
      (some (Char.ofNat v), 1) := by
  have hlead : lead? (UInt8.ofNat (v / 64 % 32 + 192)) = some ⟨v / 64, 1, 0x80, 0xbf⟩ := by
    have hbits : v / 64 % 32 = v / 64 := by omega
    simp only [lead?, toNat_ofNat (show v / 64 % 32 + 192 < 256 by omega)]
    rw [if_neg (by omega), if_neg (by omega), if_pos (by omega), hbits]
    simp
  have hcode : v / 64 * 64 + v % 64 = v := by omega
  refine piece_eq hlead ?_
  rw [continuation_last, hcode]
  rfl

/-- The first byte of three forbids that two would have been enough, and the halves of pairs. -/
theorem piece_three {v : Nat} (h : 0x800 ≤ v) (h' : v < 0x10000)
    (hcode : v < 0xd800 ∨ 0xdfff < v) (bs : Bytes) :
    piece (UInt8.ofNat (v / 4096 % 16 + 224))
        (UInt8.ofNat (v / 64 % 64 + 128) :: UInt8.ofNat (v % 64 + 128) :: bs) =
      (some (Char.ofNat v), 2) := by
  have hlead : lead? (UInt8.ofNat (v / 4096 % 16 + 224)) = some ⟨v / 4096, 2,
      if v / 4096 = 0 then 0xa0 else 0x80, if v / 4096 = 13 then 0x9f else 0xbf⟩ := by
    have hbits : v / 4096 % 16 = v / 4096 := by omega
    simp only [lead?, toNat_ofNat (show v / 4096 % 16 + 224 < 256 by omega)]
    rw [if_neg (by omega), if_neg (by omega), if_neg (by omega), if_pos (by omega), hbits]
    simp
  have hsum : (v / 4096 * 64 + v / 64 % 64) * 64 + v % 64 = v := by omega
  refine piece_eq hlead ?_
  dsimp only
  rw [continuation_tail (by split <;> omega) (by split <;> omega), continuation_last, hsum]
  rfl

theorem piece_four {v : Nat} (h : 0x10000 ≤ v) (h' : v < 0x110000) (bs : Bytes) :
    piece (UInt8.ofNat (v / 262144 % 8 + 240))
        (UInt8.ofNat (v / 4096 % 64 + 128) :: UInt8.ofNat (v / 64 % 64 + 128) ::
          UInt8.ofNat (v % 64 + 128) :: bs) =
      (some (Char.ofNat v), 3) := by
  have hlead : lead? (UInt8.ofNat (v / 262144 % 8 + 240)) = some ⟨v / 262144, 3,
      if v / 262144 = 0 then 0x90 else 0x80, if v / 262144 = 4 then 0x8f else 0xbf⟩ := by
    have hbits : v / 262144 % 8 = v / 262144 := by omega
    simp only [lead?, toNat_ofNat (show v / 262144 % 8 + 240 < 256 by omega)]
    rw [if_neg (by omega), if_neg (by omega), if_neg (by omega), if_neg (by omega),
      if_pos (by omega), hbits]
    simp
  have hsum : ((v / 262144 * 64 + v / 4096 % 64) * 64 + v / 64 % 64) * 64 + v % 64 = v := by
    omega
  refine piece_eq hlead ?_
  dsimp only
  rw [continuation_tail (by split <;> omega) (by split <;> omega), continuation_last,
    continuation_last, hsum]
  rfl

/-- The bytes of a character are one piece, which is this character. -/
theorem piece_encodeChar (c : Char) (bs : Bytes) :
    ∃ b tail, String.utf8EncodeChar c = b :: tail ∧
      piece b (tail ++ bs) = (some c, tail.length) := by
  have hcode := code_lt c
  suffices h : ∃ b tail, String.utf8EncodeChar c = b :: tail ∧
      piece b (tail ++ bs) = (some (Char.ofNat c.toNat), tail.length) by
    rwa [Char.ofNat_toNat] at h
  show ∃ b tail, (if c.toNat ≤ 127 then _ else if c.toNat ≤ 2047 then _
    else if c.toNat ≤ 65535 then _ else _) = b :: tail ∧ _
  split
  · exact ⟨_, _, rfl, piece_one (v := c.toNat) (by omega) bs⟩
  · split
    · exact ⟨_, _, rfl, piece_two (v := c.toNat) (by omega) (by omega) bs⟩
    · split
      · exact ⟨_, _, rfl, piece_three (v := c.toNat) (by omega) (by omega) (by omega) bs⟩
      · exact ⟨_, _, rfl, piece_four (v := c.toNat) (by omega) (by omega) bs⟩

/-! ## texts -/

theorem encode_append (cs ds : List Char) : encode (cs ++ ds) = encode cs ++ encode ds :=
  List.flatMap_append

theorem piecesFrom_append (xs ys : Bytes) : piecesFrom xs.length (xs ++ ys) = pieces ys := by
  induction xs with
  | nil => rfl
  | cons x xs ih => exact ih

/-- The pieces of an encoded text are its characters, whatever follows it. -/
theorem pieces_encode_append (cs : List Char) (bs : Bytes) :
    pieces (encode cs ++ bs) = cs.map some ++ pieces bs := by
  induction cs with
  | nil => rfl
  | cons c cs ih =>
    obtain ⟨b, tail, hbytes, hpiece⟩ := piece_encodeChar c (encode cs ++ bs)
    have hencode : encode (c :: cs) ++ bs = b :: (tail ++ (encode cs ++ bs)) := by
      rw [encode, List.flatMap_cons, hbytes, List.append_assoc]
      rfl
    rw [hencode, pieces, piecesFrom, hpiece]
    dsimp only
    rw [piecesFrom_append, ih, List.map_cons, List.cons_append]

theorem pieces_encode (cs : List Char) : pieces (encode cs) = cs.map some := by
  have h := pieces_encode_append cs []
  rwa [List.append_nil, show pieces [] = [] from rfl, List.append_nil] at h

theorem mapM_id_map_some (cs : List Char) : (cs.map some).mapM id = some cs := by
  induction cs with
  | nil => rfl
  | cons c cs ih => simp [ih]

/-- Strict decoding undoes encoding. -/
theorem decode?_encode (cs : List Char) : decode? (encode cs) = some cs := by
  rw [decode?, pieces_encode, mapM_id_map_some]

end SerialLink.Text.Utf8
