import Wordsheet.Text.Utf8

/-! # Texts and their bytes

Reading the bytes of a text gives the text again, strictly and leniently. A byte below 0x80 among
the bytes of a character is the whole character.
-/

namespace Wordsheet.Text.Utf8

open String (utf8EncodeChar)

/-! ## One character -/

theorem continued_cons {low high value width need : Nat} {b : UInt8} {rest : List UInt8}
    (hlow : low ≤ b.toNat) (hhigh : b.toNat ≤ high) :
    continued (need + 1) low high value width (b :: rest) =
      continued need 0x80 0xbf (64 * value + (b.toNat - 0x80)) (width + 1) rest := by
  rw [continued, if_pos (by simp [hlow, hhigh])]

/-- A byte that continues a character holds six of its bits. -/
theorem toNat_tail (n : Nat) : (UInt8.ofNat (n % 64 + 128)).toNat = n % 64 + 128 := by
  rw [UInt8.toNat_ofNat']
  omega

theorem firstPiece_two {n : Nat} (hlow : 0x80 ≤ n) (hhigh : n ≤ 0x7ff) (rest : List UInt8) :
    firstPiece (UInt8.ofNat (n / 64 % 32 + 192)) (UInt8.ofNat (n % 64 + 128) :: rest) =
      .scalar (Char.ofNat n) 2 := by
  have hb : (UInt8.ofNat (n / 64 % 32 + 192)).toNat = n / 64 + 192 := by
    rw [UInt8.toNat_ofNat']
    omega
  have ht := toNat_tail n
  have hvalue : 64 * (n / 64 + 192 - 0xc0) + (n % 64 + 128 - 0x80) = n := by omega
  simp only [firstPiece, hb]
  rw [if_neg (by omega), if_neg (by omega), if_pos (by omega),
    continued_cons (by omega) (by omega), continued, ht, hvalue]

theorem firstPiece_three {n : Nat} (hlow : 0x800 ≤ n) (hhigh : n ≤ 0xffff)
    (valid : n.isValidChar) (rest : List UInt8) :
    firstPiece (UInt8.ofNat (n / 4096 % 16 + 224))
        (UInt8.ofNat (n / 64 % 64 + 128) :: UInt8.ofNat (n % 64 + 128) :: rest) =
      .scalar (Char.ofNat n) 3 := by
  have hb : (UInt8.ofNat (n / 4096 % 16 + 224)).toNat = n / 4096 + 224 := by
    rw [UInt8.toNat_ofNat']
    omega
  have hs := toNat_tail (n / 64)
  have ht := toNat_tail n
  -- the second byte is bound further so that nothing shorter and no surrogate is meant
  have hsLow : (if n / 4096 + 224 == 0xe0 then 0xa0 else 0x80) ≤ n / 64 % 64 + 128 := by
    split
    · next least => rw [beq_iff_eq] at least; omega
    · omega
  have hsHigh : n / 64 % 64 + 128 ≤ (if n / 4096 + 224 == 0xed then 0x9f else 0xbf) := by
    split
    · next last => rw [beq_iff_eq] at last; rcases valid with h | h <;> omega
    · omega
  have hvalue : 64 * (64 * (n / 4096 + 224 - 0xe0) + (n / 64 % 64 + 128 - 0x80)) +
      (n % 64 + 128 - 0x80) = n := by omega
  simp only [firstPiece, hb]
  rw [if_neg (by omega), if_neg (by omega), if_neg (by omega), if_pos (by omega),
    continued_cons (by rw [hs]; exact hsLow) (by rw [hs]; exact hsHigh),
    continued_cons (by omega) (by omega), continued, hs, ht, hvalue]

theorem firstPiece_four {n : Nat} (hlow : 0x10000 ≤ n) (valid : n.isValidChar)
    (rest : List UInt8) :
    firstPiece (UInt8.ofNat (n / 262144 % 8 + 240))
        (UInt8.ofNat (n / 4096 % 64 + 128) :: UInt8.ofNat (n / 64 % 64 + 128) ::
          UInt8.ofNat (n % 64 + 128) :: rest) =
      .scalar (Char.ofNat n) 4 := by
  have hhigh : n < 0x110000 := by
    rcases valid with h | h <;> omega
  have hb : (UInt8.ofNat (n / 262144 % 8 + 240)).toNat = n / 262144 + 240 := by
    rw [UInt8.toNat_ofNat']
    omega
  have hs := toNat_tail (n / 4096)
  have hm := toNat_tail (n / 64)
  have ht := toNat_tail n
  have hsLow : (if n / 262144 + 240 == 0xf0 then 0x90 else 0x80) ≤ n / 4096 % 64 + 128 := by
    split
    · next least => rw [beq_iff_eq] at least; omega
    · omega
  have hsHigh : n / 4096 % 64 + 128 ≤ (if n / 262144 + 240 == 0xf4 then 0x8f else 0xbf) := by
    split
    · next last => rw [beq_iff_eq] at last; omega
    · omega
  have hvalue : 64 * (64 * (64 * (n / 262144 + 240 - 0xf0) + (n / 4096 % 64 + 128 - 0x80)) +
      (n / 64 % 64 + 128 - 0x80)) + (n % 64 + 128 - 0x80) = n := by omega
  simp only [firstPiece, hb]
  rw [if_neg (by omega), if_neg (by omega), if_neg (by omega), if_neg (by omega),
    if_pos (by omega), continued_cons (by rw [hs]; exact hsLow) (by rw [hs]; exact hsHigh),
    continued_cons (by omega) (by omega), continued_cons (by omega) (by omega), continued,
    hs, hm, ht, hvalue]

theorem firstPiece_one {n : Nat} (h : n ≤ 0x7f) (rest : List UInt8) :
    firstPiece (UInt8.ofNat n) rest = .scalar (Char.ofNat n) 1 := by
  have hb : (UInt8.ofNat n).toNat = n := by
    rw [UInt8.toNat_ofNat']
    omega
  simp only [firstPiece, hb]
  rw [if_pos (by omega)]

theorem pieces_of_firstPiece {b : UInt8} {tail rest : List UInt8} {c : Char}
    (h : firstPiece b (tail ++ rest) = .scalar c (tail.length + 1)) :
    pieces (b :: tail ++ rest) = .scalar c (b :: tail).length :: pieces rest := by
  rw [List.cons_append, pieces, h]
  simp [Piece.width]

/-- The first piece of the bytes of a character is the character. -/
theorem pieces_encodeChar (c : Char) (rest : List UInt8) :
    pieces (utf8EncodeChar c ++ rest) =
      .scalar c (utf8EncodeChar c).length :: pieces rest := by
  have hc : Char.ofNat c.val.toNat = c := Char.ofNat_toNat c
  have valid : c.val.toNat.isValidChar := c.valid
  simp only [utf8EncodeChar]
  split
  · next one =>
      exact pieces_of_firstPiece ((firstPiece_one one _).trans (by rw [hc]; rfl))
  · split
    · next two =>
        exact pieces_of_firstPiece ((firstPiece_two (by omega) two _).trans (by rw [hc]; rfl))
    · split
      · next three =>
          exact pieces_of_firstPiece
            ((firstPiece_three (by omega) three valid _).trans (by rw [hc]; rfl))
      · exact pieces_of_firstPiece
          ((firstPiece_four (by omega) valid _).trans (by rw [hc]; rfl))

/-! ## Texts -/

theorem encode_cons (c : Char) (cs : List Char) :
    encode (c :: cs) = utf8EncodeChar c ++ encode cs :=
  List.flatMap_cons

theorem textOf_pieces_encode (bytes : List UInt8) (position : Nat) (cs : List Char) :
    textOf bytes position (pieces (encode cs)) = .ok cs := by
  induction cs generalizing position with
  | nil => rw [encode, List.flatMap_nil, pieces, textOf]
  | cons c cs ih =>
      rw [encode_cons, pieces_encodeChar, textOf, ih]
      rfl

/-- The bytes of a text are read as the text. -/
theorem decode_encode (cs : List Char) : decode (encode cs) = .ok cs :=
  textOf_pieces_encode ..

theorem decodeLossy_encode (cs : List Char) : decodeLossy (encode cs) = cs := by
  induction cs with
  | nil => rw [decodeLossy, encode, List.flatMap_nil, pieces, List.map_nil]
  | cons c cs ih =>
      rw [decodeLossy] at ih ⊢
      rw [encode_cons, pieces_encodeChar, List.map_cons, ih]

/-! ## Bytes below 0x80 -/

/-- A byte below 0x80 stands for a whole character. -/
theorem encodeChar_of_mem {c : Char} {b : UInt8} (hb : b ∈ utf8EncodeChar c)
    (ascii : b.toNat < 0x80) : c = Char.ofNat b.toNat := by
  have hc : c = Char.ofNat c.val.toNat := (Char.ofNat_toNat c).symm
  simp only [utf8EncodeChar] at hb
  split at hb
  · next one =>
      rw [hc, List.mem_singleton.1 hb, UInt8.toNat_ofNat', Nat.mod_eq_of_lt (by omega)]
  · -- every byte of a longer character is at least 0x80
    exfalso
    split at hb
    · simp only [List.mem_cons, List.not_mem_nil, or_false] at hb
      rcases hb with rfl | rfl <;> rw [UInt8.toNat_ofNat'] at ascii <;> omega
    · split at hb
      · simp only [List.mem_cons, List.not_mem_nil, or_false] at hb
        rcases hb with rfl | rfl | rfl <;> rw [UInt8.toNat_ofNat'] at ascii <;> omega
      · simp only [List.mem_cons, List.not_mem_nil, or_false] at hb
        rcases hb with rfl | rfl | rfl | rfl <;> rw [UInt8.toNat_ofNat'] at ascii <;> omega

end Wordsheet.Text.Utf8
