import TokenForest.Text.Utf8

/-!
# Encoding and decoding

The encoding of a character has one of four forms, and each of them fixes the numbers of its bytes.
Everything else about encoded text is read off these forms: the high bits of the first byte tell how
many bytes there are, cutting the bytes into pieces finds the character again, and decoding what was
encoded gives the text back.
-/

namespace TokenForest.Text.Utf8

/-- The bytes of the encoding of a code point, form by form. -/
inductive Encodes (code : Nat) : List UInt8 → Prop where
  | one
      {first : UInt8}
      (range : code < 0x80)
      (firstEq : first.toNat = code) :
      Encodes code [first]
  | two
      {first second : UInt8}
      (range : 0x80 ≤ code ∧ code < 0x800)
      (firstEq : first.toNat = 0xC0 + code / 64)
      (secondEq : second.toNat = 0x80 + code % 64) :
      Encodes code [first, second]
  | three
      {first second third : UInt8}
      (range : 0x800 ≤ code ∧ code < 0x10000)
      (scalar : code < 0xD800 ∨ 0xDFFF < code)
      (firstEq : first.toNat = 0xE0 + code / 4096)
      (secondEq : second.toNat = 0x80 + code / 64 % 64)
      (thirdEq : third.toNat = 0x80 + code % 64) :
      Encodes code [first, second, third]
  | four
      {first second third fourth : UInt8}
      (range : 0x10000 ≤ code ∧ code < 0x110000)
      (firstEq : first.toNat = 0xF0 + code / 262144)
      (secondEq : second.toNat = 0x80 + code / 4096 % 64)
      (thirdEq : third.toNat = 0x80 + code / 64 % 64)
      (fourthEq : fourth.toNat = 0x80 + code % 64) :
      Encodes code [first, second, third, fourth]

/-- A byte made from a small number has this number. -/
theorem toNat_ofNat_of_lt
    {number : Nat}
    (small : number < 256) :
    (UInt8.ofNat number).toNat = number :=
  UInt8.toNat_ofNat_of_lt' small

/-- A character is encoded in one of the four forms. -/
theorem encodes_encodeChar (character : Char) :
    Encodes character.toNat (String.utf8EncodeChar character) := by
  have scalar :
      character.toNat < 0xD800 ∨ 0xDFFF < character.toNat ∧ character.toNat < 0x110000 :=
    character.valid
  by_cases oneByte : character.toNat ≤ 0x7F
  · have form : String.utf8EncodeChar character = [UInt8.ofNat character.toNat] :=
      if_pos oneByte
    rw [form]
    exact .one (by omega) (toNat_ofNat_of_lt (by omega))
  by_cases twoBytes : character.toNat ≤ 0x7FF
  · have form : String.utf8EncodeChar character =
        [UInt8.ofNat (character.toNat / 64 % 0x20 + 0xC0),
          UInt8.ofNat (character.toNat % 0x40 + 0x80)] :=
      (if_neg oneByte).trans (if_pos twoBytes)
    rw [form]
    apply Encodes.two (by omega)
    · rw [toNat_ofNat_of_lt (by omega)]
      omega
    · rw [toNat_ofNat_of_lt (by omega)]
      omega
  by_cases threeBytes : character.toNat ≤ 0xFFFF
  · have form : String.utf8EncodeChar character =
        [UInt8.ofNat (character.toNat / 4096 % 0x10 + 0xE0),
          UInt8.ofNat (character.toNat / 64 % 0x40 + 0x80),
          UInt8.ofNat (character.toNat % 0x40 + 0x80)] :=
      (if_neg oneByte).trans ((if_neg twoBytes).trans (if_pos threeBytes))
    rw [form]
    apply Encodes.three (by omega) (by omega)
    · rw [toNat_ofNat_of_lt (by omega)]
      omega
    · rw [toNat_ofNat_of_lt (by omega)]
      omega
    · rw [toNat_ofNat_of_lt (by omega)]
      omega
  · have form : String.utf8EncodeChar character =
        [UInt8.ofNat (character.toNat / 262144 % 0x08 + 0xF0),
          UInt8.ofNat (character.toNat / 4096 % 0x40 + 0x80),
          UInt8.ofNat (character.toNat / 64 % 0x40 + 0x80),
          UInt8.ofNat (character.toNat % 0x40 + 0x80)] :=
      (if_neg oneByte).trans ((if_neg twoBytes).trans (if_neg threeBytes))
    rw [form]
    apply Encodes.four (by omega)
    · rw [toNat_ofNat_of_lt (by omega)]
      omega
    · rw [toNat_ofNat_of_lt (by omega)]
      omega
    · rw [toNat_ofNat_of_lt (by omega)]
      omega
    · rw [toNat_ofNat_of_lt (by omega)]
      omega

/-! ## The width that the first byte tells -/

theorem leadingOnes_one
    {byte : UInt8}
    (range : byte.toNat < 0x80) :
    leadingOnes byte = 0 := by
  simp only [leadingOnes]
  rw [if_pos range]

theorem leadingOnes_two
    {byte : UInt8}
    (range : 0xC0 ≤ byte.toNat ∧ byte.toNat < 0xE0) :
    leadingOnes byte = 2 := by
  simp only [leadingOnes]
  rw [if_neg (by omega), if_neg (by omega), if_pos range.2]

theorem leadingOnes_three
    {byte : UInt8}
    (range : 0xE0 ≤ byte.toNat ∧ byte.toNat < 0xF0) :
    leadingOnes byte = 3 := by
  simp only [leadingOnes]
  rw [if_neg (by omega), if_neg (by omega), if_neg (by omega), if_pos range.2]

theorem leadingOnes_four
    {byte : UInt8}
    (range : 0xF0 ≤ byte.toNat ∧ byte.toNat < 0xF8) :
    leadingOnes byte = 4 := by
  simp only [leadingOnes]
  rw [if_neg (by omega), if_neg (by omega), if_neg (by omega), if_neg (by omega),
    if_pos range.2]

theorem leadingOnes_trailing
    {byte : UInt8}
    (range : 0x80 ≤ byte.toNat ∧ byte.toNat < 0xC0) :
    leadingOnes byte = 1 := by
  simp only [leadingOnes]
  rw [if_neg (by omega), if_pos range.2]

/-- The high bits of the first byte of an encoding count its bytes. -/
theorem Encodes.width_eq
    {code : Nat}
    {bytes : List UInt8}
    (encodes : Encodes code bytes) :
    ∃ first trailing,
      bytes = first :: trailing ∧ max 1 (leadingOnes first) = bytes.length := by
  cases encodes with
  | one range firstEq =>
      refine ⟨_, _, rfl, ?_⟩
      rw [leadingOnes_one (by omega)]
      rfl
  | two range firstEq secondEq =>
      refine ⟨_, _, rfl, ?_⟩
      rw [leadingOnes_two (by omega)]
      rfl
  | three range scalar firstEq secondEq thirdEq =>
      refine ⟨_, _, rfl, ?_⟩
      rw [leadingOnes_three (by omega)]
      rfl
  | four range firstEq secondEq thirdEq fourthEq =>
      refine ⟨_, _, rfl, ?_⟩
      rw [leadingOnes_four (by omega)]
      rfl

/-- Every byte after the first is marked as one by its two high bits. -/
theorem Encodes.trailing_range
    {code : Nat}
    {first : UInt8}
    {trailing : List UInt8}
    (encodes : Encodes code (first :: trailing)) :
    ∀ byte ∈ trailing, 0x80 ≤ byte.toNat ∧ byte.toNat < 0xC0 := by
  cases encodes with
  | one range firstEq =>
      simp
  | two range firstEq secondEq =>
      intro byte member
      rw [List.mem_singleton] at member
      subst member
      omega
  | three range scalar firstEq secondEq thirdEq =>
      intro byte member
      simp only [List.mem_cons, List.not_mem_nil, or_false] at member
      rcases member with rfl | rfl
      · omega
      · omega
  | four range firstEq secondEq thirdEq fourthEq =>
      intro byte member
      simp only [List.mem_cons, List.not_mem_nil, or_false] at member
      rcases member with rfl | rfl | rfl
      · omega
      · omega
      · omega

/-! ## Reading an encoded character -/

namespace Lead

theorem ofByte?_one
    {byte : UInt8}
    (range : byte.toNat < 0x80) :
    ofByte? byte = some { bits := byte.toNat, trailing := 0 } := by
  simp only [ofByte?]
  rw [if_pos range]

theorem ofByte?_two
    {byte : UInt8}
    (range : 0xC2 ≤ byte.toNat ∧ byte.toNat < 0xE0) :
    ofByte? byte = some { bits := byte.toNat - 0xC0, trailing := 1 } := by
  simp only [ofByte?]
  rw [if_neg (by omega), if_neg (by omega), if_pos range.2]

theorem ofByte?_three
    {byte : UInt8}
    (range : 0xE0 ≤ byte.toNat ∧ byte.toNat < 0xF0) :
    ofByte? byte =
      some {
        bits := byte.toNat - 0xE0
        trailing := 2
        low := if byte.toNat = 0xE0 then 0xA0 else 0x80
        high := if byte.toNat = 0xED then 0x9F else 0xBF } := by
  simp only [ofByte?]
  rw [if_neg (by omega), if_neg (by omega), if_neg (by omega), if_pos range.2]

theorem ofByte?_four
    {byte : UInt8}
    (range : 0xF0 ≤ byte.toNat ∧ byte.toNat < 0xF5) :
    ofByte? byte =
      some {
        bits := byte.toNat - 0xF0
        trailing := 3
        low := if byte.toNat = 0xF0 then 0x90 else 0x80
        high := if byte.toNat = 0xF4 then 0x8F else 0xBF } := by
  simp only [ofByte?]
  rw [if_neg (by omega), if_neg (by omega), if_neg (by omega), if_neg (by omega),
    if_pos range.2]

end Lead

/-- A byte within the bounds is read, and the bounds after it are those of any later byte. -/
theorem readTrailing_cons
    {lead byte : UInt8}
    {low high : Nat}
    (within : low ≤ byte.toNat ∧ byte.toNat ≤ high)
    (bits taken missing : Nat)
    (rest : List UInt8) :
    readTrailing lead low high bits taken (missing + 1) (byte :: rest) =
      readTrailing lead 0x80 0xBF (bits * 64 + (byte.toNat - 0x80)) (taken + 1) missing rest := by
  rw [readTrailing, if_pos within]

/-- The first piece of an encoded character is the character with all its bytes. -/
theorem Encodes.firstPiece_eq
    {code : Nat}
    {first : UInt8}
    {trailing : List UInt8}
    (encodes : Encodes code (first :: trailing))
    (rest : List UInt8) :
    firstPiece first (trailing ++ rest) = .scalar (Char.ofNat code) trailing.length := by
  cases encodes with
  | one range firstEq =>
      rw [firstPiece, Lead.ofByte?_one (by omega), firstEq]
      rfl
  | two range firstEq secondEq =>
      have bits : (first.toNat - 0xC0) * 64 + code % 64 = code := by omega
      rw [firstPiece, Lead.ofByte?_two (by omega)]
      simp only [List.cons_append]
      rw [readTrailing_cons (by omega), secondEq, Nat.add_sub_cancel_left, bits]
      rfl
  | three range scalar firstEq secondEq thirdEq =>
      have bits : ((first.toNat - 0xE0) * 64 + code / 64 % 64) * 64 + code % 64 = code := by omega
      rw [firstPiece, Lead.ofByte?_three (by omega)]
      simp only [List.cons_append]
      rw [readTrailing_cons (by constructor <;> split <;> omega),
        readTrailing_cons (by omega), secondEq, thirdEq, Nat.add_sub_cancel_left,
        Nat.add_sub_cancel_left, bits]
      rfl
  | four range firstEq secondEq thirdEq fourthEq =>
      have bits :
          (((first.toNat - 0xF0) * 64 + code / 4096 % 64) * 64 + code / 64 % 64) * 64 +
            code % 64 = code := by
        omega
      rw [firstPiece, Lead.ofByte?_four (by omega)]
      simp only [List.cons_append]
      rw [readTrailing_cons (by constructor <;> split <;> omega),
        readTrailing_cons (by omega), readTrailing_cons (by omega), secondEq, thirdEq, fourthEq,
        Nat.add_sub_cancel_left, Nat.add_sub_cancel_left, Nat.add_sub_cancel_left, bits]
      rfl

/-- Cutting bytes that begin with an encoded character finds the character first. -/
theorem pieces_encodeChar_append
    (character : Char)
    (rest : List UInt8) :
    pieces (String.utf8EncodeChar character ++ rest) =
      .scalar character (character.utf8Size - 1) :: pieces rest := by
  have encodes := encodes_encodeChar character
  have size := String.length_utf8EncodeChar character
  obtain ⟨first, trailing, split, -⟩ := encodes.width_eq
  rw [split] at encodes size ⊢
  have found : firstPiece first (trailing ++ rest) = .scalar character trailing.length := by
    rw [encodes.firstPiece_eq, Char.ofNat_toNat]
  have trailingSize : trailing.length = character.utf8Size - 1 := by
    rw [← size, List.length_cons, Nat.add_sub_cancel]
  rw [List.cons_append, pieces, piecesAfter, found, Piece.trailing, piecesAfter_eq_pieces_drop,
    List.drop_left, trailingSize]

/-- Decoding bytes that begin with an encoded text yields the text first. -/
theorem decodePieces_encode
    (offset : Nat)
    (text : List Char) :
    decodePieces offset (pieces (encode text)) = .ok text := by
  induction text generalizing offset with
  | nil =>
      rfl
  | cons character rest ih =>
      rw [encode_cons, pieces_encodeChar_append, decodePieces, ih]

/-- Decoding gives back what was encoded. -/
@[simp]
theorem decode_encode (text : List Char) : decode (encode text) = .ok text :=
  decodePieces_encode 0 text

end TokenForest.Text.Utf8
