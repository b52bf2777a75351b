import TokenForest.Proofs.Text.Lines

/-!
# Windows of bytes

The bytes between any two offsets are a window of the encoded text.  An offset that is no boundary
stands inside a character, and it is this character that keeps the window from being decoded: if the
window begins inside, its first byte begins no encoding, and if it ends inside, its bytes end inside
an encoding.  The bytes of a text are those of characters in a row, so nothing else can go wrong.
-/

namespace TokenForest.Text

/-! ## Parts of an encoding -/

namespace Utf8

/-- Bytes that are read to the end of an encoding are cut short if fewer of them are there. -/
theorem readTrailing_take
    {lead : UInt8} {low high bits taken missing count total : Nat}
    {bytes : List UInt8} {character : Char}
    (whole : readTrailing lead low high bits taken missing bytes = .scalar character total)
    (short : taken + count < total) :
    readTrailing lead low high bits taken missing (bytes.take count) =
      .broken lead .cutShort (taken + count) := by
  induction missing generalizing low high bits taken count bytes with
  | zero =>
      cases whole
      omega
  | succ missing ih =>
      cases bytes with
      | nil =>
          cases whole
      | cons byte rest =>
          rw [readTrailing] at whole
          split at whole
          · rename_i within
            cases count with
            | zero =>
                rfl
            | succ count =>
                rw [List.take_succ_cons, readTrailing, if_pos within, ih whole (by omega)]
                congr 1
                omega
          · cases whole

/-- A character without its last bytes is one piece that is cut short. -/
theorem Encodes.firstPiece_take
    {code count : Nat} {first : UInt8} {trailing : List UInt8}
    (encodes : Encodes code (first :: trailing))
    (short : count < trailing.length) :
    firstPiece first (trailing.take count) = .broken first .cutShort count := by
  have whole := encodes.firstPiece_eq []
  rw [List.append_nil] at whole
  rw [firstPiece] at whole ⊢
  cases announced : Lead.ofByte? first with
  | none =>
      rw [announced] at whole
      cases whole
  | some lead =>
      rw [announced] at whole
      rw [← Nat.zero_add count] at short
      have cut := readTrailing_take whole short
      rwa [Nat.zero_add] at cut

theorem Encodes.pieces_take
    {code count : Nat} {first : UInt8} {trailing : List UInt8}
    (encodes : Encodes code (first :: trailing))
    (short : count < trailing.length) :
    pieces (first :: trailing.take count) = [.broken first .cutShort count] := by
  have nothing : (trailing.take count).drop count = [] := by
    rw [List.drop_take, Nat.sub_self, List.take_zero]
  rw [pieces, piecesAfter, encodes.firstPiece_take short, Piece.trailing,
    piecesAfter_eq_pieces_drop, nothing]
  rfl

/-- A byte from behind the first of an encoding begins none. -/
theorem firstPiece_of_trailing
    {byte : UInt8}
    (range : 0x80 ≤ byte.toNat ∧ byte.toNat < 0xC0)
    (rest : List UInt8) :
    firstPiece byte rest = .broken byte .badStart 0 := by
  have unannounced : Lead.ofByte? byte = none := by
    simp only [Lead.ofByte?]
    rw [if_neg (by omega), if_pos (by omega)]
  rw [firstPiece, unannounced]

theorem decode_of_trailing
    {byte : UInt8}
    (range : 0x80 ≤ byte.toNat ∧ byte.toNat < 0xC0)
    (rest : List UInt8) :
    decode (byte :: rest) = .error { lead := byte, flaw := .badStart, start := 0, count := 1 } := by
  rw [decode, pieces, piecesAfter, firstPiece_of_trailing range, decodePieces]

/-- What fails behind an encoded text fails with it, so many bytes later. -/
theorem decodePieces_encode_append
    {text : List Char} {rest : List UInt8} {offset : Nat} {error : DecodeError}
    (failed : decodePieces (offset + (encode text).length) (pieces rest) = .error error) :
    decodePieces offset (pieces (encode text ++ rest)) = .error error := by
  induction text generalizing offset with
  | nil =>
      exact failed
  | cons character text ih =>
      have positive := encodeChar_length_pos character
      rw [encode_cons, List.length_append, String.length_utf8EncodeChar] at failed
      rw [String.length_utf8EncodeChar] at positive
      rw [encode_cons, List.append_assoc, pieces_encodeChar_append, decodePieces, ih]
      rw [← failed]
      congr 1
      omega

theorem Encodes.decode_take
    {code count : Nat} {first : UInt8} {trailing : List UInt8}
    (encodes : Encodes code (first :: trailing))
    (short : count < trailing.length)
    (text : List Char) :
    decode (encode text ++ first :: trailing.take count) =
      .error {
        lead := first
        flaw := .cutShort
        start := (encode text).length
        count := count + 1 } := by
  apply decodePieces_encode_append
  rw [encodes.pieces_take short, decodePieces, Nat.zero_add]

end Utf8

/-! ## Offsets inside characters -/

namespace Source

variable
    {source : Source}
    {index start stop offset : Nat}

/-- The offset stands behind the first byte of the character at the index, and before its end. -/
structure Inside (source : Source) (index offset : Nat) : Prop where
  behind : source.offsetOf index < offset
  before : offset < source.offsetOf (index + 1)

theorem exists_offsetOf_le
    {count : Nat}
    (before : offset < source.offsetOf count) :
    ∃ index < count, source.offsetOf index ≤ offset ∧ offset < source.offsetOf (index + 1) := by
  induction count with
  | zero =>
      rw [offsetOf_zero] at before
      exact absurd before (Nat.not_lt_zero offset)
  | succ count ih =>
      rcases Nat.lt_or_ge offset (source.offsetOf count) with earlier | here
      · rcases ih earlier with ⟨index, less, around⟩
        exact ⟨index, Nat.lt_succ_of_lt less, around⟩
      · exact ⟨count, Nat.lt_succ_self count, here, before⟩

theorem isBoundary_or_inside
    (within : offset ≤ source.size) :
    source.IsBoundary offset ∨ ∃ index, source.Inside index offset := by
  rcases Nat.lt_or_eq_of_le within with before | atEnd
  · rw [← offsetOf_length] at before
    rcases exists_offsetOf_le before with ⟨index, less, begins, ends⟩
    rcases Nat.lt_or_eq_of_le begins with behind | same
    · exact .inr ⟨index, behind, ends⟩
    · exact .inl ⟨index, Nat.le_of_lt less, same.symm⟩
  · exact .inl ⟨source.text.length, Nat.le_refl _, atEnd.trans offsetOf_length.symm⟩

theorem Inside.not_isBoundary
    (inside : source.Inside index offset) :
    ¬source.IsBoundary offset := by
  rintro ⟨other, within, rfl⟩
  have behind : index < other := by
    apply Nat.lt_of_not_le
    intro ordered
    exact Nat.not_le_of_lt inside.behind (offsetOf_le ordered)
  exact Nat.not_le_of_lt inside.before (offsetOf_le behind)

theorem Inside.exists_character
    (inside : source.Inside index offset) :
    ∃ character, source.text[index]? = some character := by
  apply Option.ne_none_iff_exists'.mp
  intro beyond
  rw [List.getElem?_eq_none_iff] at beyond
  have same : source.offsetOf (index + 1) = source.offsetOf index := by
    rw [offsetOf, offsetOf, List.take_of_length_le beyond,
      List.take_of_length_le (Nat.le_succ_of_le beyond)]
  have impossible := Nat.lt_trans inside.behind inside.before
  omega

/-- An offset inside a character parts the bytes of the character. -/
theorem Inside.exists_parts
    (inside : source.Inside index offset) :
    ∃ character first trailing count,
      source.text[index]? = some character ∧
        String.utf8EncodeChar character = first :: trailing ∧
        count < trailing.length ∧
        offset = source.offsetOf index + (count + 1) ∧
        source.bytes.take offset =
          Utf8.encode (source.text.take index) ++ first :: trailing.take count ∧
        source.bytes.drop offset =
          trailing.drop count ++ Utf8.encode (source.text.drop (index + 1)) := by
  rcases inside.exists_character with ⟨character, present⟩
  rcases (Utf8.encodes_encodeChar character).width_eq with ⟨first, trailing, split, -⟩
  have width : source.offsetOf (index + 1) = source.offsetOf index + (trailing.length + 1) := by
    rw [offsetOf_eq_add (Nat.le_succ index), between_succ present, Utf8.encode_cons,
      Utf8.encode_nil, List.append_nil, split, List.length_cons]
  rcases Nat.exists_eq_add_of_lt inside.behind with ⟨count, place⟩
  have short : count < trailing.length := by
    have before := inside.before
    omega
  have bytes : source.bytes =
      Utf8.encode (source.text.take index) ++
        (first :: trailing ++ Utf8.encode (source.text.drop (index + 1))) := by
    rw [← split, ← Utf8.encode_cons, ← Utf8.encode_append, Source.bytes]
    rcases List.getElem?_eq_some_iff.mp present with ⟨within, rfl⟩
    rw [← List.drop_eq_getElem_cons within, List.take_append_drop]
  refine ⟨character, first, trailing, count, present, split, short, place, ?_, ?_⟩
  · rw [bytes, place, Nat.add_assoc, offsetOf, List.take_length_add_append, List.cons_append,
      List.take_succ_cons, List.take_append_of_le_length (Nat.le_of_lt short)]
  · rw [bytes, place, Nat.add_assoc, offsetOf, List.drop_length_add_append, List.cons_append,
      List.drop_succ_cons, List.drop_append_of_le_length (Nat.le_of_lt short)]

/-! ## What a window decodes to -/

theorem slice_min (source : Source) (start stop : Nat) :
    source.slice start (min stop source.size) = source.slice start stop := by
  rw [slice, slice, size, ← List.take_eq_take_min]

theorem slice_of_le
    (empty : min stop source.size ≤ start) :
    source.slice start stop = .ok [] := by
  have nothing : (source.bytes.take stop).drop start = [] := by
    rw [List.drop_eq_nil_iff, List.length_take]
    exact empty
  rw [slice, nothing]
  rfl

/-- A window that begins inside a character fails at its first byte. -/
theorem Inside.slice_from
    (inside : source.Inside index start)
    (nonempty : start < stop) :
    ∃ lead,
      source.bytes[start]? = some lead ∧
        source.slice start stop =
          .error { lead, flaw := .badStart, start := 0, count := 1 } := by
  rcases inside.exists_parts with
    ⟨character, first, trailing, count, present, split, short, place, -, behind⟩
  have encodes := Utf8.encodes_encodeChar character
  rw [split] at encodes
  have range := encodes.trailing_range _ (List.getElem_mem short)
  rw [List.drop_eq_getElem_cons short, List.cons_append] at behind
  refine ⟨trailing[count], ?_, ?_⟩
  · rw [← List.head?_drop, behind, List.head?_cons]
  · rcases Nat.exists_eq_add_of_lt nonempty with ⟨more, rfl⟩
    rw [slice, List.drop_take, behind, Nat.add_assoc, Nat.add_sub_cancel_left, List.take_succ_cons,
      Utf8.decode_of_trailing range]

/--
A window that begins at a boundary and ends inside a character fails where the character starts.
-/
theorem Inside.slice_to
    {final : Nat}
    (inside : source.Inside final stop)
    (ordered : index ≤ final) :
    ∃ lead,
      source.bytes[source.offsetOf final]? = some lead ∧
        source.slice (source.offsetOf index) stop =
          .error {
            lead
            flaw := .cutShort
            start := source.offsetOf final - source.offsetOf index
            count := stop - source.offsetOf final } := by
  rcases inside.exists_parts with
    ⟨character, first, trailing, count, present, split, short, place, before, -⟩
  have encodes := Utf8.encodes_encodeChar character
  rw [split] at encodes
  refine ⟨first, ?_, ?_⟩
  · rw [← List.getElem?_take_of_lt inside.behind, before, offsetOf,
      List.getElem?_append_right (Nat.le_refl _), Nat.sub_self, List.getElem?_cons_zero]
  · have window : (source.bytes.take stop).drop (source.offsetOf index) =
        Utf8.encode (source.between index final) ++ first :: trailing.take count := by
      rw [before, take_eq_append_between ordered, Utf8.encode_append, List.append_assoc, offsetOf,
        List.drop_left]
    rw [slice, window, encodes.decode_take short, place, Nat.add_sub_cancel_left,
      offsetOf_eq_add ordered, Nat.add_sub_cancel_left]

theorem lt_of_offsetOf_lt
    (less : source.offsetOf start < source.offsetOf stop) :
    start < stop := by
  apply Nat.lt_of_not_le
  intro backwards
  exact Nat.not_le_of_lt less (offsetOf_le backwards)

theorem between_append
    {middle : Nat}
    (begins : start ≤ middle)
    (ends : middle ≤ stop)
    (within : middle ≤ source.text.length) :
    source.between start stop = source.between start middle ++ source.between middle stop := by
  have long : start ≤ (source.text.take middle).length := by
    rw [List.length_take, Nat.min_eq_left within]
    exact begins
  rw [between, take_eq_append_between ends, List.drop_append_of_le_length long, ← between]

/-- A window that is not empty decodes exactly if there are boundaries at both of its ends. -/
theorem exists_slice_iff
    (nonempty : start < min stop source.size) :
    (∃ text, source.slice start stop = .ok text) ↔
      source.IsBoundary start ∧ source.IsBoundary (min stop source.size) := by
  have within : min stop source.size ≤ source.size := Nat.min_le_right _ _
  rw [← slice_min]
  generalize min stop source.size = last at nonempty within
  constructor
  · rintro ⟨text, decoded⟩
    rcases isBoundary_or_inside (Nat.le_trans (Nat.le_of_lt nonempty) within) with
      ⟨first, begins, rfl⟩ | ⟨first, inside⟩
    · refine ⟨⟨first, begins, rfl⟩, ?_⟩
      rcases isBoundary_or_inside within with boundary | ⟨final, inside⟩
      · exact boundary
      · have ordered := lt_of_offsetOf_lt (Nat.lt_trans nonempty inside.before)
        rcases inside.slice_to (Nat.le_of_lt_succ ordered) with ⟨lead, -, failed⟩
        rw [failed] at decoded
        cases decoded
    · rcases inside.slice_from nonempty with ⟨lead, -, failed⟩
      rw [failed] at decoded
      cases decoded
  · rintro ⟨⟨first, _, rfl⟩, ⟨final, _, rfl⟩⟩
    exact ⟨_, slice_offsetOf (Nat.le_of_lt (lt_of_offsetOf_lt nonempty))⟩

theorem slice_of_inside
    (nonempty : start < min stop source.size)
    (cut : ¬source.IsBoundary start) :
    ∃ lead,
      source.bytes[start]? = some lead ∧
        source.slice start stop =
          .error { lead, flaw := .badStart, start := 0, count := 1 } := by
  have within : start ≤ source.size :=
    Nat.le_of_lt (Nat.lt_of_lt_of_le nonempty (Nat.min_le_right _ _))
  rcases isBoundary_or_inside within with boundary | ⟨index, inside⟩
  · exact absurd boundary cut
  · exact inside.slice_from (Nat.lt_of_lt_of_le nonempty (Nat.min_le_left _ _))

theorem slice_to_inside
    (nonempty : start < min stop source.size)
    (boundary : source.IsBoundary start)
    (cut : ¬source.IsBoundary (min stop source.size)) :
    ∃ index lead,
      source.Inside index (min stop source.size) ∧
        source.bytes[source.offsetOf index]? = some lead ∧
        source.slice start stop =
          .error {
            lead
            flaw := .cutShort
            start := source.offsetOf index - start
            count := min stop source.size - source.offsetOf index } := by
  rw [← slice_min]
  rcases isBoundary_or_inside (Nat.min_le_right stop source.size) with uncut | ⟨index, inside⟩
  · exact absurd uncut cut
  · rcases boundary with ⟨first, _, rfl⟩
    have ordered := lt_of_offsetOf_lt (Nat.lt_trans nonempty inside.before)
    rcases inside.slice_to (Nat.le_of_lt_succ ordered) with ⟨lead, present, failed⟩
    exact ⟨index, lead, inside, present, failed⟩

/-- The bytes of a text never hold a wrong byte where an encoding should go on. -/
theorem flaw_ne_badContinuation
    {error : Utf8.DecodeError}
    (failed : source.slice start stop = .error error) :
    error.flaw ≠ .badContinuation := by
  rcases Nat.lt_or_ge start (min stop source.size) with nonempty | empty
  · by_cases begins : source.IsBoundary start
    · by_cases ends : source.IsBoundary (min stop source.size)
      · rcases (exists_slice_iff nonempty).mpr ⟨begins, ends⟩ with ⟨text, decoded⟩
        rw [decoded] at failed
        cases failed
      · rcases slice_to_inside nonempty begins ends with ⟨index, lead, -, -, cutShort⟩
        rw [cutShort] at failed
        cases failed
        exact Utf8.Flaw.noConfusion
    · rcases slice_of_inside nonempty begins with ⟨lead, -, badStart⟩
      rw [badStart] at failed
      cases failed
      exact Utf8.Flaw.noConfusion
  · rw [slice_of_le empty] at failed
    cases failed

end Source

/--
The bytes from one offset up to another one, the end of the source at the latest, are no text if the
first offset is not the lesser one.  Otherwise they decode exactly if both ends are boundaries, to
the characters between the two indices, and a boundary in between divides these characters.  If the
window begins inside a character it fails at its first byte, which begins no encoding.  If it only
ends inside one it fails where this character starts, and its bytes are said to end there.  A window
of a text never fails for a byte that does not continue an encoding.
-/
theorem windows_decode_between_boundaries
    (source : Source)
    (start stop : Nat) :
    let last := min stop source.size
    (last ≤ start → source.slice start stop = .ok []) ∧
      (start < last →
        ((∃ text, source.slice start stop = .ok text) ↔
            source.IsBoundary start ∧ source.IsBoundary last) ∧
          (∀ first final,
            first ≤ source.text.length →
              final ≤ source.text.length →
                start = source.offsetOf first →
                  last = source.offsetOf final →
                    source.slice start stop = .ok (source.between first final)) ∧
          (∀ middle,
            source.IsBoundary start →
              source.IsBoundary last →
                source.IsBoundary middle →
                  start ≤ middle →
                    middle ≤ last →
                      ∃ before after,
                        source.slice start middle = .ok before ∧
                          source.slice middle last = .ok after ∧
                          source.slice start last = .ok (before ++ after)) ∧
          (¬source.IsBoundary start →
            ∃ error,
              source.slice start stop = .error error ∧
                error.start = 0 ∧
                error.flaw.reason = "invalid start byte" ∧
                error.count = 1 ∧
                source.bytes[start]? = some error.lead) ∧
          (source.IsBoundary start →
            ¬source.IsBoundary last →
              ∃ index error,
                source.Inside index last ∧
                  source.slice start stop = .error error ∧
                  error.start = source.offsetOf index - start ∧
                  error.flaw.reason = "unexpected end of data" ∧
                  error.count = last - source.offsetOf index ∧
                  source.bytes[source.offsetOf index]? = some error.lead)) ∧
      ∀ error,
        source.slice start stop = .error error →
          error.flaw.reason ≠ "invalid continuation byte" := by
  intro last
  refine ⟨Source.slice_of_le, ?_, ?_⟩
  · intro nonempty
    refine ⟨Source.exists_slice_iff nonempty, ?_, ?_, ?_, ?_⟩
    · rintro first final - - rfl ends
      have clamped : source.slice (source.offsetOf first) last = _ := source.slice_min _ stop
      rw [← clamped, ends]
      rw [ends] at nonempty
      exact Source.slice_offsetOf (Nat.le_of_lt (Source.lt_of_offsetOf_lt nonempty))
    · rintro middle ⟨first, begins, rfl⟩ ⟨final, ends, same⟩ ⟨index, within, rfl⟩ earlier later
      rw [same] at later ⊢
      rw [Source.offsetOf_le_iff begins] at earlier
      rw [Source.offsetOf_le_iff within] at later
      refine ⟨_, _, Source.slice_offsetOf earlier, Source.slice_offsetOf later, ?_⟩
      rw [Source.slice_offsetOf (Nat.le_trans earlier later),
        Source.between_append earlier later within]
    · intro cut
      rcases Source.slice_of_inside nonempty cut with ⟨lead, present, failed⟩
      exact ⟨_, failed, rfl, rfl, rfl, present⟩
    · intro boundary cut
      rcases Source.slice_to_inside nonempty boundary cut with
        ⟨index, lead, inside, present, failed⟩
      exact ⟨index, _, inside, failed, rfl, rfl, rfl, present⟩
  · intro error failed
    have possible := Source.flaw_ne_badContinuation failed
    cases flaw : error.flaw with
    | badStart =>
        decide
    | cutShort =>
        decide
    | badContinuation =>
        exact absurd flaw possible

/-- A window that begins inside a character of two bytes and ends inside one of three. -/
example :
    let source := Source.ofString "aé€"
    source.slice 2 5 = .error { lead := 0xA9, flaw := .badStart, start := 0, count := 1 } ∧
      source.slice 1 5 = .error { lead := 0xE2, flaw := .cutShort, start := 2, count := 2 } ∧
      source.slice 1 9 = .ok ['é', '€'] := by
  decide +kernel

end TokenForest.Text
