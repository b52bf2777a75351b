import TokenForest.Proofs.Text.Encoding
import TokenForest.Text.Source

/-!
# Character boundaries

The characters of a text and the bytes of its source are two ways to count the same places.  The
offset of an index is the number of bytes before the character at the index; these offsets are the
boundaries.  At a boundary the source finds its next boundary, the bytes between two boundaries
decode to the characters between the two indices, and the order of boundaries is that of indices.
-/

namespace TokenForest.Text

theorem Utf8.encodeChar_length_pos (character : Char) :
    0 < (String.utf8EncodeChar character).length := by
  rw [String.length_utf8EncodeChar]
  exact character.utf8Size_pos

/-- A text has at most as many characters as its encoding has bytes. -/
theorem Utf8.length_le_length_encode (text : List Char) :
    text.length ≤ (encode text).length := by
  induction text with
  | nil =>
      simp
  | cons character rest ih =>
      have positive := encodeChar_length_pos character
      simp only [encode_cons, List.length_append, List.length_cons]
      omega

namespace Source

/-- The offset of the character at an index: the number of bytes before it. -/
def offsetOf (source : Source) (index : Nat) : Nat :=
  (Utf8.encode (source.text.take index)).length

/-- The characters from one index up to another. -/
def between (source : Source) (start stop : Nat) : List Char :=
  (source.text.take stop).drop start

variable
    {source : Source}
    {index start stop : Nat}

@[simp]
theorem offsetOf_zero : source.offsetOf 0 = 0 := by
  simp [offsetOf]

@[simp]
theorem offsetOf_length : source.offsetOf source.text.length = source.size := by
  simp [offsetOf, size, bytes]

/-- The bytes up to a boundary, and the bytes of the characters from there to another one. -/
theorem take_eq_append_between
    (ordered : start ≤ stop) :
    source.text.take stop = source.text.take start ++ source.between start stop := by
  calc
    source.text.take stop =
        (source.text.take stop).take start ++ (source.text.take stop).drop start :=
      (List.take_append_drop start _).symm
    _ = source.text.take start ++ source.between start stop := by
      rw [List.take_take, Nat.min_eq_left ordered, between]

theorem offsetOf_eq_add
    (ordered : start ≤ stop) :
    source.offsetOf stop =
      source.offsetOf start + (Utf8.encode (source.between start stop)).length := by
  rw [offsetOf, take_eq_append_between ordered, Utf8.encode_append, List.length_append, offsetOf]

theorem length_between
    (within : stop ≤ source.text.length) :
    (source.between start stop).length = stop - start := by
  simp only [between, List.length_drop, List.length_take]
  omega

theorem between_succ
    {character : Char}
    (present : source.text[index]? = some character) :
    source.between index (index + 1) = [character] := by
  have within : index < source.text.length := (List.getElem?_eq_some_iff.mp present).1
  rw [between, List.take_add_one, present, Option.toList_some, List.drop_append_of_le_length]
  · simp
  · simp only [List.length_take]
    omega

/-- Boundaries are ordered as the indices are. -/
theorem offsetOf_le
    (ordered : start ≤ stop) :
    source.offsetOf start ≤ source.offsetOf stop := by
  rw [offsetOf_eq_add ordered]
  exact Nat.le_add_right _ _

/-- Different characters have different boundaries. -/
theorem offsetOf_lt
    (ordered : start < stop)
    (within : stop ≤ source.text.length) :
    source.offsetOf start < source.offsetOf stop := by
  have characters : (source.between start stop).length = stop - start := length_between within
  have bytes := Utf8.length_le_length_encode (source.between start stop)
  rw [offsetOf_eq_add (Nat.le_of_lt ordered)]
  omega

theorem offsetOf_le_iff
    (startWithin : start ≤ source.text.length) :
    source.offsetOf start ≤ source.offsetOf stop ↔ start ≤ stop := by
  constructor
  · intro ordered
    apply Nat.le_of_not_lt
    intro backwards
    have reversed := offsetOf_lt backwards startWithin
    omega
  · exact offsetOf_le

/-- A character has no other index with the same boundary. -/
theorem eq_of_offsetOf_eq
    (within : start < source.text.length)
    (same : source.offsetOf start = source.offsetOf stop) :
    start = stop := by
  rcases Nat.lt_trichotomy start stop with before | equal | after
  · have onwards : source.offsetOf start < source.offsetOf (start + 1) :=
      offsetOf_lt (Nat.lt_succ_self start) within
    have further : source.offsetOf (start + 1) ≤ source.offsetOf stop := offsetOf_le before
    omega
  · exact equal
  · have backwards : source.offsetOf stop < source.offsetOf start :=
      offsetOf_lt after (Nat.le_of_lt within)
    omega

theorem offsetOf_le_size
    (within : index ≤ source.text.length) :
    source.offsetOf index ≤ source.size := by
  rw [← offsetOf_length]
  exact offsetOf_le within

/-- The bytes from a boundary on are those of the characters from its index on. -/
theorem drop_bytes_offsetOf (source : Source) (index : Nat) :
    source.bytes.drop (source.offsetOf index) = Utf8.encode (source.text.drop index) := by
  have split : source.bytes =
      Utf8.encode (source.text.take index) ++ Utf8.encode (source.text.drop index) := by
    rw [← Utf8.encode_append, List.take_append_drop, bytes]
  rw [split, offsetOf, List.drop_left]

/-- The bytes up to a boundary are those of the characters up to its index. -/
theorem take_bytes_offsetOf (source : Source) (index : Nat) :
    source.bytes.take (source.offsetOf index) = Utf8.encode (source.text.take index) := by
  have split : source.bytes =
      Utf8.encode (source.text.take index) ++ Utf8.encode (source.text.drop index) := by
    rw [← Utf8.encode_append, List.take_append_drop, bytes]
  rw [split, offsetOf, List.take_left]

/-- The bytes between two boundaries decode to the characters between the two indices. -/
theorem slice_offsetOf
    (ordered : start ≤ stop) :
    source.slice (source.offsetOf start) (source.offsetOf stop) =
      .ok (source.between start stop) := by
  have window : (Utf8.encode (source.text.take stop)).drop (source.offsetOf start) =
      Utf8.encode (source.between start stop) := by
    rw [take_eq_append_between ordered, Utf8.encode_append, offsetOf, List.drop_left]
  rw [slice, take_bytes_offsetOf, window, Utf8.decode_encode]

/-- At a boundary before the end, the next boundary is that of the next index. -/
theorem nextBoundary?_offsetOf
    (within : index < source.text.length) :
    source.nextBoundary? (source.offsetOf index) = some (source.offsetOf (index + 1)) := by
  have present : source.text[index]? = some source.text[index] := List.getElem?_eq_getElem within
  obtain ⟨first, trailing, split, width⟩ :=
    (Utf8.encodes_encodeChar source.text[index]).width_eq
  have byte : source.bytes[source.offsetOf index]? = some first := by
    have ahead := drop_bytes_offsetOf source index
    rw [List.drop_eq_getElem_cons within, Utf8.encode_cons, split] at ahead
    rw [← List.head?_drop, ahead]
    rfl
  have next : source.offsetOf (index + 1) =
      source.offsetOf index + max 1 (Utf8.leadingOnes first) := by
    rw [offsetOf_eq_add (Nat.le_add_right index 1), between_succ present, width]
    simp
  have room : source.offsetOf (index + 1) ≤ source.size := offsetOf_le_size within
  simp only [nextBoundary?, byte]
  rw [← next, if_pos room]

theorem nextBoundary?_size : source.nextBoundary? source.size = none := by
  have absent : source.bytes[source.size]? = none :=
    List.getElem?_eq_none (Nat.le_refl source.size)
  simp [nextBoundary?, absent]

/-- At a boundary before the end, the bytes hold the character of the index. -/
theorem characterAt?_offsetOf
    {character : Char}
    (present : source.text[index]? = some character) :
    source.characterAt? (source.offsetOf index) =
      .ok (some (character, source.offsetOf (index + 1))) := by
  have within : index < source.text.length := (List.getElem?_eq_some_iff.mp present).1
  rw [characterAt?, nextBoundary?_offsetOf within]
  simp only
  rw [slice_offsetOf (Nat.le_add_right index 1), between_succ present]
  rfl

theorem characterAt?_size : source.characterAt? source.size = .ok none := by
  rw [characterAt?, nextBoundary?_size]

end Source

end TokenForest.Text
