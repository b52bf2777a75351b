import TokenForest.Proofs.Text.Lines
import TokenForest.Proofs.Text.Quoting

/-!
# From boundary to boundary

A source is built from code points exactly if none of them is a surrogate, and otherwise the first
run of surrogates is reported.  Whoever steps through a source, from the start and always to the
next boundary, comes to every character boundary in order and to nothing else, and passes one
character in each step.  There is a next step from inside a character as well, since the high bits
of a byte never announce more than what is left of the encoding that the byte belongs to.
-/

namespace TokenForest.Text

/-! ## Surrogates -/

theorem isValidChar_of_not_isSurrogate
    {code : Nat}
    (point : code < 0x110000)
    (scalar : isSurrogate code = false) :
    code.isValidChar := by
  simp only [isSurrogate, Bool.and_eq_false_iff, decide_eq_false_iff_not] at scalar
  rcases scalar with below | above
  · exact Or.inl (Nat.lt_of_not_le below)
  · exact Or.inr ⟨Nat.lt_of_not_le above, point⟩

/--
The error is about the first surrogates among the code points, together with all that follow the
first of them without a gap.
-/
inductive SurrogateError.Locates : SurrogateError → List Nat → Prop where
  | intro
      {before run after : List Nat}
      (scalar : ∀ code ∈ before, isSurrogate code = false)
      (nonempty : run ≠ [])
      (surrogates : ∀ code ∈ run, isSurrogate code = true)
      (ended : ∀ code, after.head? = some code → isSurrogate code = false) :
      Locates { run, index := before.length } (before ++ run ++ after)

theorem SurrogateError.Locates.message_eq
    {error : SurrogateError} {codes : List Nat}
    (locates : error.Locates codes) :
    error.message =
      "source is not valid Unicode text: " ++
        String.ofList
          ('\'' :: error.run.flatMap (fun code => '\\' :: 'u' :: Hex.digits 4 code) ++ ['\'']) ++
        s!" at character {error.index} cannot be encoded as UTF-8" := by
  have surrogates : ∀ code ∈ error.run, isSurrogate code = true := by
    cases locates with
    | intro scalar nonempty surrogates ended =>
        exact surrogates
  unfold SurrogateError.message
  rw [Quoted.ofCodePoints_of_surrogates surrogates]

namespace Source

variable {codes : List Nat}

/-- Without surrogates every code point is the number of a character of the source. -/
theorem eq_of_ofCodePoints
    {source : Source}
    (points : ∀ code ∈ codes, code < 0x110000)
    (built : ofCodePoints codes = .ok source) :
    (∀ code ∈ codes, isSurrogate code = false) ∧ source.text.map Char.toNat = codes := by
  rw [ofCodePoints] at built
  split at built
  · rename_i dropped
    cases built
    have scalar : ∀ code ∈ codes, isSurrogate code = false := by
      simpa using List.dropWhile_eq_nil_iff.mp dropped
    refine ⟨scalar, ?_⟩
    have numbers : ∀ code ∈ codes, (Char.toNat ∘ Char.ofNat) code = id code := by
      intro code member
      exact toNat_ofNat (isValidChar_of_not_isSurrogate (points code member) (scalar code member))
    rw [List.map_map, List.map_congr_left numbers, List.map_id]
  · cases built

/-- What is refused is refused because of its first surrogates. -/
theorem locates_of_ofCodePoints
    {error : SurrogateError}
    (refused : ofCodePoints codes = .error error) :
    error.Locates codes := by
  rw [ofCodePoints] at refused
  have split := List.takeWhile_append_dropWhile (p := (!isSurrogate ·)) (l := codes)
  have scalar : ∀ code ∈ codes.takeWhile (!isSurrogate ·), isSurrogate code = false := by
    intro code member
    simpa using List.mem_takeWhile_imp member
  have first := List.head?_dropWhile_not (!isSurrogate ·) codes
  generalize codes.takeWhile (!isSurrogate ·) = before at split scalar
  generalize codes.dropWhile (!isSurrogate ·) = rest at refused split first
  cases rest with
  | nil =>
      cases refused
  | cons code rest =>
      cases refused
      have surrogate : isSurrogate code = true := by
        simpa using first
      have index : codes.length - (code :: rest).length = before.length := by
        rw [← split, List.length_append, Nat.add_sub_cancel]
      have whole :
          codes =
            before ++ (code :: rest).takeWhile isSurrogate ++
              (code :: rest).dropWhile isSurrogate := by
        rw [List.append_assoc, List.takeWhile_append_dropWhile, split]
      rw [index]
      conv in codes => rw [whole]
      apply SurrogateError.Locates.intro scalar
      · rw [List.takeWhile_cons_of_pos surrogate]
        exact List.cons_ne_nil _ _
      · intro other member
        exact List.mem_takeWhile_imp member
      · intro other here
        have ends := List.head?_dropWhile_not isSurrogate (code :: rest)
        rwa [here] at ends

/-- Code points are refused exactly if there is a surrogate among them. -/
theorem ofCodePoints_refused_iff
    (points : ∀ code ∈ codes, code < 0x110000) :
    (∃ error, ofCodePoints codes = .error error) ↔ ∃ code ∈ codes, isSurrogate code = true := by
  constructor
  · rintro ⟨error, refused⟩
    rcases locates_of_ofCodePoints refused with ⟨_, nonempty, surrogates, _⟩
    rcases List.exists_mem_of_ne_nil _ nonempty with ⟨code, member⟩
    exact ⟨code, by simp [member], surrogates code member⟩
  · rintro ⟨code, member, surrogate⟩
    cases built : ofCodePoints codes with
    | error error =>
        exact ⟨error, rfl⟩
    | ok source =>
        rw [(eq_of_ofCodePoints points built).1 code member] at surrogate
        cases surrogate

/-! ## Steps -/

variable {source : Source}

theorem slice_size (source : Source) : source.slice 0 source.size = .ok source.text := by
  rw [slice, size, List.take_length, List.drop_zero, bytes, Utf8.decode_encode]

/-- The offset that is reached from the start by so many steps, each to the next boundary. -/
def stop? (source : Source) : (steps : Nat) → Option Nat
  | 0 => some 0
  | steps + 1 => (source.stop? steps).bind source.nextBoundary?

/-- As many steps as there are characters can be made, each from a boundary to the next one. -/
theorem stop?_eq
    (source : Source)
    (steps : Nat) :
    source.stop? steps =
      if steps ≤ source.text.length then some (source.offsetOf steps) else none := by
  induction steps with
  | zero =>
      rw [stop?, if_pos (Nat.zero_le _), offsetOf_zero]
  | succ steps ih =>
      rw [stop?, ih]
      rcases Nat.lt_trichotomy steps source.text.length with within | atEnd | beyond
      · rw [if_pos (Nat.le_of_lt within), if_pos (Nat.succ_le_of_lt within), Option.bind_some,
          nextBoundary?_offsetOf within]
      · rw [if_pos (Nat.le_of_eq atEnd), if_neg (by omega), atEnd, offsetOf_length,
          Option.bind_some, nextBoundary?_size]
      · rw [if_neg (by omega), if_neg (by omega), Option.bind_none]

theorem stop?_eq_some_iff
    {steps offset : Nat} :
    source.stop? steps = some offset ↔
      steps ≤ source.text.length ∧ source.offsetOf steps = offset := by
  rw [stop?_eq]
  split
  · rename_i within
    simp [within]
  · rename_i beyond
    simp [beyond]

theorem stop?_eq_size_iff
    {steps : Nat} :
    source.stop? steps = some source.size ↔ steps = source.text.length := by
  rw [stop?_eq_some_iff]
  constructor
  · rintro ⟨within, atEnd⟩
    rcases Nat.lt_or_eq_of_le within with before | last
    · rw [← offsetOf_length] at atEnd
      exact eq_of_offsetOf_eq before atEnd
    · exact last
  · rintro rfl
    exact ⟨Nat.le_refl _, offsetOf_length⟩

/-- The stops are the boundaries. -/
theorem exists_stop?_iff
    {offset : Nat} :
    (∃ steps, source.stop? steps = some offset) ↔ source.IsBoundary offset := by
  simp only [stop?_eq_some_iff]
  constructor
  · rintro ⟨steps, within, rfl⟩
    exact ⟨steps, within, rfl⟩
  · rintro ⟨index, within, rfl⟩
    exact ⟨index, within, rfl⟩

/-- Walking on from a boundary meets the characters from its index on. -/
theorem walk_go_offsetOf
    {count index : Nat}
    (enough : source.text.length ≤ index + count) :
    walk.go source count (source.offsetOf index) =
      .ok ((source.text.drop index).map fun character => [character]) := by
  induction count generalizing index with
  | zero =>
      rw [Nat.add_zero] at enough
      rw [walk.go, List.drop_eq_nil_of_le enough, List.map_nil]
  | succ count ih =>
      rw [walk.go]
      rcases Nat.lt_or_ge index source.text.length with within | atEnd
      · have onwards : walk.go source count (source.offsetOf (index + 1)) = _ := ih (by omega)
        have character : source.slice (source.offsetOf index) (source.offsetOf (index + 1)) =
            .ok [source.text[index]] := by
          rw [slice_offsetOf (Nat.le_succ index), between_succ (List.getElem?_eq_getElem within)]
        rw [nextBoundary?_offsetOf within, List.drop_eq_getElem_cons within]
        simp only
        rw [character, onwards]
        rfl
      · have past : source.offsetOf index = source.size := by
          rw [offsetOf, List.take_of_length_le atEnd, size, bytes]
        rw [past, nextBoundary?_size, List.drop_eq_nil_of_le atEnd]
        rfl

theorem walk_eq (source : Source) :
    source.walk = .ok (source.text.map fun character => [character]) := by
  have enough : source.text.length ≤ 0 + source.size := by
    rw [Nat.zero_add]
    exact Utf8.length_le_length_encode source.text
  have walked := walk_go_offsetOf enough
  rwa [offsetOf_zero] at walked

end Source

/-! ## Steps from anywhere -/

namespace Utf8

/-- The width that any byte of an encoded character announces ends within the encoding. -/
theorem Encodes.add_width_le
    {code offset : Nat} {bytes : List UInt8} {byte : UInt8}
    (encodes : Encodes code bytes)
    (present : bytes[offset]? = some byte) :
    offset + max 1 (leadingOnes byte) ≤ bytes.length := by
  rcases encodes.width_eq with ⟨first, trailing, rfl, width⟩
  cases offset with
  | zero =>
      cases present
      omega
  | succ offset =>
      rw [List.getElem?_cons_succ] at present
      have inside := (List.getElem?_eq_some_iff.mp present).1
      rw [leadingOnes_trailing (encodes.trailing_range byte (List.mem_of_getElem? present)),
        List.length_cons]
      omega

theorem add_width_le_encode
    {text : List Char} {offset : Nat} {byte : UInt8}
    (present : (encode text)[offset]? = some byte) :
    offset + max 1 (leadingOnes byte) ≤ (encode text).length := by
  induction text generalizing offset with
  | nil =>
      cases present
  | cons character rest ih =>
      rw [encode_cons] at present
      rw [encode_cons, List.length_append]
      rcases Nat.lt_or_ge offset (String.utf8EncodeChar character).length with inside | behind
      · rw [List.getElem?_append_left inside] at present
        have within := (encodes_encodeChar character).add_width_le present
        omega
      · rw [List.getElem?_append_right behind] at present
        have within := ih present
        omega

end Utf8

/-- From every offset before the end there is a step onwards, which does not go beyond the end. -/
theorem Source.exists_nextBoundary?
    {source : Source} {offset : Nat}
    (within : offset < source.size) :
    ∃ next, source.nextBoundary? offset = some next ∧ offset < next ∧ next ≤ source.size := by
  have present : source.bytes[offset]? = some source.bytes[offset] :=
    List.getElem?_eq_getElem within
  have room : offset + max 1 (Utf8.leadingOnes source.bytes[offset]) ≤ source.size :=
    Utf8.add_width_le_encode present
  have found : source.nextBoundary? offset =
      some (offset + max 1 (Utf8.leadingOnes source.bytes[offset])) := by
    rw [nextBoundary?, present]
    exact if_pos room
  exact ⟨_, found, nextBoundary?_bounds found⟩

/--
Code points are refused exactly if there is a surrogate among them, and the report then names the
index of the first one and shows the run of surrogates that begins there.  Otherwise the source
holds the characters with these numbers, and all its bytes decode to them.  From the start of such a
source it takes as many steps to the end as there are characters.  The stops are the character
boundaries, later stops lie behind earlier ones, and the bytes between two stops in a row are those
of one character, which is also what a walk over the source says.  From every offset before the end,
be it a boundary or not, the next boundary lies behind the offset and not behind the end.
-/
theorem encoding_round_trips_character_by_character
    (codes : List Nat)
    (points : ∀ code ∈ codes, code < 0x110000) :
    ((∃ error, Source.ofCodePoints codes = .error error) ↔
        ∃ code ∈ codes, isSurrogate code = true) ∧
      (∀ error, Source.ofCodePoints codes = .error error →
        error.Locates codes ∧
          error.message =
            "source is not valid Unicode text: " ++
              String.ofList
                ('\'' :: error.run.flatMap (fun code => '\\' :: 'u' :: Hex.digits 4 code) ++
                  ['\'']) ++
              s!" at character {error.index} cannot be encoded as UTF-8") ∧
      ∀ source, Source.ofCodePoints codes = .ok source →
        source.text.map Char.toNat = codes ∧
          source.slice 0 source.size = .ok source.text ∧
          (∀ steps, source.stop? steps = some source.size ↔ steps = source.text.length) ∧
          (∀ offset, (∃ steps, source.stop? steps = some offset) ↔ source.IsBoundary offset) ∧
          (∀ fewer more first second,
            source.stop? fewer = some first →
              source.stop? more = some second →
                (fewer < more ↔ first < second)) ∧
          (∀ steps character,
            source.text[steps]? = some character →
              ∃ start stop,
                source.stop? steps = some start ∧
                  source.stop? (steps + 1) = some stop ∧
                  source.slice start stop = .ok [character]) ∧
          source.walk = .ok (source.text.map fun character => [character]) ∧
          ∀ offset < source.size,
            ∃ next,
              source.nextBoundary? offset = some next ∧ offset < next ∧ next ≤ source.size := by
  refine ⟨Source.ofCodePoints_refused_iff points, ?_, ?_⟩
  · intro error refused
    have locates := Source.locates_of_ofCodePoints refused
    exact ⟨locates, locates.message_eq⟩
  · intro source built
    refine ⟨(Source.eq_of_ofCodePoints points built).2, source.slice_size, ?_, ?_, ?_, ?_,
      source.walk_eq, ?_⟩
    · intro steps
      exact Source.stop?_eq_size_iff
    · intro offset
      exact Source.exists_stop?_iff
    · intro fewer more first second one other
      rw [Source.stop?_eq_some_iff] at one other
      rcases one with ⟨within, rfl⟩
      rcases other with ⟨further, rfl⟩
      rw [← Nat.not_le, ← Nat.not_le, Source.offsetOf_le_iff further]
    · intro steps character present
      have inside := (List.getElem?_eq_some_iff.mp present).1
      refine ⟨source.offsetOf steps, source.offsetOf (steps + 1), ?_, ?_, ?_⟩
      · exact Source.stop?_eq_some_iff.mpr ⟨Nat.le_of_lt inside, rfl⟩
      · exact Source.stop?_eq_some_iff.mpr ⟨inside, rfl⟩
      · rw [Source.slice_offsetOf (Nat.le_succ steps), Source.between_succ present]
    · intro offset within
      exact Source.exists_nextBoundary? within

/-- Code points with a pair of surrogates behind a character of three bytes, and one more later. -/
def surrogateCodes : List Nat :=
  [0x20AC, 0xD83D, 0xDE00, 0x62, 0xD800]

/-- The numbers of characters of one to four bytes. -/
def scalarCodes : List Nat :=
  [0x41, 0xE9, 0x20AC, 0x1F600]

theorem encoding_round_trips_character_by_character_widths :
    (∃ error, Source.ofCodePoints surrogateCodes = .error error) ∧
      ∃ source,
        Source.ofCodePoints scalarCodes = .ok source ∧
          source.slice 0 source.size = .ok source.text ∧
          (∀ steps, source.stop? steps = some source.size ↔ steps = 4) ∧
          ∃ next, source.nextBoundary? 7 = some next ∧ 7 < next ∧ next ≤ source.size := by
  have refused := encoding_round_trips_character_by_character surrogateCodes (by decide)
  have accepted := encoding_round_trips_character_by_character scalarCodes (by decide)
  refine ⟨refused.1.mpr ⟨0xD83D, by decide, by decide⟩, ?_⟩
  have built : Source.ofCodePoints scalarCodes = .ok { text := scalarCodes.map Char.ofNat } := rfl
  rcases accepted.2.2 _ built with ⟨_, decoded, ends, _, _, _, _, onwards⟩
  exact ⟨_, built, decoded, ends, onwards 7 (by decide)⟩

end TokenForest.Text
