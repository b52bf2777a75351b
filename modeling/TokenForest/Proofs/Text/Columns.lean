import TokenForest.Proofs.Text.Window

/-!
# Columns at any offset

The line and the column of an offset are found on the side of the bytes, where an offset may stand
inside a character.  What is left of the character before the offset is shown as one replacement
character, so the offset has the line and the column of the boundary behind the character.  The
column thus counts the characters that have begun since the last line feed, and lines and columns
never decrease from one offset to the next.
-/

namespace TokenForest.Text

theorem rdropWhile_append_of_forall
    {Item : Type} {keep : Item → Bool}
    {first second : List Item}
    (kept : ∀ item ∈ second, keep item = true) :
    (first ++ second).rdropWhile keep = first.rdropWhile keep := by
  rw [List.rdropWhile, List.reverse_append, List.dropWhile_append_of_pos, List.rdropWhile]
  intro item member
  exact kept item (List.mem_reverse.mp member)

/-- A list whose end is dropped back to an item ends with this item. -/
theorem getElem?_of_length_rdropWhile
    {Item : Type} [DecidableEq Item]
    {items : List Item} {item : Item} {place : Nat}
    (length : (items.rdropWhile (· != item)).length = place + 1) :
    items[place]? = some item := by
  have within : place < (items.rdropWhile (· != item)).length := by
    rw [length]
    exact Nat.lt_succ_self place
  have nonempty : items.rdropWhile (· != item) ≠ [] :=
    List.ne_nil_of_length_pos (Nat.zero_lt_of_lt within)
  have last := List.rdropWhile_last_not (· != item) items nonempty
  rw [List.getLast_eq_getElem] at last
  simp only [length, Nat.add_sub_cancel, bne_iff_ne, ne_eq, not_not] at last
  have prior := List.rdropWhile_prefix (· != item) items
  rw [List.getElem?_eq_some_iff]
  exact ⟨Nat.lt_of_lt_of_le within prior.length_le, (prior.getElem within).symm.trans last⟩

/-- The items at the indices from one up to another one are those in between. -/
theorem map_fst_filter_zipIdx
    {Item : Type} {items : List Item} {first final : Nat} {keep : Nat → Bool}
    (kept : ∀ index < items.length, keep index = true ↔ first ≤ index ∧ index < final) :
    (items.zipIdx.filter fun entry => keep entry.2).map Prod.fst =
      (items.take final).drop first := by
  -- The induction adds items at the end, where the indices of the others stay the same.
  induction items using List.reverseRecOn with
  | nil =>
      simp
  | append_singleton items item ih =>
      rw [List.length_append, List.length_singleton] at kept
      have before := ih fun index less => kept index (Nat.lt_succ_of_lt less)
      have here := kept items.length (Nat.lt_succ_self _)
      rw [List.zipIdx_append, List.filter_append, List.map_append, before, Nat.zero_add,
        List.zipIdx_singleton]
      by_cases keeps : keep items.length = true
      · rcases here.mp keeps with ⟨begins, ends⟩
        rw [List.filter_singleton, keeps, cond_true, List.map_singleton,
          List.take_of_length_le (Nat.le_of_lt ends), List.take_of_length_le,
          List.drop_append_of_le_length begins]
        rw [List.length_append, List.length_singleton]
        exact ends
      · rw [List.filter_singleton, Bool.eq_false_iff.mpr keeps, cond_false, List.map_nil,
          List.append_nil]
        rcases Nat.lt_or_ge items.length final with ends | past
        · have begins : items.length < first := by
            apply Nat.lt_of_not_le
            intro begins
            exact keeps (here.mpr ⟨begins, ends⟩)
          rw [List.drop_eq_nil_of_le, List.drop_eq_nil_of_le]
          · rw [List.length_take, List.length_append, List.length_singleton]
            omega
          · rw [List.length_take]
            omega
        · rw [List.take_append_of_le_length past]

namespace Source

variable
    {source : Source}
    {index offset : Nat}

/-- The offset behind the last line feed before an offset, or the start if there is none. -/
def lineStart (source : Source) (offset : Nat) : Nat :=
  ((source.bytes.take offset).rdropWhile (· != 0x0A)).length

/-- The line of an offset begins at the start, behind the last line feed before the offset. -/
structure StartsLine (source : Source) (start offset : Nat) : Prop where
  ordered : start ≤ offset
  fresh : ∀ place, start = place + 1 → source.bytes[place]? = some 0x0A
  unbroken : ∀ place, start ≤ place → place < offset → source.bytes[place]? ≠ some 0x0A

theorem startsLine_lineStart
    (source : Source)
    (offset : Nat) :
    source.StartsLine (source.lineStart offset) (min offset source.size) := by
  have parts : (source.bytes.take offset).rdropWhile (· != 0x0A) ++ source.lineHead offset =
      source.bytes.take offset := List.rdropWhile_append_rtakeWhile
  have reads {place : Nat} (before : place < (source.bytes.take offset).length) :
      source.bytes[place]? = (source.bytes.take offset)[place]? := by
    rw [List.getElem?_take_of_lt]
    rw [List.length_take] at before
    exact Nat.lt_of_lt_of_le before (Nat.min_le_left _ _)
  have length : (source.bytes.take offset).length = min offset source.size := List.length_take
  rw [← length]
  refine ⟨?_, ?_, ?_⟩
  · rw [← parts, List.length_append, lineStart]
    exact Nat.le_add_right _ _
  · intro place behind
    have feed := getElem?_of_length_rdropWhile behind
    rw [reads (List.getElem?_eq_some_iff.mp feed).1, feed]
  · intro place begins before
    rw [reads before, ← parts, List.getElem?_append_right begins]
    intro feed
    have member := List.mem_rtakeWhile_imp (List.mem_of_getElem? feed)
    cases member

/-- The characters whose first bytes lie from one offset up to another one. -/
def beginning (source : Source) (start stop : Nat) : List Char :=
  (source.text.zipIdx.filter fun entry =>
    start ≤ source.offsetOf entry.2 && source.offsetOf entry.2 < stop).map Prod.fst

/--
The first boundary that does not lie before the offset is that of the index; they have the same line
and the same column.
-/
structure RoundsUp (source : Source) (offset index : Nat) : Prop where
  within : index ≤ source.text.length
  begun :
    ∀ other < source.text.length,
      source.offsetOf other < min offset source.size ↔ other < index
  lineAt_eq : source.lineAt offset = source.lineAt (source.offsetOf index)
  columnAt_eq : source.columnAt offset = source.columnAt (source.offsetOf index)
  lineStart_eq : source.lineStart offset = source.lineStart (source.offsetOf index)

theorem roundsUp_offsetOf
    (within : index ≤ source.text.length) :
    source.RoundsUp (source.offsetOf index) index where
  within := within
  begun := by
    intro other less
    rw [Nat.min_eq_left (offsetOf_le_size within)]
    constructor
    · exact lt_of_offsetOf_lt
    · intro earlier
      exact offsetOf_lt earlier within
  lineAt_eq := rfl
  columnAt_eq := rfl
  lineStart_eq := rfl

theorem roundsUp_of_size_le
    (beyond : source.size ≤ offset) :
    source.RoundsUp offset source.text.length := by
  have whole :
      source.bytes.take offset = source.bytes.take (source.offsetOf source.text.length) := by
    rw [offsetOf_length, List.take_of_length_le beyond, size, List.take_length]
  have atEnd : source.RoundsUp (source.offsetOf source.text.length) source.text.length :=
    roundsUp_offsetOf (Nat.le_refl source.text.length)
  refine ⟨Nat.le_refl _, ?_, ?_, ?_, ?_⟩
  · intro other less
    rw [Nat.min_eq_right beyond, ← offsetOf_length, ← atEnd.begun other less,
      Nat.min_eq_left (offsetOf_le_size (Nat.le_refl _))]
  · rw [lineAt, lineAt, whole]
  · rw [columnAt, columnAt, lineHead, lineHead, whole]
  · rw [lineStart, lineStart, whole]

/--
What an offset inside a character leaves of it is no line feed, and is shown as one character.
-/
theorem Inside.exists_cut
    (inside : source.Inside index offset) :
    ∃ character cut,
      source.text[index]? = some character ∧
        '\n' ∉ [character] ∧
        source.bytes.take offset = Utf8.encode (source.text.take index) ++ cut ∧
        (0x0A : UInt8) ∉ cut ∧
        Utf8.decodeLenient cut = [Utf8.replacement] := by
  rcases inside.exists_parts with
    ⟨character, first, trailing, count, present, split, short, -, before, -⟩
  have other : character ≠ '\n' := by
    rintro rfl
    rw [Utf8.encodeChar_lineFeed] at split
    cases split
    exact absurd short (Nat.not_lt_zero count)
  refine ⟨character, first :: trailing.take count, present, ?_, before, ?_, ?_⟩
  · rw [List.mem_singleton]
    exact Ne.symm other
  · intro member
    apply Utf8.lineFeed_notMem_encodeChar other
    rw [split]
    exact List.cons_subset_cons first (List.take_subset count trailing) member
  · have encodes := Utf8.encodes_encodeChar character
    rw [split] at encodes
    rw [Utf8.decodeLenient, encodes.pieces_take short]
    rfl

/--
An offset inside a character has the line and the column of the boundary behind the character.
-/
theorem Inside.roundsUp
    (inside : source.Inside index offset) :
    source.RoundsUp offset (index + 1) := by
  rcases inside.exists_cut with ⟨character, cut, present, unbroken, before, uncut, shown⟩
  have within : index < source.text.length := (List.getElem?_eq_some_iff.mp present).1
  have onwards : source.text.take (index + 1) = source.text.take index ++ [character] := by
    rw [List.take_add_one, present, Option.toList_some]
  have head : source.lineHead offset =
      Utf8.encode (lastLine (source.text.take index)) ++ cut := by
    rw [← Utf8.rtakeWhile_encode, ← rtakeWhile_append_of_forall (bne_of_notMem uncut), ← before]
    rfl
  refine ⟨within, ?_, ?_, ?_, ?_⟩
  · intro other less
    have inner : offset < source.size :=
      Nat.lt_of_lt_of_le inside.before (offsetOf_le_size within)
    rw [Nat.min_eq_left (Nat.le_of_lt inner)]
    constructor
    · intro begun
      exact lt_of_offsetOf_lt (Nat.lt_trans begun inside.before)
    · intro earlier
      exact Nat.lt_of_le_of_lt (offsetOf_le (Nat.le_of_lt_succ earlier)) inside.behind
  · rw [lineAt_offsetOf, onwards, List.count_append, List.count_eq_zero.mpr unbroken, lineAt,
      before, List.count_append, List.count_eq_zero.mpr uncut, Utf8.count_lineFeed_encode]
  · rw [columnAt_offsetOf, onwards, lastLine_append_of_notMem unbroken, columnAt, head,
      Utf8.decodeLenient_encode_append, shown, List.length_append, List.length_append]
    rfl
  · -- Neither the cut nor the whole character holds a line feed: both lines begin behind the same
    -- one.
    have whole : (0x0A : UInt8) ∉ String.utf8EncodeChar character := by
      apply Utf8.lineFeed_notMem_encodeChar
      rintro rfl
      exact unbroken (List.mem_singleton_self _)
    rw [lineStart, lineStart, before, rdropWhile_append_of_forall (bne_of_notMem uncut),
      take_bytes_offsetOf, onwards, Utf8.encode_append, Utf8.encode_cons, Utf8.encode_nil,
      List.append_nil, rdropWhile_append_of_forall (bne_of_notMem whole)]

theorem exists_roundsUp
    (source : Source)
    (offset : Nat) :
    ∃ index, source.RoundsUp offset index := by
  rcases Nat.le_total source.size offset with beyond | within
  · exact ⟨_, roundsUp_of_size_le beyond⟩
  · rcases isBoundary_or_inside within with ⟨index, inner, rfl⟩ | ⟨index, inside⟩
    · exact ⟨index, roundsUp_offsetOf inner⟩
    · exact ⟨_, inside.roundsUp⟩

/-! ## What has begun before an offset -/

/-- The line of a boundary begins at a boundary, and what is in between is the last line so far. -/
theorem exists_lineStart_offsetOf
    (source : Source)
    (index : Nat) :
    ∃ first ≤ source.text.length,
      source.lineStart (source.offsetOf index) = source.offsetOf first ∧
        lastLine (source.text.take index) = source.between first index := by
  have parts :
      (source.text.take index).rdropWhile (· != '\n') ++ lastLine (source.text.take index) =
        source.text.take index :=
    List.rdropWhile_append_rtakeWhile
  have prior : (source.text.take index).rdropWhile (· != '\n') <+: source.text :=
    (List.rdropWhile_prefix _ _).trans (List.take_prefix _ _)
  refine ⟨_, prior.length_le, ?_, ?_⟩
  · have bytes : (Utf8.encode (source.text.take index)).rdropWhile (· != 0x0A) ++
          Utf8.encode (lastLine (source.text.take index)) =
        Utf8.encode ((source.text.take index).rdropWhile (· != '\n')) ++
          Utf8.encode (lastLine (source.text.take index)) := by
      rw [← Utf8.encode_append, parts, ← Utf8.rtakeWhile_encode, List.rdropWhile_append_rtakeWhile]
    rw [lineStart, take_bytes_offsetOf, List.append_cancel_right bytes, offsetOf,
      ← List.prefix_iff_eq_take.mp prior]
  · have after := congrArg
      (List.drop ((source.text.take index).rdropWhile (· != '\n')).length) parts
    rwa [List.drop_left] at after

theorem RoundsUp.beginning_eq
    {start first : Nat}
    (roundsUp : source.RoundsUp offset index)
    (within : first ≤ source.text.length)
    (begins : start = source.offsetOf first) :
    source.beginning start (min offset source.size) = source.between first index := by
  subst begins
  have kept : ∀ other < source.text.length,
      (source.offsetOf first ≤ source.offsetOf other &&
          source.offsetOf other < min offset source.size) = true ↔
        first ≤ other ∧ other < index := by
    intro other less
    rw [Bool.and_eq_true, decide_eq_true_iff, decide_eq_true_iff, offsetOf_le_iff within,
      roundsUp.begun other less]
  exact map_fst_filter_zipIdx kept

theorem lineAt_eq_count
    (source : Source)
    (offset : Nat) :
    source.lineAt offset = (source.beginning 0 (min offset source.size)).count '\n' + 1 := by
  rcases source.exists_roundsUp offset with ⟨index, roundsUp⟩
  rw [roundsUp.beginning_eq (Nat.zero_le _) offsetOf_zero.symm, roundsUp.lineAt_eq, lineAt_offsetOf,
    between, List.drop_zero]

theorem columnAt_eq_length
    (source : Source)
    (offset : Nat) :
    source.columnAt offset =
      (source.beginning (source.lineStart offset) (min offset source.size)).length + 1 := by
  rcases source.exists_roundsUp offset with ⟨index, roundsUp⟩
  rcases source.exists_lineStart_offsetOf index with ⟨first, within, begins, line⟩
  rw [roundsUp.beginning_eq within (roundsUp.lineStart_eq.trans begins), ← line,
    roundsUp.columnAt_eq, columnAt_offsetOf]

theorem Inside.columnAt_eq
    (inside : source.Inside index offset) :
    source.columnAt offset = source.columnAt (source.offsetOf (index + 1)) ∧
      source.columnAt offset = source.columnAt (source.offsetOf index) + 1 := by
  have roundsUp := inside.roundsUp
  rcases inside.exists_cut with ⟨character, cut, present, unbroken, -, -, -⟩
  refine ⟨roundsUp.columnAt_eq, ?_⟩
  rw [roundsUp.columnAt_eq, columnAt_offsetOf, columnAt_offsetOf, List.take_add_one, present,
    Option.toList_some, lastLine_append_of_notMem unbroken, List.length_append,
    List.length_singleton]

/-- A later offset has no lesser line, and no lesser column on the same line. -/
theorem lineAt_columnAt_mono
    {first second : Nat}
    (ordered : first ≤ second) :
    source.lineAt first < source.lineAt second ∨
      source.lineAt first = source.lineAt second ∧
        source.columnAt first ≤ source.columnAt second := by
  rcases source.exists_roundsUp first with ⟨start, rounds⟩
  rcases source.exists_roundsUp second with ⟨stop, roundsAlso⟩
  rw [rounds.lineAt_eq, rounds.columnAt_eq, roundsAlso.lineAt_eq, roundsAlso.columnAt_eq]
  have onwards : start ≤ stop := by
    apply Nat.le_of_not_lt
    intro backwards
    have less : stop < source.text.length := Nat.lt_of_lt_of_le backwards rounds.within
    -- The character at the lesser boundary would have begun before one offset, but not the later
    -- one.
    have begun := (rounds.begun stop less).mpr backwards
    have still : source.offsetOf stop < min second source.size := by omega
    exact Nat.lt_irrefl stop ((roundsAlso.begun stop less).mp still)
  rcases Nat.lt_or_eq_of_le onwards with before | rfl
  · rcases positionAt_precedes before roundsAlso.within with earlier | ⟨same, left⟩
    · exact .inl earlier
    · exact .inr ⟨same, Nat.le_of_lt left⟩
  · exact .inr ⟨rfl, Nat.le_refl _⟩

end Source

/--
The column of any offset counts the characters whose first bytes lie between the last line feed
before the offset and the offset, so inside a character it is the column of what follows the
character.  The line counts the line feeds that begin before the offset.  A later offset never has a
lesser line, nor a lesser column on the same line.
-/
theorem columns_count_what_has_begun (source : Source) :
    (∀ offset, ∃ start,
      source.StartsLine start (min offset source.size) ∧
        source.columnAt offset =
          (source.beginning start (min offset source.size)).length + 1) ∧
      (∀ index offset,
        source.Inside index offset →
          source.columnAt offset = source.columnAt (source.offsetOf (index + 1)) ∧
            source.columnAt offset = source.columnAt (source.offsetOf index) + 1) ∧
      (∀ offset,
        source.lineAt offset =
          (source.beginning 0 (min offset source.size)).count '\n' + 1) ∧
      ∀ first second,
        first ≤ second →
          source.lineAt first < source.lineAt second ∨
            source.lineAt first = source.lineAt second ∧
              source.columnAt first ≤ source.columnAt second := by
  refine ⟨?_, ?_, source.lineAt_eq_count, ?_⟩
  · intro offset
    exact ⟨_, source.startsLine_lineStart offset, source.columnAt_eq_length offset⟩
  · intro index offset inside
    exact inside.columnAt_eq
  · intro first second ordered
    exact Source.lineAt_columnAt_mono ordered

/-- All offsets inside a character of four bytes have the column behind it. -/
example :
    let source := Source.ofString "a\n😀b"
    [2, 3, 4, 5, 6, 7, 9].map source.columnAt = [1, 2, 2, 2, 2, 3, 3] := by
  decide +kernel

end TokenForest.Text
