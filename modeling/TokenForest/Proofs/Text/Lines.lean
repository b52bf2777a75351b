import Mathlib.Data.List.DropRight
import TokenForest.Proofs.Text.Boundary

/-!
# Lines and columns

A place in a source is numbered on the side of the bytes: the line counts the line feeds before the
offset, and the column decodes the bytes since the last of them.  The lines themselves are cut from
the characters.  No character but the line feed has the byte of a line feed in its encoding, so at a
boundary both sides agree: the number of line feeds before an index selects the line that the
character stands on, and what stands before it on this line is as long as the column says.
-/

namespace TokenForest.Text

/-- A place on an earlier line than another one, or further left on the same line. -/
def Position.Precedes (first second : Position) : Prop :=
  first.line < second.line ∨ first.line = second.line ∧ first.column < second.column

/-! ## Line feeds among characters -/

/-- What follows the last line feed of a text. -/
abbrev lastLine (text : List Char) : List Char := text.rtakeWhile (· != '\n')

theorem bne_of_notMem
    {Item : Type} [DecidableEq Item]
    {items : List Item} {item : Item}
    (absent : item ∉ items) :
    ∀ other ∈ items, (other != item) = true := by
  intro other member
  rw [bne_iff_ne]
  rintro rfl
  exact absent member

theorem rtakeWhile_append_of_forall
    {Item : Type} {keep : Item → Bool}
    {first second : List Item}
    (kept : ∀ item ∈ second, keep item = true) :
    (first ++ second).rtakeWhile keep = first.rtakeWhile keep ++ second := by
  rw [List.rtakeWhile, List.reverse_append, List.takeWhile_append_of_pos, List.reverse_append,
    List.reverse_reverse, List.rtakeWhile]
  intro item member
  exact kept item (List.mem_reverse.mp member)

theorem lastLine_append_of_notMem
    {first second : List Char}
    (unbroken : '\n' ∉ second) :
    lastLine (first ++ second) = lastLine first ++ second :=
  rtakeWhile_append_of_forall (bne_of_notMem unbroken)

theorem length_splitOn (text : List Char) :
    (text.splitOn '\n').length = text.count '\n' + 1 := by
  induction text with
  | nil =>
      rfl
  | cons character rest ih =>
      rw [List.splitOn_cons_eq_if_modifyHead, List.count_cons]
      split
      · rw [List.length_cons, ih]
      · rw [List.length_modifyHead, ih, Nat.add_zero]

/-- The first line goes on to the first line feed. -/
theorem head?_splitOn (text : List Char) :
    (text.splitOn '\n').head? = some (text.takeWhile (· != '\n')) := by
  induction text with
  | nil =>
      rfl
  | cons character rest ih =>
      rw [List.splitOn_cons_eq_if_modifyHead, List.takeWhile_cons, bne]
      cases character == '\n' with
      | true =>
          rfl
      | false =>
          show (List.modifyHead (List.cons character) (rest.splitOn '\n')).head? = _
          rw [List.head?_modifyHead, ih]
          rfl

/-- The line that a place stands on is what surrounds the place between two line feeds. -/
theorem splitOn_getElem?_count
    (before after : List Char) :
    ((before ++ after).splitOn '\n')[before.count '\n']? =
      some (lastLine before ++ after.takeWhile (· != '\n')) := by
  -- What stands before the place is taken up from its end, and moves behind the place.
  induction before using List.reverseRecOn generalizing after with
  | nil =>
      rw [List.nil_append, List.count_nil, ← List.head?_eq_getElem?, head?_splitOn]
      rfl
  | append_singleton before character ih =>
      rw [List.append_assoc, List.singleton_append, List.count_append]
      by_cases feed : character = '\n'
      · subst feed
        have start : lastLine (before ++ ['\n']) = [] :=
          List.rtakeWhile_concat_neg _ _ _ (by simp)
        rw [List.splitOn_append_cons_self, start, List.nil_append, ← head?_splitOn,
          List.head?_eq_getElem?, List.getElem?_append_right]
        · rw [length_splitOn, List.count_singleton_self, Nat.sub_self]
        · rw [length_splitOn, List.count_singleton_self]
      · have onwards : lastLine (before ++ [character]) = lastLine before ++ [character] :=
          lastLine_append_of_notMem (by simpa using Ne.symm feed)
        have uncounted : [character].count '\n' = 0 :=
          List.count_eq_zero.mpr (by simpa using Ne.symm feed)
        rw [uncounted, Nat.add_zero, ih, onwards, List.takeWhile_cons_of_pos (by simpa using feed),
          List.append_assoc]
        rfl

/-! ## Line feeds among bytes -/

namespace Utf8

/-- Of all characters, only the line feed has the byte of a line feed in its encoding. -/
theorem Encodes.lineFeed_notMem
    {code : Nat} {bytes : List UInt8}
    (encodes : Encodes code bytes)
    (other : code ≠ 0x0A) :
    (0x0A : UInt8) ∉ bytes := by
  have differs {byte : UInt8} (number : byte.toNat ≠ 0x0A) : (0x0A : UInt8) ≠ byte := by
    rintro rfl
    exact number rfl
  cases encodes with
  | one range firstEq =>
      simp only [List.mem_singleton]
      exact differs (by omega)
  | two range firstEq secondEq =>
      simp only [List.mem_cons, List.not_mem_nil, or_false, not_or]
      exact ⟨differs (by omega), differs (by omega)⟩
  | three range scalar firstEq secondEq thirdEq =>
      simp only [List.mem_cons, List.not_mem_nil, or_false, not_or]
      exact ⟨differs (by omega), differs (by omega), differs (by omega)⟩
  | four range firstEq secondEq thirdEq fourthEq =>
      simp only [List.mem_cons, List.not_mem_nil, or_false, not_or]
      exact ⟨differs (by omega), differs (by omega), differs (by omega), differs (by omega)⟩

theorem lineFeed_notMem_encodeChar
    {character : Char}
    (other : character ≠ '\n') :
    (0x0A : UInt8) ∉ String.utf8EncodeChar character := by
  apply (encodes_encodeChar character).lineFeed_notMem
  intro same
  exact other (Char.toNat_inj.mp same)

theorem encodeChar_lineFeed : String.utf8EncodeChar '\n' = [0x0A] := by
  decide

theorem count_lineFeed_encode (text : List Char) :
    (encode text).count 0x0A = text.count '\n' := by
  induction text with
  | nil =>
      rfl
  | cons character rest ih =>
      rw [encode_cons, List.count_append, ih]
      by_cases feed : character = '\n'
      · subst feed
        rw [encodeChar_lineFeed, List.count_singleton_self, List.count_cons_self, Nat.add_comm]
      · rw [List.count_cons_of_ne feed, List.count_eq_zero.mpr (lineFeed_notMem_encodeChar feed),
          Nat.zero_add]

/-- The bytes after the last line feed are those of the characters after it. -/
theorem rtakeWhile_encode (text : List Char) :
    (encode text).rtakeWhile (· != 0x0A) = encode (lastLine text) := by
  induction text using List.reverseRecOn with
  | nil =>
      rfl
  | append_singleton before character ih =>
      rw [encode_append, encode_cons, encode_nil, List.append_nil]
      by_cases feed : character = '\n'
      · subst feed
        rw [encodeChar_lineFeed, List.rtakeWhile_concat_neg _ _ _ (by simp), lastLine,
          List.rtakeWhile_concat_neg _ _ _ (by simp), encode_nil]
      · have unbroken : '\n' ∉ [character] := by simpa using Ne.symm feed
        rw [rtakeWhile_append_of_forall (bne_of_notMem (lineFeed_notMem_encodeChar feed)), ih,
          lastLine_append_of_notMem unbroken, encode_append, encode_cons, encode_nil,
          List.append_nil]

theorem decodeLenient_encode_append
    (text : List Char)
    (rest : List UInt8) :
    decodeLenient (encode text ++ rest) = text ++ decodeLenient rest := by
  induction text with
  | nil =>
      rfl
  | cons character text ih =>
      rw [decodeLenient, encode_cons, List.append_assoc, pieces_encodeChar_append, List.map_cons]
      exact congrArg (character :: ·) ih

/-- Nothing is replaced when encoded text is decoded leniently. -/
theorem decodeLenient_encode (text : List Char) :
    decodeLenient (encode text) = text := by
  have whole := decodeLenient_encode_append text []
  rw [List.append_nil] at whole
  exact whole.trans (List.append_nil text)

end Utf8

/-! ## The numbers of a boundary -/

namespace Source

/-- A character of the source begins at the offset, or the source ends there. -/
def IsBoundary (source : Source) (offset : Nat) : Prop :=
  ∃ index ≤ source.text.length, offset = source.offsetOf index

variable
    {source : Source}
    {start stop : Nat}

theorem lineAt_offsetOf
    (source : Source)
    (index : Nat) :
    source.lineAt (source.offsetOf index) = (source.text.take index).count '\n' + 1 := by
  rw [lineAt, take_bytes_offsetOf, Utf8.count_lineFeed_encode]

theorem columnAt_offsetOf
    (source : Source)
    (index : Nat) :
    source.columnAt (source.offsetOf index) =
      (lastLine (source.text.take index)).length + 1 := by
  have head : source.lineHead (source.offsetOf index) =
      Utf8.encode (lastLine (source.text.take index)) := by
    rw [lineHead, take_bytes_offsetOf, ← Utf8.rtakeWhile_encode]
    rfl
  rw [columnAt, head, Utf8.decodeLenient_encode]

theorem lineAt_size (source : Source) :
    source.lineAt source.size = source.lines.length := by
  rw [← offsetOf_length, lineAt_offsetOf, List.take_length, lines, length_splitOn]

/-- A line feed between two boundaries makes the line greater, anything else the column. -/
theorem positionAt_precedes
    (ordered : start < stop)
    (within : stop ≤ source.text.length) :
    (source.positionAt (source.offsetOf start)).Precedes
      (source.positionAt (source.offsetOf stop)) := by
  have split : source.text.take stop = source.text.take start ++ source.between start stop :=
    take_eq_append_between (Nat.le_of_lt ordered)
  simp only [Position.Precedes, positionAt, lineAt_offsetOf, columnAt_offsetOf, split,
    List.count_append]
  by_cases broken : '\n' ∈ source.between start stop
  · left
    have counted := List.count_pos_iff.mpr broken
    omega
  · right
    have characters : (source.between start stop).length = stop - start := length_between within
    rw [List.count_eq_zero.mpr broken, lastLine_append_of_notMem broken, List.length_append]
    constructor
    · rfl
    · omega

/-- The character at a boundary stands on the line, and in the column, that its offset is given. -/
theorem lines_getElem?_lineAt
    {index : Nat} {character : Char}
    (present : source.text[index]? = some character)
    (unbroken : character ≠ '\n') :
    ∃ row,
      source.lines[source.lineAt (source.offsetOf index) - 1]? = some row ∧
        row[source.columnAt (source.offsetOf index) - 1]? = some character := by
  have onwards : source.text.drop index = character :: source.text.drop (index + 1) := by
    rcases List.getElem?_eq_some_iff.mp present with ⟨within, rfl⟩
    exact List.drop_eq_getElem_cons within
  have found := splitOn_getElem?_count (source.text.take index) (source.text.drop index)
  rw [List.take_append_drop, onwards, List.takeWhile_cons_of_pos (by simpa using unbroken)] at found
  rw [lineAt_offsetOf, columnAt_offsetOf, Nat.add_sub_cancel, Nat.add_sub_cancel]
  refine ⟨_, found, ?_⟩
  rw [List.getElem?_append_right (Nat.le_refl _), Nat.sub_self, List.getElem?_cons_zero]

/-- The text of a line lacks nothing but the carriage returns at its end. -/
theorem lineText_append_replicate
    {number : Nat} {row : List Char}
    (positive : 0 < number)
    (present : source.lines[number - 1]? = some row) :
    (∃ count, row = source.lineText number ++ List.replicate count '\r') ∧
      (source.lineText number).getLast? ≠ some '\r' := by
  have shown : source.lineText number = row.rdropWhile (· == '\r') := by
    rw [lineText, if_neg (by omega), Int.toNat_natCast, present]
    rfl
  rw [shown]
  constructor
  · refine ⟨(row.rtakeWhile (· == '\r')).length, ?_⟩
    have returns : row.rtakeWhile (· == '\r') =
        List.replicate (row.rtakeWhile (· == '\r')).length '\r' := by
      apply List.eq_replicate_of_mem
      intro character member
      have returned := List.mem_rtakeWhile_imp member
      exact beq_iff_eq.mp returned
    rw [← returns, List.rdropWhile_append_rtakeWhile]
  · intro last
    rcases List.getLast?_eq_some_iff.mp last with ⟨front, ends⟩
    have nonempty : row.rdropWhile (· == '\r') ≠ [] := by
      rw [ends]
      exact List.append_ne_nil_of_right_ne_nil front (List.cons_ne_nil _ _)
    apply List.rdropWhile_last_not _ row nonempty
    simp only [ends, List.getLast_append_singleton, beq_self_eq_true]

/--
What surrounds a place between two line feeds is the row of its line and some carriage returns.
-/
theorem exists_lineText_append
    (source : Source)
    (index : Nat) :
    ∃ count,
      lastLine (source.text.take index) ++ (source.text.drop index).takeWhile (· != '\n') =
        source.lineText (source.lineAt (source.offsetOf index)) ++ List.replicate count '\r' := by
  have surrounds := splitOn_getElem?_count (source.text.take index) (source.text.drop index)
  rw [List.take_append_drop, ← Nat.add_sub_cancel (n := (source.text.take index).count '\n'),
    ← lineAt_offsetOf] at surrounds
  exact (lineText_append_replicate (Nat.succ_pos _) surrounds).1

theorem lineFeed_notMem_lineText
    (source : Source)
    (index : Nat) :
    '\n' ∉ source.lineText (source.lineAt (source.offsetOf index)) := by
  rcases source.exists_lineText_append index with ⟨count, surrounds⟩
  intro member
  have within := List.mem_append_left (List.replicate count '\r') member
  rw [← surrounds, List.mem_append] at within
  rcases within with before | after
  · simpa using List.mem_rtakeWhile_imp before
  · simpa using List.mem_takeWhile_imp after

/-- As far as the row of a line reaches, it shows what stands in the source. -/
theorem drop_lineText
    {index : Nat}
    (inside :
      source.columnAt (source.offsetOf index) ≤
        (source.lineText (source.lineAt (source.offsetOf index))).length) :
    (source.lineText (source.lineAt (source.offsetOf index))).drop
        (source.columnAt (source.offsetOf index) - 1) <+:
      source.text.drop index := by
  rcases source.exists_lineText_append index with ⟨count, surrounds⟩
  rw [columnAt_offsetOf] at inside ⊢
  have after := congrArg (List.drop (lastLine (source.text.take index)).length) surrounds
  rw [List.drop_left, List.drop_append_of_le_length (by omega)] at after
  have shown : _ <+: (source.text.drop index).takeWhile (· != '\n') := ⟨_, after.symm⟩
  apply shown.trans
  exact List.takeWhile_prefix _

/-- Behind the row of a line there are carriage returns up to the line feed. -/
theorem eq_of_lineText_length_lt
    {index : Nat} {character : Char}
    (present : (source.text.drop index).head? = some character)
    (beyond :
      (source.lineText (source.lineAt (source.offsetOf index))).length <
        source.columnAt (source.offsetOf index)) :
    character = '\n' ∨ character = '\r' := by
  rcases source.exists_lineText_append index with ⟨count, surrounds⟩
  rw [columnAt_offsetOf] at beyond
  by_cases feed : character = '\n'
  · left
    exact feed
  · right
    have after := congrArg (List.drop (lastLine (source.text.take index)).length) surrounds
    have unshown :
        (source.lineText (source.lineAt (source.offsetOf index))).drop
          (lastLine (source.text.take index)).length = [] :=
      List.drop_eq_nil_of_le (by omega)
    rcases List.head?_eq_some_iff.mp present with ⟨rest, onwards⟩
    rw [List.drop_left, List.drop_append, unshown, List.nil_append, onwards,
      List.takeWhile_cons_of_pos (by simpa using feed)] at after
    have returned : character ∈ List.replicate count '\r' := by
      apply List.mem_of_mem_drop
      rw [← after]
      exact List.mem_cons_self
    exact List.eq_of_mem_replicate returned

end Source

/--
The line and the column of a character boundary identify it: of two boundaries the earlier one has
the smaller line, or the smaller column on the same line.  The end of a source has the number of its
last line.  Every character but a line feed is found, by the line and the column of its offset,
among the lines that the text is cut into, and the text of this line is the line without the
carriage returns at its end.
-/
theorem positions_identify_places (source : Source) :
    (∀ first second,
      source.IsBoundary first →
        source.IsBoundary second →
          first < second →
            (source.positionAt first).Precedes (source.positionAt second)) ∧
      source.lineAt source.size = source.lines.length ∧
      ∀ index character,
        source.text[index]? = some character →
          character ≠ '\n' →
            let place := source.positionAt (source.offsetOf index)
            ∃ row,
              source.lines[place.line - 1]? = some row ∧
                row[place.column - 1]? = some character ∧
                (∃ count, row = source.lineText place.line ++ List.replicate count '\r') ∧
                (source.lineText place.line).getLast? ≠ some '\r' := by
  refine ⟨?_, source.lineAt_size, ?_⟩
  · rintro first second ⟨start, _, rfl⟩ ⟨stop, within, rfl⟩ ordered
    apply Source.positionAt_precedes _ within
    apply Nat.lt_of_not_le
    intro backwards
    exact Nat.not_le_of_lt ordered (Source.offsetOf_le backwards)
  · intro index character present unbroken place
    rcases Source.lines_getElem?_lineAt present unbroken with ⟨row, found, here⟩
    have shown := Source.lineText_append_replicate (Nat.succ_pos _) found
    exact ⟨row, found, here, shown⟩

/-- A carriage return and a line separator are characters of their lines. -/
example :
    (Source.ofString "é\r\n\u2028b").positionAt 7 = { line := 2, column := 2, offset := 7 } := by
  decide +kernel

end TokenForest.Text
