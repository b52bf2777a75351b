import TokenForest.Proofs.Lexer.Offender
import TokenForest.Proofs.Text.Lines
import TokenForest.Proofs.Text.Quoting

/-!
# Excerpts

The text of an error has five rows.  The fourth shows the line of the error and the fifth holds its
carets; both begin with a gutter of the same width.  The place of an error is found on the side of
the bytes, the row that is shown is cut from the characters, and lacks the carriage returns at its
end.  Still the carets stand under the characters that the error is about, as far as these are shown
on the line.
-/

namespace TokenForest

open Text (Source)

/-- A row of blanks. -/
def blanks (count : Nat) : String := String.ofList (List.replicate count ' ')

/-- A row of carets. -/
def carets (count : Nat) : String := String.ofList (List.replicate count '^')

theorem length_blanks (count : Nat) : (blanks count).length = count := by
  rw [blanks, String.length_ofList, List.length_replicate]

/-- The two gutters are equally wide. -/
theorem length_margin (number : String) :
    (blanks (number.length + 1) ++ "| ").length = (number ++ " | ").length := by
  rw [String.length_append, String.length_append, length_blanks, Nat.add_assoc]
  rfl

theorem idxOf_carets
    {before : String} {count : Nat}
    (absent : '^' ∉ before.toList)
    (positive : 0 < count) :
    (before ++ carets count).toList.idxOf '^' = before.length := by
  rcases Nat.exists_eq_add_of_lt positive with ⟨rest, rfl⟩
  rw [String.toList_append, carets, String.toList_ofList, List.idxOf_append, if_neg absent,
    List.replicate_succ, List.idxOf_cons_self, Nat.zero_add, String.length_toList]

/-- Rows without line feeds are separated by one line feed fewer than there are rows. -/
theorem count_lineFeed_intercalate
    {rows : List String}
    (nonempty : rows ≠ [])
    (unbroken : ∀ row ∈ rows, '\n' ∉ row.toList) :
    ("\n".intercalate rows).toList.count '\n' + 1 = rows.length := by
  have pieces :
      (['\n'].intercalate (rows.map String.toList)).splitOn '\n' = rows.map String.toList :=
    List.splitOn_intercalate '\n' (by simpa using unbroken) (by simpa using nonempty)
  rw [String.toList_intercalate, ← Text.length_splitOn]
  exact (congrArg List.length pieces).trans (List.length_map _)

namespace Excerpt

/-- The rows about a place: the header, a pointer, an empty row, the line, and some carets. -/
def rows
    (message : String)
    (place : Text.Position)
    (shown : List Char)
    (count : Nat)
    (name : String) :
    List String :=
  let number := toString place.line
  let margin := blanks (number.length + 1)
  [ "error: " ++ message,
    margin ++ "--> " ++ name ++ ":" ++ number ++ ":" ++ toString place.column,
    margin ++ "|",
    number ++ " | " ++ String.ofList shown,
    margin ++ "| " ++ blanks (place.column - 1) ++ carets count]

theorem lineFeed_notMem_rows
    {message name : String} {shown : List Char}
    (headed : '\n' ∉ message.toList)
    (named : '\n' ∉ name.toList)
    (unbroken : '\n' ∉ shown)
    (place : Text.Position)
    (count : Nat) :
    ∀ row ∈ rows message place shown count name, '\n' ∉ row.toList := by
  have line := Text.lineFeed_notMem_toDigits place.line
  have column := Text.lineFeed_notMem_toDigits place.column
  simp [rows, blanks, carets, headed, named, unbroken, line, column]

theorem render_eq
    (message : String)
    (place : Text.Position)
    (width : Nat)
    (source : Source)
    (name : String) :
    let shown := source.lineText place.line
    ({ message, line := place.line, column := place.column, width } : Excerpt).render source name =
      "\n".intercalate
        (rows message place shown (max 1 (min width (shown.length + 1 - place.column))) name) := by
  intro shown
  have count :
      (max 1 (min (width : Int) (shown.length - (place.column : Int) + 1))).toNat =
        max 1 (min width (shown.length + 1 - place.column)) := by
    omega
  have pad : ((place.column : Int) - 1).toNat = place.column - 1 := by
    omega
  have number : toString (place.line : Int) = toString place.line := rfl
  have bar : "|\n" = "|" ++ "\n" := rfl
  unfold render rows
  simp only [number, pad, count, shown]
  rw [bar]
  simp only [String.intercalate_cons_cons, String.intercalate_singleton, String.append_assoc]
  rfl

end Excerpt

namespace GroupError

variable (error : GroupError)

/-- One caret for each character of the offender that is shown on the line, but at least one. -/
def caretCount (source : Source) : Nat :=
  let place := error.position source
  max 1 (min error.offender.length ((source.lineText place.line).length + 1 - place.column))

theorem caretCount_pos (source : Source) : 0 < error.caretCount source :=
  Nat.le_max_left _ _

theorem render_eq
    (source : Source)
    (name : String) :
    let place := error.position source
    error.render source name =
      "\n".intercalate
        (Excerpt.rows error.message place (source.lineText place.line) (error.caretCount source)
          name) := by
  cases error with
  | scan error =>
      exact Excerpt.render_eq _ _ _ _ _
  | unbalanced error =>
      rw [caretCount, offender, String.length_toList]
      exact Excerpt.render_eq _ _ _ _ _

theorem lineFeed_notMem_message : '\n' ∉ error.message.toList := by
  have quoted (text : String) : '\n' ∉ (Text.Quoted.ofString text).toList :=
    Text.Quoted.lineFeed_notMem_ofCodePoints _
  cases error with
  | scan error =>
      have shown : '\n' ∉ (Text.Quoted.ofChar error.character).toList :=
        Text.Quoted.lineFeed_notMem_ofCodePoints _
      unfold message ScanError.message
      simp [shown]
  | unbalanced error =>
      unfold message Unbalanced.message
      simp [quoted]

namespace PointsTo

variable
    {error}
    {source : Source}
    {index : Nat}

theorem length_offender_pos
    (points : error.PointsTo source index) :
    0 < error.offender.length :=
  List.length_pos_iff.mpr points.offender_ne_nil

/-- A name without line feeds leaves the rows of the text as they are. -/
theorem count_lineFeed_render
    {name : String}
    (points : error.PointsTo source index)
    (named : '\n' ∉ name.toList) :
    (error.render source name).toList.count '\n' = 4 := by
  have unbroken := source.lineFeed_notMem_lineText index
  have here : (error.position source).line = source.lineAt (source.offsetOf index) :=
    congrArg Text.Position.line points.position_eq
  rw [← here] at unbroken
  have rows := count_lineFeed_intercalate (List.cons_ne_nil _ _)
    (Excerpt.lineFeed_notMem_rows error.lineFeed_notMem_message named unbroken
      (error.position source) (error.caretCount source))
  rw [error.render_eq source name]
  exact Nat.succ.inj rows

/-- Where the line reaches to the error, the carets stand under the beginning of the offender. -/
theorem take_drop_lineText
    (points : error.PointsTo source index)
    {count : Nat}
    (few : count ≤ error.offender.length) :
    let place := error.position source
    place.column ≤ (source.lineText place.line).length →
      ((source.lineText place.line).drop (place.column - 1)).take count <+: error.offender := by
  intro place inside
  have here : place = source.positionAt (source.offsetOf index) := points.position_eq
  rw [here] at inside ⊢
  apply List.prefix_of_prefix_length_le _ points.stands
  · exact Nat.le_trans (List.length_take_le _ _) few
  · apply List.IsPrefix.trans _ (Source.drop_lineText inside)
    exact List.take_prefix _ _

/-- Where the line does not reach to the error, this is about what ends the line. -/
theorem head?_offender
    (points : error.PointsTo source index) :
    let place := error.position source
    (source.lineText place.line).length < place.column →
      error.offender.head? = some '\n' ∨ error.offender.head? = some '\r' := by
  intro place beyond
  have here : place = source.positionAt (source.offsetOf index) := points.position_eq
  rw [here] at beyond
  rcases List.exists_cons_of_ne_nil points.offender_ne_nil with ⟨character, rest, begins⟩
  have stands := points.stands
  rw [begins] at stands ⊢
  rcases stands with ⟨after, onwards⟩
  have present : (source.text.drop index).head? = some character := by
    rw [← onwards]
    rfl
  rcases Source.eq_of_lineText_length_lt present beyond with rfl | rfl
  · left
    rfl
  · right
    rfl

end PointsTo

end GroupError

/--
An error of scanning or grouping, wherever in a session it comes up, is shown in five rows: a
header, a pointer to its place, an empty row, the line, and the carets.  Only a name with line feeds
would add to the four that separate these.  The line and the carets stand behind gutters of equal
width, the first caret under the column of the error.  If the line reaches to this column, there are
as many carets as the line shows characters of the offender, and the characters above them are the
first of the offender.  If not, the offender begins with the line feed or with a carriage return
that the line does not show, and there is one caret.
-/
theorem excerpts_point_at_offender
    [Text.CharacterNames]
    (source : Source)
    (config : Config)
    (filename name : String)
    (error : GroupError)
    (raised : error.Raised source config filename) :
    let place := error.position source
    let shown := source.lineText place.line
    let number := toString place.line
    let gutter := number ++ " | "
    let margin := blanks (number.length + 1) ++ "| "
    ∃ index count,
      error.PointsTo source index ∧
        let above := gutter ++ String.ofList shown
        let below := margin ++ blanks (place.column - 1) ++ carets count
        error.render source name =
            "\n".intercalate [
              "error: " ++ error.message,
              blanks (number.length + 1) ++ "--> " ++ name ++ ":" ++ number ++ ":" ++
                toString place.column,
              blanks (number.length + 1) ++ "|",
              above,
              below] ∧
          ('\n' ∉ name.toList → (error.render source name).toList.count '\n' = 4) ∧
          margin.length = gutter.length ∧
          below.toList.idxOf '^' = gutter.length + (place.column - 1) ∧
          above.toList.drop (below.toList.idxOf '^') = shown.drop (place.column - 1) ∧
          (place.column ≤ shown.length →
            count = min error.offender.length (shown.length - place.column + 1) ∧
              (shown.drop (place.column - 1)).take count <+: error.offender) ∧
          (shown.length < place.column →
            count = 1 ∧ (error.offender.head? = some '\n' ∨ error.offender.head? = some '\r')) := by
  intro place shown number gutter margin
  rcases raised.exists_pointsTo with ⟨index, points⟩
  refine ⟨index, error.caretCount source, points, ?_⟩
  intro above below
  have width : margin.length = gutter.length := length_margin number
  have unmarked : '^' ∉ (margin ++ blanks (place.column - 1)).toList := by
    simp [margin, blanks]
  have first : below.toList.idxOf '^' = gutter.length + (place.column - 1) := by
    have before := idxOf_carets unmarked (error.caretCount_pos source)
    rwa [String.length_append, length_blanks, width] at before
  refine ⟨error.render_eq source name, points.count_lineFeed_render, width, first, ?_, ?_, ?_⟩
  · rw [first, String.toList_append, String.toList_ofList, ← String.length_toList,
      List.drop_append]
    simp
  · intro inside
    have nonempty := points.length_offender_pos
    have fits : error.caretCount source =
        min error.offender.length (shown.length - place.column + 1) := by
      show max 1 (min error.offender.length (shown.length + 1 - place.column)) = _
      omega
    refine ⟨fits, points.take_drop_lineText ?_ inside⟩
    rw [fits]
    exact Nat.min_le_left _ _
  · intro beyond
    refine ⟨?_, points.head?_offender beyond⟩
    show max 1 (min error.offender.length (shown.length + 1 - place.column)) = 1
    omega

/-- A rule for an opener of two letters and a line feed. -/
def blockRule : PatternRule where
  kind := "block"
  pattern :=
    let letter (character : Char) : Pattern.Node :=
      .set false false false [.range character.toNat character.toNat]
    { written := "do\n"
      mode := {}
      node := .seq (letter 'd') (.seq (letter 'o') (letter '\n')) }

/-- A configuration with this rule, whose tokens open groups. -/
def blockConfig : Config :=
  { Config.standard with
    pairs := [{ kind := "block", opener := "do\n", closer := "end" }]
    patterns := [blockRule] }

/-- A source with such an opener, which crosses the end of its second line. -/
def blockSource : Source :=
  { text := "+é\r\nà do\n+".toList }

/-- The error about this opener. -/
def blockError : GroupError :=
  .unbalanced {
    opener := { kind := "block", lexeme := "do\n", line := 2, start := 8, stop := 11 }
    expected := "end" }

open scoped Text.CharacterNames

theorem excerpts_point_at_offender_block :
    blockError.Raised blockSource blockConfig "<input>" ∧
      blockError.position blockSource = { line := 2, column := 3, offset := 8 } ∧
      ∃ count,
        blockError.render blockSource "input" =
            "\n".intercalate [
              "error: " ++ blockError.message,
              "  --> input:2:3",
              "  |",
              "2 | à do",
              "  |   " ++ carets count] ∧
          (blockError.render blockSource "input").toList.count '\n' = 4 ∧
          count = 2 ∧
          ['d', 'o'] <+: blockError.offender := by
  have failed :
      ((session blockSource blockConfig "<input>" [.next]).lexer.respond .group).fault? =
        some (.reported blockError) := by
    with_unfolding_all rfl
  have raised : blockError.Raised blockSource blockConfig "<input>" := .answered failed
  have place : blockError.position blockSource = { line := 2, column := 3, offset := 8 } := by
    decide +kernel
  have shown : blockSource.lineText (2 : Nat) = "à do".toList := by
    decide +kernel
  rcases excerpts_point_at_offender blockSource blockConfig "<input>" "input" blockError raised with
    ⟨_, count, _, rendered, separated, _, _, _, inside, _⟩
  simp only [place, shown] at rendered inside
  rcases inside (by decide) with ⟨two, starts⟩
  refine ⟨raised, place, count, rendered, separated (by decide), two, ?_⟩
  rw [two] at starts
  exact starts

end TokenForest
