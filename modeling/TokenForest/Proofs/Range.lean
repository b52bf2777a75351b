import TokenForest.Proofs.Diagnostics
import TokenForest.Proofs.Lexer.Excerpt

/-!
# The range of a diagnostic

The diagnostic of an opener that is never closed starts where the opener starts, and goes on for as
many characters as the opener has, on the line of its start.  The span of the opener ends on the
line of its last character instead.  The range is the span, counted from zero, as long as no line
feed stands in the opener; behind a line feed the span ends on a later line than the range.
-/

namespace TokenForest

open Text (Source)

/-- The range of a diagnostic is a span, with its lines and columns counted from zero. -/
structure Diagnostic.Covers (diagnostic : Diagnostic) (span : Text.Span) : Prop where
  startLine : diagnostic.startLine + 1 = span.start.line
  startColumn : diagnostic.startColumn + 1 = span.start.column
  endLine : diagnostic.endLine + 1 = span.stop.line
  endColumn : diagnostic.endColumn + 1 = span.stop.column

/-! ## The end of a span -/

section Span

variable
    {source : Source} {token : Token} {kind : String} {start stop : Nat}

/-- A span goes on by as many lines as there are line feeds in the token. -/
theorem Token.stop_line_eq
    (ordered : start ≤ stop)
    (made : token = Token.between source kind start stop) :
    (token.span source).stop.line =
      (token.span source).start.line + token.lexeme.toList.count '\n' := by
  subst made
  show source.lineAt (source.offsetOf stop) = source.lineAt (source.offsetOf start) + _
  rw [Source.lineAt_offsetOf, Source.lineAt_offsetOf, Source.take_eq_append_between ordered,
    List.count_append, Token.between, String.toList_ofList]
  omega

/-- On one line, a span goes on by as many columns as there are characters in the token. -/
theorem Token.stop_column_eq
    (ordered : start ≤ stop)
    (made : token = Token.between source kind start stop)
    (unbroken : '\n' ∉ token.lexeme.toList) :
    (token.span source).stop.column =
      (token.span source).start.column + token.lexeme.length := by
  subst made
  rw [Token.between, String.toList_ofList] at unbroken
  show source.columnAt (source.offsetOf stop) = source.columnAt (source.offsetOf start) + _
  rw [Source.columnAt_offsetOf, Source.columnAt_offsetOf, Source.take_eq_append_between ordered,
    Text.lastLine_append_of_notMem unbroken, List.length_append, Token.between,
    String.length_ofList]
  omega

end Span

/-! ## The range of an opener -/

theorem exists_opener_of_forest
    {source : Source} {config : Config} {error : Unbalanced Token}
    (failed : forest source config = .error (.reported (.unbalanced error))) :
    ∃ kind start stop,
      start ≤ stop ∧ error.opener = Token.between source kind start stop := by
  have boundary := Lexer.atBoundary_ofSource source config "<input>"
  rcases boundary.group_fails failed with ⟨refused, scanned, -⟩ | ⟨unclosed, same, opened⟩
  · cases scanned
  · cases same
    rcases opened with ⟨rules, kind, start, stop, lexes, opener⟩
    exact ⟨kind, start, stop, Nat.le_of_lt lexes.bounds.1, opener⟩

/-- The range of an opener is its span exactly if the opener does not cross the end of a line. -/
theorem GroupError.ShownBy.covers_iff
    {source : Source} {config : Config} {error : Unbalanced Token} {diagnostic : Diagnostic}
    (failed : forest source config = .error (.reported (.unbalanced error)))
    (shown : (GroupError.unbalanced error).ShownBy source diagnostic) :
    diagnostic.Covers (error.opener.span source) ↔ '\n' ∉ error.opener.lexeme.toList := by
  rcases exists_opener_of_forest failed with ⟨kind, start, stop, ordered, made⟩
  have lines := Token.stop_line_eq ordered made
  have startLine : diagnostic.startLine + 1 = (error.opener.span source).start.line := shown.line
  have startColumn : diagnostic.startColumn + 1 = (error.opener.span source).start.column :=
    shown.column
  have endColumn : diagnostic.endColumn = diagnostic.startColumn + error.opener.lexeme.length :=
    shown.endColumn
  constructor
  · intro covers broken
    have feeds := List.count_pos_iff.mpr broken
    have endLine := covers.endLine
    rw [shown.endLine] at endLine
    omega
  · intro unbroken
    have columns := Token.stop_column_eq ordered made unbroken
    rw [List.count_eq_zero.mpr unbroken] at lines
    refine ⟨startLine, startColumn, ?_, ?_⟩
    · rw [shown.endLine, lines]
      exact startLine
    · omega

namespace Editor

/--
Where grouping a document fails because of an opener, what is published is one diagnostic.  It
starts where the span of the opener starts, and ends on the same line, behind as many characters as
the opener has.  This is where the span ends, too, exactly if there is no line feed in the opener;
the span goes on for one line with each of them.
-/
theorem published_range_is_span_on_one_line
    [Text.CharacterNames]
    {history : List EditorEvent} {event : EditorEvent} {document : Document} {text : String}
    {given : Option Config} {config : Config} {error : Unbalanced Token}
    (files : FileTree)
    (checks : event.Checks history document text given)
    (inForce : document.InForce (session files history).files given config)
    (failed : forest (Source.ofString text) config = .error (.reported (.unbalanced error))) :
    let span := error.opener.span (Source.ofString text)
    ∃ diagnostic,
      ((session files history).perform event).1.published =
          (session files history).published ++
            [{ uri := document.uri, diagnostics := [diagnostic] }] ∧
        ((session files history).perform event).2 = none ∧
        diagnostic.startLine + 1 = span.start.line ∧
        diagnostic.startColumn + 1 = span.start.column ∧
        diagnostic.endLine = diagnostic.startLine ∧
        diagnostic.endColumn = diagnostic.startColumn + error.opener.lexeme.length ∧
        span.stop.line = span.start.line + error.opener.lexeme.toList.count '\n' ∧
        (diagnostic.Covers span ↔ '\n' ∉ error.opener.lexeme.toList) := by
  intro span
  rcases publishes_diagnoses checks inForce with ⟨diagnostics, published, noFault, diagnoses⟩
  cases diagnoses with
  | clean grouped =>
      rw [failed] at grouped
      cases grouped
  | faulty failedAlso shown =>
      rw [failed] at failedAlso
      cases failedAlso
      rcases exists_opener_of_forest failed with ⟨kind, start, stop, ordered, made⟩
      exact ⟨_, published, noFault, shown.line, shown.column, shown.endLine, shown.endColumn,
        Token.stop_line_eq ordered made, shown.covers_iff failed⟩

/-- A configuration whose openers are two quotation marks, of two bytes each. -/
def quoteConfig : Config :=
  { Config.standard with
    pairs := [{ kind := "quote", opener := "««", closer := "»»" }]
    patterns := [
      { kind := "quote"
        pattern :=
          let mark : Pattern.Node := .set false false false [.range '«'.toNat '«'.toNat]
          { written := "««", mode := {}, node := .seq mark mark } }] }

/-- The error about such an opener, behind a character of two bytes. -/
def quoteError : Unbalanced Token where
  opener := { kind := "quote", lexeme := "««", line := 1, start := 3, stop := 7 }
  expected := "»»"

open scoped Text.CharacterNames

theorem published_range_is_span_on_one_line_quote :
    let source := Source.ofString "é ««+"
    let before := session {} [.opened draft "é ««+"]
    forest source quoteConfig = .error (.reported (.unbalanced quoteError)) ∧
      ∃ diagnostic,
        (before.perform (.checked draft (some quoteConfig))).1.published =
            before.published ++ [{ uri := "untitled:draft", diagnostics := [diagnostic] }] ∧
          diagnostic.Covers (quoteError.opener.span source) ∧
          diagnostic.startColumn + 1 = 3 ∧
          diagnostic.endColumn = diagnostic.startColumn + 2 := by
  intro source before
  have checks : (EditorEvent.checked draft (some quoteConfig)).Checks
      [.opened draft "é ««+"] draft "é ««+" (some quoteConfig) := .checked draft _ rfl
  have failed : forest (Source.ofString "é ««+") quoteConfig =
      .error (.reported (.unbalanced quoteError)) := by
    show forest { text := "é ««+".toList } quoteConfig = _
    with_unfolding_all rfl
  have third : (quoteError.opener.span source).start.column = 3 := by
    decide +kernel
  rcases published_range_is_span_on_one_line {} checks (.given quoteConfig) failed with
    ⟨diagnostic, published, _, _, startColumn, _, endColumn, _, covers⟩
  exact ⟨failed, diagnostic, published, covers.mpr (by decide), startColumn.trans third, endColumn⟩

/--
The range of an opener that crosses the end of a line does not: it ends a line before the span.
-/
theorem published_range_ends_before_span :
    let source := Source.ofString "+é\r\nà do\n+"
    let before := session {} [.opened draft "+é\r\nà do\n+"]
    ∃ error diagnostic,
      forest source blockConfig = .error (.reported (.unbalanced error)) ∧
        (before.perform (.checked draft (some blockConfig))).1.published =
          before.published ++ [{ uri := "untitled:draft", diagnostics := [diagnostic] }] ∧
        diagnostic.endLine + 1 = 2 ∧
        (error.opener.span source).stop.line = 3 ∧
        ¬diagnostic.Covers (error.opener.span source) := by
  intro source before
  have checks : (EditorEvent.checked draft (some blockConfig)).Checks
      [.opened draft "+é\r\nà do\n+"] draft "+é\r\nà do\n+" (some blockConfig) :=
    .checked draft _ rfl
  have inForce : draft.InForce (session {} [.opened draft "+é\r\nà do\n+"]).files
      (some blockConfig) blockConfig := .given blockConfig
  rcases publishes_diagnoses checks inForce with ⟨diagnostics, published, _, diagnoses⟩
  have failed : forest (Source.ofString "+é\r\nà do\n+") blockConfig =
      .error (.reported blockError) := by
    show forest { text := "+é\r\nà do\n+".toList } blockConfig = _
    with_unfolding_all rfl
  cases diagnoses with
  | clean grouped =>
      rw [failed] at grouped
      cases grouped
  | faulty failedAlso shown =>
      rw [failed] at failedAlso
      cases failedAlso
      have second : (blockError.position source).line = 2 := by
        decide +kernel
      refine ⟨_, _, failed, published, ?_, ?_, ?_⟩
      · rw [shown.endLine]
        exact shown.line.trans second
      · decide +kernel
      · rw [shown.covers_iff failed]
        decide

end Editor

end TokenForest
