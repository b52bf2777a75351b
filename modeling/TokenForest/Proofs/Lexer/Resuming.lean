import TokenForest.Proofs.Lexer.Extension
import TokenForest.Proofs.Lexer.Offender
import TokenForest.Proofs.Lexer.Registry

/-!
# Going on after a strict error

Under strict rules a lexer stops before a character that nothing recognizes.  There it is stuck:
whatever a caller does next, it moves neither the cursor nor anything else, except that rules and
pairs may be added.  As long as no added rule matches from the character on, every attempt to draw
fails with the same error.  The first added rule that matches makes a token that begins with the
character.
-/

namespace TokenForest

open Text (Source)

variable {State Failure : Type}

/-- The error about the character at an index. -/
def ScanError.about (source : Source) (index : Nat) (character : Char) : ScanError where
  character := character
  position := source.positionAt (source.offsetOf index)

theorem ScanRules.Unrecognized.extended
    {rules : ScanRules} {text : List Char} {index : Nat} {character : Char}
    {added : List PatternRule}
    (unrecognized : rules.Unrecognized text index character)
    (silent : NoMatch added text index)
    (strict : Bool) :
    (rules.extended added strict).Unrecognized text index character where
  kept := unrecognized.kept
  plain := unrecognized.plain
  unmatched := by
    intro rule member
    rcases List.mem_append.mp member with old | new
    · exact unrecognized.unmatched rule old
    · exact silent rule new

namespace Lexer

variable
    {lexer : Lexer}
    {index : Nat}
    {character : Char}

theorem performAll_append
    [Text.CharacterNames]
    (lexer : Lexer)
    (first second : List Operation) :
    lexer.performAll (first ++ second) = (lexer.performAll first).performAll second :=
  List.foldl_append

/-! ## Lexers that are stuck -/

/-- A lexer that keeps no forest and stands before a character that its strict rules stop at. -/
structure Stuck (lexer : Lexer) (index : Nat) (character : Char) : Prop where
  cursor_eq : lexer.cursor = Cursor.ofIndex lexer.source index
  present : lexer.source.text[index]? = some character
  unrecognized : lexer.rules.Unrecognized lexer.source.text index character
  strict : lexer.rules.strict = true
  absent : lexer.forest = none

/-- Every attempt to draw from the lexer fails at once with an error. -/
structure Refuses (lexer : Lexer) (error : ScanError) : Prop where
  next : lexer.next.result = .error (.reported error)
  take :
    ∀ count,
      (lexer.take (count + 1)).result = { tokens := [], fault := some (.reported error) }
  tokens : lexer.tokens.result = { tokens := [], fault := some (.reported error) }
  group : lexer.group.result = .error (.reported (.scan error))

namespace Stuck

theorem boundary
    (stuck : lexer.Stuck index character) :
    lexer.AtBoundary where
  index_le := by
    rw [stuck.cursor_eq]
    exact Nat.le_of_lt (List.getElem?_eq_some_iff.mp stuck.present).1
  offset_eq := by
    rw [stuck.cursor_eq]
    rfl

theorem index_eq
    (stuck : lexer.Stuck index character) :
    lexer.cursor.index = index := by
  rw [stuck.cursor_eq]
  rfl

theorem atIndex_eq
    (stuck : lexer.Stuck index character) :
    lexer.atIndex index = lexer := by
  rw [← stuck.index_eq, stuck.boundary.atIndex_eq]

/-- The error about the character. -/
theorem next_eq
    (stuck : lexer.Stuck index character) :
    lexer.next =
      { result := .error (.reported (.about lexer.source index character))
        trace := []
        lexer } := by
  have walks :
      lexer.rules.Walks lexer.source lexer.cursor.index [] (.unrecognized character index) := by
    rw [stuck.index_eq]
    exact .stops stuck.present stuck.unrecognized stuck.strict
  rw [stuck.boundary.next_eq walks, Ending.place, stuck.atIndex_eq]
  rfl

theorem take_eq
    (stuck : lexer.Stuck index character)
    (count : Nat) :
    lexer.take (count + 1) =
      { result :=
          { tokens := []
            fault := some (.reported (.about lexer.source index character)) }
        trace := []
        lexer } := by
  rw [take, stuck.next_eq]

theorem take_lexer
    (stuck : lexer.Stuck index character)
    (count : Nat) :
    (lexer.take count).lexer = lexer := by
  cases count with
  | zero =>
      rfl
  | succ count =>
      rw [stuck.take_eq]

theorem group_result
    (stuck : lexer.Stuck index character) :
    lexer.group.result = .error (.reported (.scan (.about lexer.source index character))) := by
  simp only [group, stuck.absent, groupInto, stuck.next_eq]
  rfl

theorem group_lexer
    (stuck : lexer.Stuck index character) :
    lexer.group.lexer = lexer :=
  (stuck.boundary.undone stuck.group_result).2.2

theorem refuses
    (stuck : lexer.Stuck index character) :
    lexer.Refuses (.about lexer.source index character) where
  next := congrArg Step.result stuck.next_eq
  take count := congrArg Step.result (stuck.take_eq count)
  tokens := congrArg Step.result (stuck.take_eq lexer.remaining)
  group := stuck.group_result

theorem evaluate_lexer
    (stuck : lexer.Stuck index character)
    (standing given : Option (Candidate State Failure))
    (state : State) :
    (lexer.evaluate standing given state).lexer = lexer := by
  have ends := lexer.evaluates standing given state
  generalize lexer.evaluate standing given state = evaluation at ends ⊢
  cases ends with
  | missing absent =>
      rfl
  | ungrouped offered failed =>
      exact stuck.group_lexer
  | unusable offered grouped unresolved =>
      rw [stuck.group_result] at grouped
      cases grouped
  | evaluated offered grouped resolved =>
      rw [stuck.group_result] at grouped
      cases grouped

theorem evaluateTokens_lexer
    (stuck : lexer.Stuck index character)
    (candidate : Candidate State Failure)
    (state : State) :
    (lexer.evaluateTokens candidate state).lexer = lexer := by
  rw [evaluateTokens]
  cases candidate.resolve with
  | error error =>
      rfl
  | ok handler =>
      simp only [evaluateDrawn, stuck.next_eq]

/--
Whatever a caller does, a lexer that is stuck is left with nothing new but what the caller adds.
-/
theorem perform_eq
    [Text.CharacterNames]
    (stuck : lexer.Stuck index character)
    (operation : Operation) :
    (lexer.perform operation).lexer =
      lexer.extended operation.rulesAdded operation.pairsAdded := by
  cases operation with
  | addPattern rule =>
      rw [perform_addPattern]
      rfl
  | addPair pair =>
      rw [perform_addPair]
      rfl
  | next =>
      exact (congrArg Step.lexer stuck.next_eq).trans extended_nil.symm
  | take count =>
      exact (stuck.take_lexer count).trans extended_nil.symm
  | tokens =>
      exact (stuck.take_lexer _).trans extended_nil.symm
  | group =>
      exact stuck.group_lexer.trans extended_nil.symm
  | evaluate standing given state =>
      exact (stuck.evaluate_lexer standing given state).trans extended_nil.symm
  | dispatch candidate state =>
      exact (stuck.evaluateTokens_lexer candidate state).trans extended_nil.symm

/-- Rules that do not match from the character on leave a lexer stuck. -/
theorem extended
    {patterns : List PatternRule}
    (stuck : lexer.Stuck index character)
    (silent : NoMatch patterns lexer.source.text index)
    (pairs : List DelimiterPair) :
    (lexer.extended patterns pairs).Stuck index character where
  cursor_eq := stuck.cursor_eq
  present := stuck.present
  unrecognized := stuck.unrecognized.extended silent lexer.rules.strict
  strict := stuck.strict
  absent := stuck.absent

/-- So does whatever a caller does, while no rule is added that matches from the character on. -/
theorem performAll_eq
    [Text.CharacterNames]
    {operations : List Operation}
    (stuck : lexer.Stuck index character)
    (silent : NoMatch (rulesAdded operations) lexer.source.text index) :
    lexer.performAll operations =
      lexer.extended (rulesAdded operations) (pairsAdded operations) := by
  induction operations generalizing lexer with
  | nil =>
      exact extended_nil.symm
  | cons operation rest ih =>
      rw [rulesAdded_cons] at silent
      have now : NoMatch operation.rulesAdded lexer.source.text index :=
        fun rule member => silent rule (List.mem_append_left _ member)
      have later : NoMatch (rulesAdded rest) lexer.source.text index :=
        fun rule member => silent rule (List.mem_append_right _ member)
      rw [rulesAdded_cons, pairsAdded_cons, ← extended_extended,
        ← ih (stuck.extended now operation.pairsAdded) later, ← stuck.perform_eq operation]
      rfl

/-- The first added rule that matches from the character on makes the next token. -/
theorem next_extended
    {patterns : List PatternRule} {rule : PatternRule} {stop : Nat}
    (stuck : lexer.Stuck index character)
    (first : FirstMatch patterns lexer.source.text index rule stop)
    (pairs : List DelimiterPair) :
    (lexer.extended patterns pairs).next.result =
      .ok (some (Token.between lexer.source rule.kind index stop)) := by
  have boundary : (lexer.extended patterns pairs).AtBoundary := stuck.boundary.of_eq rfl rfl
  have lexes :=
    stuck.unrecognized.lexes_extended stuck.present first lexer.rules.strict
  have walks : (lexer.extended patterns pairs).rules.Walks lexer.source lexer.cursor.index []
      (.token rule.kind index stop) := by
    rw [stuck.index_eq]
    exact .lexes lexes
  rw [boundary.next_eq walks]
  rfl

end Stuck

/-! ## Where an error leaves a lexer -/

/--
Drawing stops with an error about the character at an index, and all before it is to be ignored.
-/
structure StopsAt (lexer : Lexer) (index : Nat) (error : ScanError) : Prop where
  present : lexer.source.text[index]? = some error.character
  position_eq : error.position = lexer.source.positionAt (lexer.source.offsetOf index)
  index_le : lexer.cursor.index ≤ index
  ignored :
    ∀ place,
      lexer.cursor.index ≤ place →
        place < index →
          ∃ character,
            lexer.source.text[place]? = some character ∧
              lexer.rules.ignore.contains character = true
  lexer_eq : lexer.next.lexer = lexer.atIndex index
  absent : lexer.forest = none

/-- A lexer that draws a token without success keeps no forest. -/
theorem KeepsAtEnd.forest_eq_none
    {error : Fault ScanError}
    (keeps : lexer.KeepsAtEnd)
    (failed : lexer.next.result = .error error) :
    lexer.forest = none := by
  cases kept : lexer.forest with
  | none =>
      rfl
  | some forest =>
      rw [(keeps forest kept).next_eq] at failed
      cases failed

/-- An error of drawing is about a character at some index, and there the lexer is stuck. -/
theorem AtBoundary.exists_stopsAt
    {error : ScanError}
    (boundary : lexer.AtBoundary)
    (keeps : lexer.KeepsAtEnd)
    (failed : lexer.next.result = .error (.reported error)) :
    ∃ index,
      lexer.StopsAt index error ∧
        error = .about lexer.source index error.character ∧
        (lexer.atIndex index).Stuck index error.character := by
  have absent := keeps.forest_eq_none failed
  rcases lexer.rules.exists_walks boundary.index_le with ⟨skips, ending, walks⟩
  have next_eq := boundary.next_eq walks
  rw [next_eq] at failed
  cases ending with
  | finished =>
      cases failed
  | token kind start stop =>
      cases failed
  | unrecognized character index =>
      cases failed
      have within := (List.getElem?_eq_some_iff.mp walks.present).1
      refine ⟨index, ?_, rfl, ?_⟩
      · constructor
        · exact walks.present
        · rfl
        · exact walks.bounds.1
        · intro place later before
          have present := List.getElem?_eq_getElem (Nat.lt_trans before within)
          refine ⟨_, present, ?_⟩
          cases walks.passes_of_lt_reach later before present with
          | ignored ignored =>
              exact ignored
          | lenient unrecognized lenient =>
              rw [walks.strict] at lenient
              cases lenient
        · rw [next_eq]
          rfl
        · exact absent
      · exact ⟨rfl, walks.present, walks.unrecognized, walks.strict, absent⟩

end Lexer

theorem keepsAtEnd_session
    [Text.CharacterNames]
    (source : Source)
    (config : Config)
    (filename : String)
    (operations : List Operation) :
    (session source config filename operations).lexer.KeepsAtEnd := by
  rw [lexer_session]
  apply (Lexer.atBoundary_ofSource source config filename).performAll_keepsAtEnd
  intro _ kept
  cases kept

/--
Whenever drawing the next token fails with an error about a character, in any state that a session
can reach, the cursor is left before this character and nothing else about the lexer has changed;
all characters that were passed on the way are to be ignored.  Whatever a caller tries then, if no
rule is accepted that matches some characters from there on, the lexer is the same but for the rules
and pairs that were accepted, and every attempt to draw or to group fails with the same error.  As
soon as accepted rules match there, the first of them makes the next token, which begins with the
character.
-/
theorem strict_error_stops_at_offender
    [Text.CharacterNames]
    (source : Source)
    (config : Config)
    (filename : String)
    (operations : List Operation)
    (error : ScanError)
    (failed :
      (session source config filename operations).lexer.next.result = .error (.reported error)) :
    let lexer := (session source config filename operations).lexer
    ∃ index,
      lexer.source = source ∧
        lexer.StopsAt index error ∧
        ∀ retries,
          NoMatch (rulesAdded retries) source.text index →
            let stopped := (session source config filename (operations ++ .next :: retries)).lexer
            stopped = (lexer.atIndex index).extended (rulesAdded retries) (pairsAdded retries) ∧
              stopped.Refuses error ∧
              ∀ rules pairs calls rule stop,
                Registers rules pairs calls →
                  FirstMatch (rulesAdded (retries ++ calls)) source.text index rule stop →
                    (session source config filename
                        (operations ++ .next :: (retries ++ calls))).lexer.next.result =
                      .ok (some (Token.between source rule.kind index stop)) := by
  intro lexer
  have sound := sound_session source config filename operations
  have source_eq : lexer.source = source := sound.source_eq
  have keeps := keepsAtEnd_session source config filename operations
  rcases sound.boundary.exists_stopsAt keeps failed with ⟨index, stops, about, stuck⟩
  have reached (later : List Operation) :
      (session source config filename (operations ++ .next :: later)).lexer =
        (lexer.atIndex index).performAll later := by
    rw [lexer_session, Lexer.performAll_append, ← lexer_session, ← stops.lexer_eq]
    rfl
  refine ⟨index, source_eq, stops, ?_⟩
  intro retries silent stopped
  rw [← source_eq] at silent
  have extended := stuck.performAll_eq silent
  have stays := stuck.extended silent (pairsAdded retries)
  refine ⟨(reached retries).trans extended, ?_, ?_⟩
  · show (session source config filename (operations ++ .next :: retries)).lexer.Refuses error
    rw [reached, extended, about]
    exact stays.refuses
  · intro rules pairs calls rule stop registers first
    rw [rulesAdded_append, registers.rulesAdded_eq, ← source_eq] at first
    rw [reached, Lexer.performAll_append, extended, registers.performAll_eq,
      Lexer.extended_extended, stuck.next_extended first]
    show Except.ok (some (Token.between lexer.source rule.kind index stop)) = _
    rw [source_eq]

/-- A source with a letter that nothing recognizes behind a token and blanks. -/
def halfReadSource : Source :=
  { text := "+  é7-".toList }

/-- The error about this letter. -/
def halfReadError : ScanError where
  character := 'é'
  position := { line := 1, column := 4, offset := 3 }

/-- Attempts to go on, with a rule that matches no character of the source. -/
def vainCalls : List Operation := [
  .tokens,
  .addPattern { kind := "blank", pattern := "x*" },
  .group]

/-- Calls that register two rules that match from the letter on, behind one that does not. -/
def lateCalls : List Operation := [
  .addPattern { kind := "num", pattern := "[0-9]+" },
  .addPattern { kind := "word", pattern := "é[0-9]" },
  .addPattern { kind := "letter", pattern := "é" }]

theorem lateCalls_register :
    Registers
      [ { kind := "num", pattern := "[0-9]+" },
        { kind := "word", pattern := "é[0-9]" },
        { kind := "letter", pattern := "é" }]
      []
      lateCalls :=
  .rule _ (.rule _ (.rule _ .nil))

open scoped Text.CharacterNames

theorem strict_error_stops_at_offender_half_read :
    let config := { Config.standard with strict := true }
    let lexer := (session halfReadSource config "<input>" [.next]).lexer
    lexer.next.result = .error (.reported halfReadError) ∧
      lexer.next.lexer = lexer.atIndex 3 ∧
      (session halfReadSource config "<input>" ([.next] ++ .next :: vainCalls)).lexer.Refuses
        halfReadError ∧
      (session halfReadSource config "<input>"
          ([.next] ++ .next :: (vainCalls ++ lateCalls))).lexer.next.result =
        .ok (some { kind := "word", lexeme := "é7", line := 1, start := 3, stop := 6 }) := by
  intro config lexer
  have failed : lexer.next.result = .error (.reported halfReadError) := by
    with_unfolding_all rfl
  rcases strict_error_stops_at_offender halfReadSource config "<input>" [.next] halfReadError failed
    with ⟨index, source_eq, stops, resumes⟩
  have here : 3 = index := by
    have offset : halfReadSource.offsetOf 3 = 3 := by decide +kernel
    have position := stops.position_eq
    rw [source_eq] at position
    exact Source.eq_of_offsetOf_eq (by decide +kernel)
      (offset.trans (congrArg Text.Position.offset position))
  subst here
  have within : 3 ≤ halfReadSource.text.length := by decide +kernel
  have silent : NoMatch (rulesAdded vainCalls) halfReadSource.text 3 :=
    (noMatch_iff_firstMatch? within).mpr (by decide +kernel)
  have matched : ScanRules.firstMatch? halfReadSource.text 3 (rulesAdded (vainCalls ++ lateCalls)) =
      some ("word", 5) := by
    decide +kernel
  rcases exists_firstMatch_of_firstMatch? within matched with ⟨rule, kind, first⟩
  rcases resumes vainCalls silent with ⟨_, refuses, next⟩
  refine ⟨failed, stops.lexer_eq, refuses, ?_⟩
  rw [next _ _ _ rule 5 lateCalls_register first, kind]
  with_unfolding_all rfl

end TokenForest
