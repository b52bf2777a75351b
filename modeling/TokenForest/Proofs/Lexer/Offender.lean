import TokenForest.Proofs.Lexer.Batch
import TokenForest.Proofs.Lexer.Finality

/-!
# What errors are about

Scanning fails because of a character, grouping because of an opener.  Either way the error is about
some characters of the source, the first of which is where the error says it is.  This holds of
every error that a caller can come upon: of those that a lexer reports in any state of a session,
and of those that grouping reports about any tokens that were made in a session.
-/

namespace TokenForest

open Text (Source)

variable {source : Source}

namespace GroupError

/-- The characters that an error is about: one that nothing recognizes, or those of an opener. -/
def offender : GroupError → List Char
  | .scan error => [error.character]
  | .unbalanced error => error.opener.lexeme.toList

/--
The offender stands in the source from an index on, and the error names the place of the index.
-/
structure PointsTo (error : GroupError) (source : Source) (index : Nat) : Prop where
  position_eq : error.position source = source.positionAt (source.offsetOf index)
  offender_ne_nil : error.offender ≠ []
  stands : error.offender <+: source.text.drop index

theorem pointsTo_scan
    {character : Char} {index : Nat}
    (present : source.text[index]? = some character) :
    PointsTo
      (.scan { character, position := source.positionAt (source.offsetOf index) })
      source
      index where
  position_eq := rfl
  offender_ne_nil := List.cons_ne_nil _ _
  stands := by
    rcases List.getElem?_eq_some_iff.mp present with ⟨within, rfl⟩
    rw [List.drop_eq_getElem_cons within]
    exact ⟨_, rfl⟩

theorem pointsTo_unbalanced
    {kind expected : String} {start stop : Nat}
    (nonempty : start < stop)
    (within : stop ≤ source.text.length) :
    PointsTo
      (.unbalanced { opener := Token.between source kind start stop, expected })
      source
      start where
  position_eq := rfl
  offender_ne_nil := by
    have characters : (source.between start stop).length = stop - start :=
      Source.length_between within
    rw [offender, Token.between, String.toList_ofList, ← List.length_pos_iff]
    omega
  stands := by
    rw [offender, Token.between, String.toList_ofList, Source.between, List.drop_take]
    exact List.take_prefix _ _

end GroupError

/-- If tokens of a source cannot be grouped, one of them is to blame. -/
theorem Roster.opener_of_groupFresh
    {pairs : Pairs} {tokens : List Token} {error : Unbalanced Token}
    (made :
      ∀ token ∈ tokens, ∃ rules kind start stop,
        ScanRules.Lexes rules source.text kind start stop ∧
          token = Token.between source kind start stop)
    (failed : groupFresh pairs tokens = .error (.reported error)) :
    ∃ rules kind start stop,
      ScanRules.Lexes rules source.text kind start stop ∧
        error.opener = Token.between source kind start stop := by
  have unvalued : ∀ token ∈ tokens, token.reduced = token := by
    intro token member
    rcases made token member with ⟨_, _, _, _, _, rfl⟩
    rfl
  rw [groupFresh_eq_group unvalued] at failed
  rcases group_ok_or_unclosed pairs tokens with ⟨forest, grouped⟩ | ⟨place, blamed, unclosed⟩
  · rw [grouped] at failed
    cases failed
  · rw [unclosed.group_eq] at failed
    cases failed
    exact made error.opener (List.mem_of_getElem? unclosed.present)

theorem GroupError.exists_pointsTo_of_opener
    {error : Unbalanced Token}
    (opened :
      ∃ rules kind start stop,
        ScanRules.Lexes rules source.text kind start stop ∧
          error.opener = Token.between source kind start stop) :
    ∃ index, (GroupError.unbalanced error).PointsTo source index := by
  rcases opened with ⟨rules, kind, start, stop, lexes, opener⟩
  rcases error with ⟨_, expected⟩
  cases opener
  exact ⟨start, GroupError.pointsTo_unbalanced lexes.bounds.1 lexes.bounds.2⟩

theorem Response.result_of_fault?
    {State Failure : Type}
    {result : Except (EvaluationError Failure) (List Value)} {state : State}
    {fault : Fault GroupError}
    (failed : (Response.values result state).fault? = some fault) :
    result = .error (.grouping fault) := by
  cases result with
  | ok values =>
      cases failed
  | error error =>
      cases error with
      | grouping fault =>
          cases failed
          rfl
      | _ =>
          cases failed

namespace Lexer

variable
    {lexer : Lexer}
    {State Failure : Type}

theorem AtBoundary.pointsTo_of_next
    {error : ScanError}
    (boundary : lexer.AtBoundary)
    (failed : lexer.next.result = .error (.reported error)) :
    ∃ index, (GroupError.scan error).PointsTo lexer.source index := by
  rcases lexer.rules.exists_walks boundary.index_le with ⟨skips, ending, walks⟩
  rw [boundary.next_eq walks] at failed
  cases ending with
  | finished =>
      cases failed
  | token kind start stop =>
      cases failed
  | unrecognized character index =>
      cases failed
      exact ⟨index, GroupError.pointsTo_scan walks.present⟩

theorem AtBoundary.pointsTo_of_take
    {count : Nat} {error : ScanError}
    (boundary : lexer.AtBoundary)
    (failed : (lexer.take count).result.fault = some (.reported error)) :
    ∃ index, (GroupError.scan error).PointsTo lexer.source index := by
  induction count generalizing lexer with
  | zero =>
      cases failed
  | succ count ih =>
      have nexts := boundary.nexts
      have points : lexer.next.result = .error (.reported error) → _ := boundary.pointsTo_of_next
      rw [take] at failed
      generalize lexer.next = step at nexts points failed
      cases nexts with
      | finished draws silent atEnd =>
          cases failed
      | token draws drawn onwards =>
          rw [← draws.source_eq]
          exact ih draws.atBoundary failed
      | refused draws silent =>
          cases failed
          exact points rfl

/-- Grouping fails because drawing the tokens fails, or because one of them is never closed. -/
theorem AtBoundary.group_fails
    {error : GroupError}
    (boundary : lexer.AtBoundary)
    (failed : lexer.group.result = .error (.reported error)) :
    (∃ refused,
        error = .scan refused ∧ lexer.tokens.result.fault = some (.reported refused)) ∨
      ∃ unclosed,
        error = .unbalanced unclosed ∧
          ∃ rules kind start stop,
            ScanRules.Lexes rules lexer.source.text kind start stop ∧
              unclosed.opener = Token.between lexer.source kind start stop := by
  have absent := (boundary.undone failed).1
  rw [boundary.group_result absent, Drawn.group] at failed
  cases drawn : lexer.tokens.result.fault with
  | some fault =>
      rw [drawn] at failed
      cases fault with
      | reported refused =>
          cases failed
          exact .inl ⟨refused, rfl, rfl⟩
      | broken breakdown =>
          cases failed
  | none =>
      rcases boundary.take_draws (lexer.remaining + 1) with ⟨draws, noted⟩
      rw [drawn, tokens, ← noted] at failed
      generalize (lexer.take (lexer.remaining + 1)).trace = trace at draws failed
      cases grouped : Roster.groupFresh lexer.pairs trace.tokens with
      | ok forest =>
          rw [grouped] at failed
          cases failed
      | error fault =>
          rw [grouped] at failed
          cases fault with
          | reported unclosed =>
              cases failed
              refine .inr ⟨unclosed, rfl, Roster.opener_of_groupFresh ?_ grouped⟩
              intro token member
              exact ⟨_, draws.lexes_of_mem member⟩
          | broken breakdown =>
              cases failed

theorem AtBoundary.pointsTo_of_group
    {error : GroupError}
    (boundary : lexer.AtBoundary)
    (failed : lexer.group.result = .error (.reported error)) :
    ∃ index, error.PointsTo lexer.source index := by
  rcases boundary.group_fails failed with ⟨refused, rfl, drawn⟩ | ⟨unclosed, rfl, opened⟩
  · exact boundary.pointsTo_of_take drawn
  · exact GroupError.exists_pointsTo_of_opener opened

/-- Evaluating tokens one by one ends with the fault of drawing them, unless the handler fails. -/
theorem fault_of_evaluateDrawn
    {count : Nat} {handler : Handler State Failure} {state : State} {fault : Fault GroupError}
    (failed : (lexer.evaluateDrawn handler count state).result = .error (.grouping fault)) :
    ∃ refused, (lexer.take count).result.fault = some refused ∧ refused.map .scan = fault := by
  induction count generalizing lexer state with
  | zero =>
      cases failed
  | succ count ih =>
      rw [evaluateDrawn] at failed
      rw [take]
      generalize lexer.next = step at failed ⊢
      rcases step with ⟨result, trace, after⟩
      cases result with
      | error refused =>
          cases failed
          exact ⟨refused, rfl, rfl⟩
      | ok found =>
          cases found with
          | none =>
              cases failed
          | some token =>
              simp only at failed
              generalize handler (.leaf token) state = answered at failed
              rcases answered with ⟨answer, next⟩
              cases answer with
              | error failure =>
                  cases failed
              | ok value =>
                  refine ih (?_ : (after.evaluateDrawn handler count next).result = _)
                  cases later : (after.evaluateDrawn handler count next).result with
                  | error error =>
                      simp only [later] at failed
                      cases failed
                      rfl
                  | ok values =>
                      simp only [later] at failed
                      cases failed

theorem AtBoundary.pointsTo_of_respond
    [Text.CharacterNames]
    {operation : Operation} {error : GroupError}
    (boundary : lexer.AtBoundary)
    (failed : (lexer.respond operation).fault? = some (.reported error)) :
    ∃ index, error.PointsTo lexer.source index := by
  have scanned {count : Nat} {refused : Fault ScanError}
      (stopped : (lexer.take count).result.fault = some refused)
      (same : refused.map .scan = .reported error) :
      ∃ index, error.PointsTo lexer.source index := by
    cases refused with
    | reported unrecognized =>
        cases same
        exact boundary.pointsTo_of_take stopped
    | broken breakdown =>
        cases same
  cases operation with
  | next =>
      cases result : lexer.next.result with
      | ok found =>
          rw [respond, result] at failed
          cases failed
      | error fault =>
          rw [respond, result] at failed
          cases fault with
          | reported unrecognized =>
              cases failed
              exact boundary.pointsTo_of_next result
          | broken breakdown =>
              cases failed
  | take count =>
      rcases Option.map_eq_some_iff.mp failed with ⟨refused, stopped, same⟩
      exact scanned stopped same
  | tokens =>
      rcases Option.map_eq_some_iff.mp failed with ⟨refused, stopped, same⟩
      exact scanned stopped same
  | addPattern rule =>
      cases failed
  | addPair pair =>
      cases failed
  | group =>
      cases result : lexer.group.result with
      | ok forest =>
          rw [respond, result] at failed
          cases failed
      | error fault =>
          rw [respond, result] at failed
          cases failed
          exact boundary.pointsTo_of_group result
  | evaluate standing given state =>
      have ungrouped := Response.result_of_fault? failed
      exact boundary.pointsTo_of_group (evaluate_of_grouping ungrouped).1
  | dispatch candidate state =>
      have unfinished := Response.result_of_fault? failed
      rw [evaluateTokens, Candidate.resolve] at unfinished
      cases resolved : candidate.evaluator.or candidate.callable with
      | none =>
          rw [resolved] at unfinished
          cases unfinished
      | some handler =>
          rw [resolved] at unfinished
          rcases fault_of_evaluateDrawn unfinished with ⟨refused, stopped, same⟩
          exact scanned stopped same

end Lexer

/-! ## Errors of sessions -/

/--
An error that a caller can come upon: it is the answer to an operation in a session, or the outcome
of grouping some of the tokens that were made in a session, by any pairs.
-/
inductive GroupError.Raised
    [Text.CharacterNames]
    (source : Source)
    (config : Config)
    (filename : String) :
    GroupError → Prop where
  | answered
      {operations : List Operation} {operation : Operation} {error : GroupError}
      (failed :
        ((session source config filename operations).lexer.respond operation).fault? =
          some (.reported error)) :
      Raised source config filename error
  | grouped
      {operations : List Operation} {pairs : Pairs} {tokens : List Token}
      {error : Unbalanced Token}
      (made :
        ∀ token ∈ tokens, ∃ rules,
          (rules, token) ∈ (session source config filename operations).emitted)
      (failed : Roster.groupFresh pairs tokens = .error (.reported error)) :
      Raised source config filename (.unbalanced error)

theorem GroupError.Raised.exists_pointsTo
    [Text.CharacterNames]
    {config : Config} {filename : String} {error : GroupError}
    (raised : Raised source config filename error) :
    ∃ index, error.PointsTo source index := by
  cases raised with
  | @answered operations operation _ failed =>
      have sound := sound_session source config filename operations
      have points := sound.boundary.pointsTo_of_respond failed
      rwa [sound.source_eq] at points
  | @grouped operations pairs tokens error made failed =>
      apply GroupError.exists_pointsTo_of_opener
      apply Roster.opener_of_groupFresh _ failed
      intro token member
      rcases made token member with ⟨rules, emitted⟩
      have lexes := (sound_session source config filename operations).lexes _ emitted
      exact ⟨rules, lexes⟩

end TokenForest
