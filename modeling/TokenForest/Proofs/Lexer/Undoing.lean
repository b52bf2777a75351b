import TokenForest.Proofs.Lexer.Session

/-!
# Attempts at grouping that fail

A caller may try to group a source, directly or in order to evaluate it, wherever the cursor stands.
If the attempt fails, the lexer is what it was before: the pass may have gone over any part of the
source, but it moved nothing except the cursor, which is put back.  No handler was called.

Whatever a caller does with the lexer afterwards is answered as if there had been no attempt.
`Response` is what is answered to a single operation, `responses` what is answered to several in a
row.
-/

namespace TokenForest

variable {State Failure : Type}

/-! ## What a caller is told -/

/-- What an operation answers. -/
inductive Response : Type 1 where
  | next (result : Except (Fault ScanError) (Option Token))
  | tokens (result : Lexer.Drawn)
  | pattern (refusal : Option ConfigFault)
  | pair (refusal : Option ConfigError)
  | forest (result : Except (Fault GroupError) (List (Tree Token)))
  /-- The values or the failure, and what has become of the state of the handler. -/
  | values
      {State Failure : Type}
      (result : Except (EvaluationError Failure) (List Value))
      (state : State)

namespace Lexer

/-- The answer to an operation. -/
def respond [Text.CharacterNames] (lexer : Lexer) : Operation → Response
  | .next => .next lexer.next.result
  | .take count => .tokens (lexer.take count).result
  | .tokens => .tokens lexer.tokens.result
  | .addPattern rule =>
    .pattern <|
      match lexer.addPattern rule with
      | .ok _ => none
      | .error fault => some fault
  | .addPair pair =>
    .pair <|
      match lexer.addPair pair with
      | .ok _ => none
      | .error error => some error
  | .group => .forest lexer.group.result
  | .evaluate standing given state =>
    let evaluation := lexer.evaluate standing given state
    .values evaluation.result evaluation.state
  | .dispatch candidate state =>
    let evaluation := lexer.evaluateTokens candidate state
    .values evaluation.result evaluation.state

/-- The answers to operations, one after another. -/
def responses [Text.CharacterNames] (lexer : Lexer) : List Operation → List Response
  | [] => []
  | operation :: rest =>
    lexer.respond operation :: (lexer.perform operation).lexer.responses rest

/-! ## Failed attempts -/

/-- The operation groups the source, or tries to evaluate it, and ends because of the fault. -/
inductive FailsToGroup (lexer : Lexer) (fault : Fault GroupError) : Operation → Prop where
  | group
      (failed : lexer.group.result = .error fault) :
      FailsToGroup lexer fault .group
  | evaluate
      {State Failure : Type}
      {standing given : Option (Candidate State Failure)}
      {state : State}
      (failed : (lexer.evaluate standing given state).result = .error (.grouping fault)) :
      FailsToGroup lexer fault (.evaluate standing given state)

variable
    {lexer : Lexer}
    {fault : Fault GroupError}

/--
Where grouping fails, no forest is kept, the fault is a report, and the lexer stays as it was.
-/
theorem AtBoundary.undone
    (boundary : lexer.AtBoundary)
    (failed : lexer.group.result = .error fault) :
    lexer.forest = none ∧ (∃ error, fault = .reported error) ∧ lexer.group.lexer = lexer := by
  have groups := boundary.groups
  generalize lexer.group = step at groups failed ⊢
  cases groups with
  | again kept =>
      cases failed
  | anew absent draws walked atEnd =>
      cases failed
  | undone absent draws =>
      cases failed
      exact ⟨absent, ⟨_, rfl⟩, rfl⟩

/-- An evaluation that ends because of grouping has done nothing else. -/
theorem evaluate_of_grouping
    {standing given : Option (Candidate State Failure)} {state : State}
    (failed : (lexer.evaluate standing given state).result = .error (.grouping fault)) :
    lexer.group.result = .error fault ∧
      (lexer.evaluate standing given state).lexer = lexer.group.lexer ∧
      (lexer.evaluate standing given state).state = state := by
  have ends := lexer.evaluates standing given state
  generalize lexer.evaluate standing given state = evaluation at ends failed ⊢
  cases ends with
  | missing absent =>
      cases failed
  | ungrouped offered unbuilt =>
      cases failed
      exact ⟨unbuilt, rfl, rfl⟩
  | unusable offered grouped unresolved =>
      cases failed
  | evaluated offered grouped resolved =>
      exact absurd failed (Evaluated.answer_ne_grouping _ fault)

theorem FailsToGroup.result_eq
    {attempt : Operation}
    (fails : lexer.FailsToGroup fault attempt) :
    lexer.group.result = .error fault := by
  cases fails with
  | group failed =>
      exact failed
  | evaluate failed =>
      exact (evaluate_of_grouping failed).1

theorem FailsToGroup.lexer_eq
    [Text.CharacterNames]
    {attempt : Operation}
    (fails : lexer.FailsToGroup fault attempt) :
    (lexer.perform attempt).lexer = lexer.group.lexer := by
  cases fails with
  | group failed =>
      rfl
  | evaluate failed =>
      exact (evaluate_of_grouping failed).2.1

theorem FailsToGroup.state_eq
    {standing given : Option (Candidate State Failure)} {state : State}
    (fails : lexer.FailsToGroup fault (.evaluate standing given state)) :
    (lexer.evaluate standing given state).state = state := by
  cases fails with
  | evaluate failed =>
      exact (evaluate_of_grouping failed).2.2

end Lexer

/--
In every state that a session can reach, an attempt at grouping that fails, be it made for an
evaluation or not, reports a character that nothing recognizes or an opener that is never closed,
and leaves the lexer as it was, without a forest.  A handler that was to evaluate the forest has not
been called: its state is what it was, also if the handler does nothing but record its calls there.
So the next attempt fails in the same way, the next token is what it would have been, and every
later sequence of operations is answered as if there had been no attempt.
-/
theorem failed_grouping_is_undone
    [Text.CharacterNames]
    (source : Text.Source)
    (config : Config)
    (filename : String)
    (operations : List Operation)
    (attempt : Operation)
    (fault : Fault GroupError)
    (fails :
      (session source config filename operations).lexer.FailsToGroup fault attempt) :
    let lexer := (session source config filename operations).lexer
    let after := (lexer.perform attempt).lexer
    (∃ error, fault = .reported error) ∧
      lexer.forest = none ∧
      after = lexer ∧
      (∀ (State Failure : Type) (standing given : Option (Candidate State Failure)) (state : State),
        attempt = .evaluate standing given state →
          (lexer.evaluate standing given state).state = state) ∧
      after.FailsToGroup fault attempt ∧
      after.next = lexer.next ∧
      ∀ later,
        lexer.responses (attempt :: later) = lexer.respond attempt :: lexer.responses later := by
  intro lexer after
  have boundary : lexer.AtBoundary := (sound_session source config filename operations).boundary
  rcases boundary.undone fails.result_eq with ⟨absent, reported, undone⟩
  have same : after = lexer := fails.lexer_eq.trans undone
  refine ⟨reported, absent, same, ?_, ?_, ?_, ?_⟩
  · rintro State Failure standing given state rfl
    exact fails.state_eq
  · rw [same]
    exact fails
  · rw [same]
  · intro later
    rw [Lexer.responses]
    show _ :: after.responses later = _
    rw [same]

/-- A handler that keeps a record of the trees it is called on. -/
def recorder : Candidate (List (Tree Token)) Empty :=
  { callable := some fun tree calls => (.ok .null, calls ++ [tree])
    typeName := "function" }

/-- A source with a group that closes within one that does not. -/
def raggedSource : Text.Source :=
  { text := "+[(-)[".toList }

/-- The report about its first square bracket. -/
def raggedFault : Fault GroupError :=
  .reported (.unbalanced {
    opener := { kind := literalKind, lexeme := "[", line := 1, start := 1, stop := 2 }
    expected := "]" })

theorem ragged_failsToGroup [Text.CharacterNames] :
    (session raggedSource Config.standard "<input>" [.next]).lexer.FailsToGroup raggedFault
      (.evaluate none (some recorder) []) := by
  apply Lexer.FailsToGroup.evaluate
  with_unfolding_all rfl

open scoped Text.CharacterNames

theorem failed_grouping_is_undone_ragged :
    let lexer := (session raggedSource Config.standard "<input>" [.next]).lexer
    let attempt : Operation := .evaluate none (some recorder) []
    lexer.FailsToGroup raggedFault attempt ∧
      (lexer.perform attempt).lexer = lexer ∧
      (lexer.evaluate none (some recorder) []).state = [] ∧
      (lexer.perform attempt).lexer.FailsToGroup raggedFault attempt ∧
      ∀ later,
        lexer.responses (attempt :: later) = lexer.respond attempt :: lexer.responses later := by
  intro lexer attempt
  rcases failed_grouping_is_undone raggedSource Config.standard "<input>" [.next] attempt
    raggedFault ragged_failsToGroup with ⟨_, _, same, unseen, again, _, later⟩
  exact ⟨ragged_failsToGroup, same, unseen _ _ none (some recorder) [] rfl, again, later⟩

end TokenForest
