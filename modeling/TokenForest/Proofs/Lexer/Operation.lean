import TokenForest.Handler
import TokenForest.Proofs.Lexer.Drawing

/-!
# Operations on a lexer

The things that a caller may do with a lexer, as data, so that what a caller does over time is a
list of them.  A report says what an operation did: what was noted, the tokens that the caller got
to see, and the lexer afterwards.  Whatever the operation is and however it ends, it either goes on
over some of the source and hands out all tokens that it made there, or it leaves the cursor where
it was and hands out none.
-/

namespace TokenForest

variable {State Failure : Type}

/-! ## Evaluation -/

/-- A value on a token is the only thing that evaluating changes about it. -/
theorem evaluateRoots_walk_reduced
    (handler : Handler State Failure)
    (roots : List (Tree Token))
    (state : State) :
    (Tree.walkAll (evaluateRoots handler roots state).roots).map Token.reduced =
      (Tree.walkAll roots).map Token.reduced := by
  induction roots generalizing state with
  | nil =>
      rfl
  | cons root rest ih =>
      rw [evaluateRoots]
      rcases handler root state with ⟨result, next⟩
      cases result with
      | error failure =>
          rfl
      | ok value =>
          cases root with
          | node token children =>
              simp [Tree.assign, Tree.relabel, ih, Token.reduced]

/-- Evaluating tokens one by one is drawing. -/
theorem Lexer.AtBoundary.evaluateDrawn_draws
    {lexer : Lexer}
    (boundary : lexer.AtBoundary)
    (handler : Handler State Failure)
    (count : Nat)
    (state : State) :
    lexer.Draws
      (lexer.evaluateDrawn handler count state).trace
      (lexer.evaluateDrawn handler count state).lexer := by
  induction count generalizing lexer state with
  | zero =>
      exact .refl boundary
  | succ count ih =>
      have nexts := boundary.nexts
      rw [evaluateDrawn]
      generalize lexer.next = step at nexts ⊢
      cases nexts with
      | finished draws silent atEnd =>
          exact draws
      | @token token trace after draws drawn onwards =>
          simp only
          rcases handler (.leaf token) state with ⟨result, next⟩
          cases result with
          | error failure =>
              exact draws
          | ok value =>
              exact draws.trans (ih draws.atBoundary next)
      | refused draws silent =>
          exact draws

/-- What is answered when roots were evaluated. -/
def Evaluated.answer (evaluated : Evaluated State Failure) :
    Except (EvaluationError Failure) (List Value) :=
  match evaluated.failure with
  | some failure => .error (.handler failure)
  | none => .ok evaluated.values

theorem Evaluated.answer_ne_grouping
    (evaluated : Evaluated State Failure)
    (fault : Fault GroupError) :
    evaluated.answer ≠ .error (.grouping fault) := by
  rw [answer]
  split
  · simp
  · simp

/-- How evaluating a lexer ends. -/
inductive Lexer.Evaluates
    (lexer : Lexer)
    (standing given : Option (Candidate State Failure))
    (state : State) :
    Evaluation State Failure → Prop where
  | missing
      (absent : given.or standing = none) :
      Evaluates lexer standing given state
        { result := .error .missing, state, trace := [], lexer }
  | ungrouped
      {candidate : Candidate State Failure} {fault : Fault GroupError}
      (offered : given.or standing = some candidate)
      (failed : lexer.group.result = .error fault) :
      Evaluates lexer standing given state
        { result := .error (.grouping fault)
          state
          trace := lexer.group.trace
          lexer := lexer.group.lexer }
  | unusable
      {candidate : Candidate State Failure} {forest : List (Tree Token)}
      (offered : given.or standing = some candidate)
      (grouped : lexer.group.result = .ok forest)
      (unresolved : candidate.evaluator.or candidate.callable = none) :
      Evaluates lexer standing given state
        { result := .error (.unusable candidate.typeName)
          state
          trace := lexer.group.trace
          lexer := lexer.group.lexer }
  | evaluated
      {candidate : Candidate State Failure} {forest : List (Tree Token)}
      {handler : Handler State Failure}
      (offered : given.or standing = some candidate)
      (grouped : lexer.group.result = .ok forest)
      (resolved : candidate.evaluator.or candidate.callable = some handler) :
      Evaluates lexer standing given state
        { result := (evaluateRoots handler forest state).answer
          state := (evaluateRoots handler forest state).state
          trace := lexer.group.trace
          lexer :=
            { lexer.group.lexer with forest := some (evaluateRoots handler forest state).roots } }

theorem Lexer.evaluates
    (lexer : Lexer)
    (standing given : Option (Candidate State Failure))
    (state : State) :
    lexer.Evaluates standing given state (lexer.evaluate standing given state) := by
  rw [evaluate]
  cases offered : given.or standing with
  | none =>
      exact .missing offered
  | some candidate =>
      rcases grouped : lexer.group with ⟨result, trace, after⟩
      have answered := congrArg Step.result grouped
      cases result with
      | error fault =>
          have ends : lexer.Evaluates standing given state _ := .ungrouped offered answered
          rw [grouped] at ends
          exact ends
      | ok forest =>
          simp only [Candidate.resolve]
          cases resolved : candidate.evaluator.or candidate.callable with
          | none =>
              have ends : lexer.Evaluates standing given state _ :=
                .unusable offered answered resolved
              rw [grouped] at ends
              exact ends
          | some handler =>
              have ends : lexer.Evaluates standing given state _ :=
                .evaluated offered answered resolved
              rw [grouped] at ends
              exact ends

/-! ## Reports -/

/-- Something that a caller does with a lexer. -/
inductive Operation : Type 1 where
  | next
  /-- Draws at most so many tokens from an iterator; none, if the iterator has ended. -/
  | take (count : Nat)
  /-- Draws all tokens that are left. -/
  | tokens
  | addPattern (rule : RuleText)
  | addPair (pair : DelimiterPair)
  | group
  | evaluate
      {State Failure : Type}
      (standing given : Option (Candidate State Failure))
      (state : State)
  /-- Evaluates the tokens that are left, one by one. -/
  | dispatch
      {State Failure : Type}
      (candidate : Candidate State Failure)
      (state : State)

/-- What an operation did. -/
structure Report where
  lexer : Lexer
  trace : Trace
  /-- The tokens that the caller got to see, in their order, as they were made. -/
  handed : List Token

namespace Lexer

/-- The tokens of the forest that a lexer keeps, if it did not keep one before. -/
def newlyKept (before after : Lexer) : List Token :=
  match before.forest with
  | some _ => []
  | none => (Tree.walkAll (after.forest.getD [])).map Token.reduced

/-- Does what the operation says. -/
def perform [Text.CharacterNames] (lexer : Lexer) : Operation → Report
  | .next =>
    let step := lexer.next
    { lexer := step.lexer
      trace := step.trace
      handed :=
        match step.result with
        | .ok (some token) => [token]
        | _ => [] }
  | .take count =>
    let step := lexer.take count
    { lexer := step.lexer, trace := step.trace, handed := step.result.tokens }
  | .tokens =>
    let step := lexer.tokens
    { lexer := step.lexer, trace := step.trace, handed := step.result.tokens }
  | .addPattern rule =>
    { lexer := (lexer.addPattern rule).toOption.getD lexer, trace := [], handed := [] }
  | .addPair pair =>
    { lexer := (lexer.addPair pair).toOption.getD lexer, trace := [], handed := [] }
  | .group =>
    let step := lexer.group
    { lexer := step.lexer, trace := step.trace, handed := lexer.newlyKept step.lexer }
  | .evaluate standing given state =>
    let evaluation := lexer.evaluate standing given state
    { lexer := evaluation.lexer
      trace := evaluation.trace
      handed := lexer.newlyKept evaluation.lexer }
  | .dispatch candidate state =>
    let evaluation := lexer.evaluateTokens candidate state
    { lexer := evaluation.lexer
      trace := evaluation.trace
      handed := evaluation.trace.tokens }

/-- What an operation may have done to the cursor and handed out. -/
inductive Yields (lexer : Lexer) : Report → Prop where
  /-- The lexer went on, and every token that it made was handed out. -/
  | onwards
      {trace : Trace} {after last : Lexer}
      (draws : lexer.Draws trace after)
      (source_eq : last.source = after.source)
      (cursor_eq : last.cursor = after.cursor) :
      Yields lexer { lexer := last, trace, handed := trace.tokens }
  /-- The cursor was put back, and no token was handed out. -/
  | back
      {trace : Trace} {after last : Lexer}
      (draws : lexer.Draws trace after)
      (source_eq : last.source = lexer.source)
      (cursor_eq : last.cursor = lexer.cursor) :
      Yields lexer { lexer := last, trace, handed := [] }

variable {lexer : Lexer}

namespace Yields

variable {report : Report}

theorem exists_draws
    (yields : lexer.Yields report) :
    ∃ after, lexer.Draws report.trace after := by
  cases yields with
  | onwards draws source_eq cursor_eq =>
      exact ⟨_, draws⟩
  | back draws source_eq cursor_eq =>
      exact ⟨_, draws⟩

theorem source_eq
    (yields : lexer.Yields report) :
    report.lexer.source = lexer.source := by
  cases yields with
  | onwards draws source_eq cursor_eq =>
      rw [source_eq, draws.source_eq]
  | back draws source_eq cursor_eq =>
      exact source_eq

/-- Whatever an operation does, the lexer stands at a boundary again. -/
theorem atBoundary
    (yields : lexer.Yields report)
    (boundary : lexer.AtBoundary) :
    report.lexer.AtBoundary := by
  cases yields with
  | onwards draws source_eq cursor_eq =>
      exact draws.atBoundary.of_eq source_eq cursor_eq
  | back draws source_eq cursor_eq =>
      exact boundary.of_eq source_eq cursor_eq

end Yields

/-- The tokens that are noted are tokens by the rules of the lexer. -/
theorem Draws.lexes_of_mem
    {trace : Trace} {after : Lexer} {token : Token}
    (draws : lexer.Draws trace after)
    (member : token ∈ trace.tokens) :
    ∃ kind start stop,
      lexer.rules.Lexes lexer.source.text kind start stop ∧
        token = Token.between lexer.source kind start stop := by
  rcases draws with ⟨_, covers⟩
  exact covers.lexes_of_mem member

/-- The tokens that are noted carry no values. -/
theorem Draws.reduced_of_mem
    {trace : Trace} {after : Lexer}
    (draws : lexer.Draws trace after)
    {token : Token}
    (member : token ∈ trace.tokens) :
    token.reduced = token := by
  rcases draws.lexes_of_mem member with ⟨kind, start, stop, _, rfl⟩
  rfl

theorem Draws.map_reduced
    {trace : Trace} {after : Lexer}
    (draws : lexer.Draws trace after) :
    trace.tokens.map Token.reduced = trace.tokens := by
  have unvalued : ∀ token ∈ trace.tokens, token.reduced = id token :=
    fun token member => draws.reduced_of_mem member
  rw [List.map_congr_left unvalued, List.map_id]

theorem newlyKept_of_some
    {forest : List (Tree Token)}
    (kept : lexer.forest = some forest)
    (after : Lexer) :
    lexer.newlyKept after = [] := by
  rw [newlyKept, kept]

theorem newlyKept_self : lexer.newlyKept lexer = [] := by
  cases kept : lexer.forest with
  | none =>
      simp [newlyKept, kept]
  | some forest =>
      exact newlyKept_of_some kept lexer

/-- Grouping anew hands out the tokens that are noted. -/
theorem Draws.newlyKept_eq
    {trace : Trace} {after last : Lexer} {roots forest : List (Tree Token)}
    (draws : lexer.Draws trace after)
    (absent : lexer.forest = none)
    (walked : Tree.walkAll forest = trace.tokens)
    (kept : last.forest = some roots)
    (same : (Tree.walkAll roots).map Token.reduced = (Tree.walkAll forest).map Token.reduced) :
    lexer.newlyKept last = trace.tokens := by
  rw [newlyKept, absent, kept, Option.getD_some, same, walked, draws.map_reduced]

/-- The lexer with more rules and pairs, behind those that it has. -/
def extended
    (lexer : Lexer)
    (patterns : List PatternRule)
    (pairs : List DelimiterPair) :
    Lexer :=
  { lexer with
    rules := { lexer.rules with patterns := lexer.rules.patterns ++ patterns }
    pairs := pairs.foldl Pairs.add lexer.pairs }

variable [Text.CharacterNames]

/-- A rule that is refused adds nothing. -/
theorem perform_addPattern (rule : RuleText) :
    lexer.perform (.addPattern rule) =
      { lexer := lexer.extended (PatternRule.compile rule).toOption.toList []
        trace := []
        handed := [] } := by
  rw [perform, addPattern]
  cases PatternRule.compile rule with
  | error fault =>
      simp only [extended, Except.toOption, Option.toList_none, List.append_nil]
      rfl
  | ok compiled =>
      rfl

/-- A pair that is refused adds nothing. -/
theorem perform_addPair (pair : DelimiterPair) :
    lexer.perform (.addPair pair) =
      { lexer := lexer.extended [] (DelimiterPair.checked pair).toOption.toList
        trace := []
        handed := [] } := by
  rw [perform, addPair]
  cases DelimiterPair.checked pair with
  | error error =>
      simp only [extended, List.append_nil]
      rfl
  | ok checked =>
      simp only [extended, List.append_nil]
      rfl

/-- Grouping goes on and hands out the new forest, or puts the cursor back. -/
theorem AtBoundary.yields_group
    (boundary : lexer.AtBoundary) :
    lexer.Yields (lexer.perform .group) := by
  have groups := boundary.groups
  simp only [perform]
  generalize lexer.group = step at groups ⊢
  cases groups with
  | again kept =>
      rw [newlyKept_of_some kept]
      exact .back (.refl boundary) rfl rfl
  | anew absent draws walked atEnd =>
      rw [draws.newlyKept_eq absent walked rfl rfl]
      exact .onwards draws rfl rfl
  | undone absent draws =>
      rw [newlyKept_self]
      exact .back draws rfl rfl

/-- Evaluating does to the cursor what grouping does. -/
theorem AtBoundary.yields_evaluate
    (boundary : lexer.AtBoundary)
    (standing given : Option (Candidate State Failure))
    (state : State) :
    lexer.Yields (lexer.perform (.evaluate standing given state)) := by
  have yields := boundary.yields_group
  have groups := boundary.groups
  have ends := lexer.evaluates standing given state
  simp only [perform] at yields ⊢
  generalize lexer.evaluate standing given state = evaluation at ends ⊢
  cases ends with
  | missing absent =>
      rw [newlyKept_self]
      exact .back (.refl boundary) rfl rfl
  | ungrouped offered failed =>
      exact yields
  | unusable offered grouped unresolved =>
      exact yields
  | @evaluated candidate forest handler offered grouped resolved =>
      have same := evaluateRoots_walk_reduced handler forest state
      generalize lexer.group = step at groups grouped ⊢
      cases groups with
      | again kept =>
          rw [newlyKept_of_some kept]
          exact .back (.refl boundary) rfl rfl
      | anew absent draws walked atEnd =>
          cases grouped
          rw [draws.newlyKept_eq absent walked rfl same]
          exact .onwards draws rfl rfl
      | undone absent draws =>
          cases grouped

/-- Every operation goes on and hands out what it makes, or puts the cursor back. -/
theorem AtBoundary.yields
    (boundary : lexer.AtBoundary)
    (operation : Operation) :
    lexer.Yields (lexer.perform operation) := by
  cases operation with
  | next =>
      have nexts := boundary.nexts
      simp only [perform]
      generalize lexer.next = step at nexts ⊢
      cases nexts with
      | finished draws silent atEnd =>
          rw [← silent]
          exact .onwards draws rfl rfl
      | token draws drawn onwards =>
          simp only
          rw [← drawn]
          exact .onwards draws rfl rfl
      | refused draws silent =>
          simp only
          rw [← silent]
          exact .onwards draws rfl rfl
  | take count =>
      rcases boundary.take_draws count with ⟨draws, tokens⟩
      simp only [perform]
      rw [← tokens]
      exact .onwards draws rfl rfl
  | tokens =>
      rcases boundary.take_draws (lexer.remaining + 1) with ⟨draws, tokens⟩
      simp only [perform, Lexer.tokens]
      rw [← tokens]
      exact .onwards draws rfl rfl
  | addPattern rule =>
      rw [perform_addPattern]
      exact .back (.refl boundary) rfl rfl
  | addPair pair =>
      rw [perform_addPair]
      exact .back (.refl boundary) rfl rfl
  | group =>
      exact boundary.yields_group
  | evaluate standing given state =>
      exact boundary.yields_evaluate standing given state
  | dispatch candidate state =>
      simp only [perform, evaluateTokens]
      cases candidate.resolve with
      | error error =>
          exact .onwards (.refl boundary) rfl rfl
      | ok handler =>
          exact .onwards (boundary.evaluateDrawn_draws handler _ state) rfl rfl

end Lexer

end TokenForest
