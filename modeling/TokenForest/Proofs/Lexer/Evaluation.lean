import TokenForest.Proofs.Lexer.Finality

/-!
# The calls of an evaluation

An evaluation calls its handler on the roots of the forest, from the left and on each of them once,
until a call fails or no root is left.  `Calls` says this, with the trees that the handler is called
on, the values that it answers and the state that it hands from call to call.  The roots that a
value was answered for carry this value afterwards, and nothing else in the forest changes.

Whatever a handler does to its state, it may also note the trees that it is called on.  A handler
that does so answers the same and notes exactly the calls.
-/

namespace TokenForest

variable
    {State Failure : Type}
    {handler : Handler State Failure}

/-- The value at the top of a tree. -/
def Tree.value (tree : Tree Token) : Value := tree.label.value

theorem Tree.value_assign
    (value : Value)
    (tree : Tree Token) :
    (tree.assign value).value = value := by
  cases tree
  rfl

/-- Called on some trees in their order, the handler answers a value for each. -/
inductive Answers (handler : Handler State Failure) :
    State → List (Tree Token) → List Value → State → Prop where
  | nil
      {state : State} :
      Answers handler state [] [] state
  | cons
      {state next last : State} {tree : Tree Token} {rest : List (Tree Token)}
      {value : Value} {values : List Value}
      (answer : handler tree state = (.ok value, next))
      (later : Answers handler next rest values last) :
      Answers handler state (tree :: rest) (value :: values) last

/--
What becomes of evaluating some roots: the trees that the handler is called on, the values that it
answers, what the evaluation answers, and the state that the last call leaves.
-/
inductive Calls
    (handler : Handler State Failure)
    (roots : List (Tree Token))
    (state : State) :
    List (Tree Token) → List Value → Except (EvaluationError Failure) (List Value) → State →
      Prop where
  /-- No call fails, and every root has its value. -/
  | completes
      {values : List Value} {last : State}
      (answers : Answers handler state roots values last) :
      Calls handler roots state roots values (.ok values) last
  /-- The call on a root fails, and no further call is made. -/
  | stops
      {done rest : List (Tree Token)} {root : Tree Token} {values : List Value}
      {middle last : State} {failure : Failure}
      (split : roots = done ++ root :: rest)
      (answers : Answers handler state done values middle)
      (fails : handler root middle = (.error failure, last)) :
      Calls handler roots state (done ++ [root]) values (.error (.handler failure)) last

namespace Answers

variable
    {state last : State}
    {roots : List (Tree Token)}
    {values : List Value}

theorem length_eq
    (answers : Answers handler state roots values last) :
    values.length = roots.length := by
  induction answers with
  | nil =>
      rfl
  | cons answer later ih =>
      rw [List.length_cons, List.length_cons, ih]

/-- Roots for which the handler answers are evaluated before any others. -/
theorem evaluateRoots_append
    (answers : Answers handler state roots values last)
    (others : List (Tree Token)) :
    evaluateRoots handler (roots ++ others) state =
      { values := values ++ (evaluateRoots handler others last).values
        failure := (evaluateRoots handler others last).failure
        roots := List.zipWith Tree.assign values roots ++
          (evaluateRoots handler others last).roots
        state := (evaluateRoots handler others last).state } := by
  induction answers with
  | nil =>
      rfl
  | cons answer later ih =>
      rw [List.cons_append, evaluateRoots, answer]
      simp only
      rw [ih]
      rfl

theorem evaluateRoots_eq
    (answers : Answers handler state roots values last) :
    evaluateRoots handler roots state =
      { values
        failure := none
        roots := List.zipWith Tree.assign values roots
        state := last } := by
  have evaluated := answers.evaluateRoots_append []
  simp only [evaluateRoots, List.append_nil] at evaluated
  exact evaluated

theorem map_value
    (answers : Answers handler state roots values last) :
    (List.zipWith Tree.assign values roots).map Tree.value = values := by
  induction answers with
  | nil =>
      rfl
  | cons answer later ih =>
      rw [List.zipWith_cons_cons, List.map_cons, ih, Tree.value_assign]

end Answers

/-- From every state, evaluating some roots makes calls in one of these ways. -/
theorem exists_calls
    (handler : Handler State Failure)
    (roots : List (Tree Token))
    (state : State) :
    ∃ calls values answer last, Calls handler roots state calls values answer last := by
  induction roots generalizing state with
  | nil =>
      exact ⟨[], [], _, state, .completes .nil⟩
  | cons root rest ih =>
      rcases called : handler root state with ⟨result, next⟩
      cases result with
      | error failure =>
          have first : root :: rest = [] ++ root :: rest := rfl
          exact ⟨[root], [], _, next, .stops first .nil called⟩
      | ok value =>
          rcases ih next with ⟨calls, values, answer, last, later⟩
          cases later with
          | completes answers =>
              exact ⟨_, _, _, last, .completes (.cons called answers)⟩
          | stops split answers fails =>
              subst split
              exact ⟨_, _, _, last, .stops rfl (.cons called answers) fails⟩

namespace Calls

variable
    {state last : State}
    {roots calls : List (Tree Token)}
    {values : List Value}
    {answer : Except (EvaluationError Failure) (List Value)}

theorem answer_eq
    (made : Calls handler roots state calls values answer last) :
    (evaluateRoots handler roots state).answer = answer ∧
      (evaluateRoots handler roots state).state = last := by
  cases made with
  | completes answers =>
      rw [answers.evaluateRoots_eq]
      exact ⟨rfl, rfl⟩
  | stops split answers fails =>
      rw [split, answers.evaluateRoots_append, evaluateRoots, fails, Evaluated.answer]
      exact ⟨rfl, rfl⟩

/-- The roots that were answered for carry their new values, and the others those that they had. -/
theorem map_value
    (made : Calls handler roots state calls values answer last) :
    (evaluateRoots handler roots state).roots.map Tree.value =
      values ++ (roots.drop values.length).map Tree.value := by
  cases made with
  | completes answers =>
      rw [answers.evaluateRoots_eq, answers.map_value, answers.length_eq, List.drop_length,
        List.map_nil, List.append_nil]
  | stops split answers fails =>
      rw [split, answers.evaluateRoots_append, evaluateRoots, fails, List.map_append,
        answers.map_value, answers.length_eq, List.drop_left]

end Calls

/-! ## Handlers that note their calls -/

/-- The handler that does the same and notes the trees that it is called on. -/
def Handler.noting (handler : Handler State Failure) :
    Handler (State × List (Tree Token)) Failure :=
  fun tree (state, noted) =>
    ((handler tree state).1, ((handler tree state).2, noted ++ [tree]))

/-- The candidate whose handlers note their calls. -/
def Candidate.noting (candidate : Candidate State Failure) :
    Candidate (State × List (Tree Token)) Failure where
  evaluator := candidate.evaluator.map Handler.noting
  callable := candidate.callable.map Handler.noting
  typeName := candidate.typeName

theorem Answers.noting
    {state last : State} {roots : List (Tree Token)} {values : List Value}
    (answers : Answers handler state roots values last)
    (noted : List (Tree Token)) :
    Answers (Handler.noting handler) (state, noted) roots values (last, noted ++ roots) := by
  induction answers generalizing noted with
  | nil =>
      rw [List.append_nil]
      exact .nil
  | @cons state next last tree rest value values answer later ih =>
      have first : Handler.noting handler tree (state, noted) =
          (.ok value, (next, noted ++ [tree])) := by
        rw [Handler.noting, answer]
      have onwards := ih (noted ++ [tree])
      rw [List.append_assoc, List.singleton_append] at onwards
      exact .cons first onwards

/-- What is noted are the calls. -/
theorem Calls.noting
    {state last : State} {roots calls : List (Tree Token)} {values : List Value}
    {answer : Except (EvaluationError Failure) (List Value)}
    (made : Calls handler roots state calls values answer last) :
    Calls (Handler.noting handler) roots (state, []) calls values answer (last, calls) := by
  cases made with
  | completes answers =>
      exact .completes (answers.noting [])
  | @stops done rest root values middle last failure split answers fails =>
      have failed : Handler.noting handler root (middle, done) =
          (.error failure, (last, done ++ [root])) := by
        rw [Handler.noting, fails]
      exact .stops split (answers.noting []) failed

/-! ## Evaluations of a lexer -/

/-- The handler stands behind what a caller offers, of which the argument goes before the other. -/
def Offers
    (standing given : Option (Candidate State Failure))
    (handler : Handler State Failure) :
    Prop :=
  ∃ candidate,
    given.or standing = some candidate ∧ candidate.evaluator.or candidate.callable = some handler

/--
The evaluation calls the handler on the roots from a state on, keeps the forest, and changes the
values of those roots for which the handler answered.
-/
structure EvaluatesForest
    (lexer : Lexer)
    (handler : Handler State Failure)
    (roots : List (Tree Token))
    (state : State)
    (evaluation : Evaluation State Failure)
    (calls : List (Tree Token))
    (after : List (Tree Token)) :
    Prop where
  made :
    ∃ values,
      Calls handler roots state calls values evaluation.result evaluation.state ∧
        after.map Tree.value = values ++ (roots.drop values.length).map Tree.value
  unvalued_eq : after.map Tree.unvalued = roots.map Tree.unvalued
  lexer_eq : evaluation.lexer = { lexer.group.lexer with forest := some after }

variable
    {standing given : Option (Candidate State Failure)}

theorem Offers.noting
    (offers : Offers standing given handler) :
    Offers (standing.map Candidate.noting) (given.map Candidate.noting)
      (Handler.noting handler) := by
  rcases offers with ⟨candidate, offered, resolved⟩
  refine ⟨candidate.noting, ?_, ?_⟩
  · rw [← Option.map_or, offered, Option.map_some]
  · show (candidate.evaluator.map _).or (candidate.callable.map _) = _
    rw [← Option.map_or, resolved, Option.map_some]

namespace Lexer

variable
    {lexer : Lexer}
    {roots : List (Tree Token)}
    {state : State}

theorem evaluate_of_offers
    (offers : Offers standing given handler)
    (grouped : lexer.group.result = .ok roots)
    (state : State) :
    lexer.evaluate standing given state =
      { result := (evaluateRoots handler roots state).answer
        state := (evaluateRoots handler roots state).state
        trace := lexer.group.trace
        lexer :=
          { lexer.group.lexer with
            forest := some (evaluateRoots handler roots state).roots } } := by
  rcases offers with ⟨candidate, offered, resolved⟩
  have ends := lexer.evaluates standing given state
  generalize lexer.evaluate standing given state = evaluation at ends ⊢
  cases ends with
  | missing absent =>
      rw [absent] at offered
      cases offered
  | ungrouped other failed =>
      rw [failed] at grouped
      cases grouped
  | unusable other again unresolved =>
      rw [other] at offered
      cases offered
      rw [unresolved] at resolved
      cases resolved
  | evaluated other again found =>
      rw [other] at offered
      cases offered
      rw [found] at resolved
      cases resolved
      rw [again] at grouped
      cases grouped
      rfl

/-- Where there are roots and a handler, the roots are evaluated, and the calls can be noted. -/
theorem exists_evaluatesForest
    (offers : Offers standing given handler)
    (grouped : lexer.group.result = .ok roots)
    (state : State) :
    ∃ calls after,
      EvaluatesForest lexer handler roots state (lexer.evaluate standing given state) calls after ∧
        (lexer.evaluate (standing.map Candidate.noting) (given.map Candidate.noting)
            (state, [])).state =
          ((lexer.evaluate standing given state).state, calls) := by
  rcases exists_calls handler roots state with ⟨calls, values, answer, last, made⟩
  have evaluated := evaluate_of_offers offers grouped state
  have noted := evaluate_of_offers offers.noting grouped (state, [])
  refine ⟨calls, (evaluateRoots handler roots state).roots, ?_, ?_⟩
  · rw [evaluated]
    constructor
    · refine ⟨values, ?_, made.map_value⟩
      rw [made.answer_eq.1, made.answer_eq.2]
      exact made
    · exact evaluateRoots_unvalued handler roots state
    · rfl
  · rw [evaluated, noted]
    show (evaluateRoots (Handler.noting handler) roots (state, [])).state = _
    rw [made.noting.answer_eq.2, made.answer_eq.2]

/-- Where grouping fails, no handler is called. -/
theorem evaluate_of_ungrouped
    {fault : Fault GroupError}
    (failed : lexer.group.result = .error fault)
    (standing given : Option (Candidate State Failure))
    (state : State) :
    (lexer.evaluate standing given state).state = state ∧
      (given.or standing ≠ none →
        (lexer.evaluate standing given state).result = .error (.grouping fault)) := by
  have ends := lexer.evaluates standing given state
  generalize lexer.evaluate standing given state = evaluation at ends ⊢
  cases ends with
  | missing absent =>
      exact ⟨rfl, fun offered => absurd absent offered⟩
  | ungrouped offered again =>
      rw [failed] at again
      cases again
      exact ⟨rfl, fun _ => rfl⟩
  | unusable offered grouped unresolved =>
      rw [failed] at grouped
      cases grouped
  | evaluated offered grouped resolved =>
      rw [failed] at grouped
      cases grouped

end Lexer

/--
Where grouping answers some roots, be it because they are kept, an evaluation calls its handler on
them from the left, once each and on nothing else.  If every call answers, these are the values of
the evaluation; otherwise the failure of the first call that fails is what the evaluation ends with,
and no call is made after it.  The roots that were answered for carry their new values, the others
the values that they had, and the forest is the same otherwise, with all that stands below the
roots.  It is kept, so that the next evaluation, by whatever handler, goes over the same roots from
the first.  A handler given as an argument goes before the standing one.  Where grouping fails, that
is the failure of the evaluation, and no call is made.
-/
theorem evaluation_calls_handler_once_per_root
    (lexer : Lexer)
    (standing given : Option (Candidate State Failure))
    (state : State) :
    let evaluation := lexer.evaluate standing given state
    let noting := lexer.evaluate
      (standing.map Candidate.noting) (given.map Candidate.noting) (state, [])
    (∀ roots handler,
      lexer.group.result = .ok roots →
        Offers standing given handler →
          ∃ calls after,
            EvaluatesForest lexer handler roots state evaluation calls after ∧
              noting.state = (evaluation.state, calls) ∧
              ∀ (NextState NextFailure : Type)
                (others again : Option (Candidate NextState NextFailure))
                (start : NextState) (next : Handler NextState NextFailure),
                Offers others again next →
                  ∃ later last,
                    EvaluatesForest evaluation.lexer next after start
                      (evaluation.lexer.evaluate others again start) later last) ∧
      (∀ candidate other,
        given = some candidate → lexer.evaluate other given state = evaluation) ∧
      ∀ fault,
        lexer.group.result = .error fault →
          evaluation.state = state ∧
            noting.state = (state, []) ∧
            (given.or standing ≠ none → evaluation.result = .error (.grouping fault)) := by
  intro evaluation noting
  refine ⟨?_, ?_, ?_⟩
  · intro roots handler grouped offers
    rcases Lexer.exists_evaluatesForest offers grouped state with ⟨calls, after, evaluates, noted⟩
    refine ⟨calls, after, evaluates, noted, ?_⟩
    intro NextState NextFailure others again start next offered
    have kept : evaluation.lexer.forest = some after := by
      rw [evaluates.lexer_eq]
    have regrouped := congrArg Step.result (Lexer.group_of_kept kept)
    rcases Lexer.exists_evaluatesForest offered regrouped start with ⟨later, last, goes, _⟩
    exact ⟨later, last, goes⟩
  · rintro candidate other rfl
    rfl
  · intro fault failed
    have unevaluated := Lexer.evaluate_of_ungrouped failed standing given state
    exact ⟨unevaluated.1, (Lexer.evaluate_of_ungrouped failed _ _ _).1, unevaluated.2⟩

/-- A handler that counts its calls and fails on groups. -/
def picky : Handler Nat String :=
  fun tree count =>
    (if tree.isGroup then .error "a group" else .ok (.int count), count + 1)

theorem evaluation_calls_handler_once_per_root_picky :
    let lexer := Lexer.ofSource groupedSource
    let candidate : Candidate Nat String := { callable := some picky, typeName := "function" }
    let roots : List (Tree Token) :=
      .leaf { kind := literalKind, lexeme := "+", line := 1, start := 0, stop := 1 } ::
        groupedForest
    lexer.group.result = .ok roots ∧
      (lexer.evaluate none (some candidate) 5).result = .error (.handler "a group") ∧
      ∃ calls after,
        EvaluatesForest lexer picky roots 5 (lexer.evaluate none (some candidate) 5) calls after ∧
          (lexer.evaluate none (some candidate.noting) (5, [])).state = (7, calls) := by
  intro lexer candidate roots
  have grouped : lexer.group.result = .ok roots := by
    with_unfolding_all rfl
  have stopped : (lexer.evaluate none (some candidate) 5).result = .error (.handler "a group") := by
    with_unfolding_all rfl
  have counted : (lexer.evaluate none (some candidate) 5).state = 7 := by
    with_unfolding_all rfl
  have evaluates := (evaluation_calls_handler_once_per_root lexer none (some candidate) 5).1
  rcases evaluates roots picky grouped ⟨candidate, rfl, rfl⟩ with ⟨calls, after, made, noted, _⟩
  rw [counted] at noted
  exact ⟨grouped, stopped, calls, after, made, noted⟩

end TokenForest
