import TokenForest.Lexer.Basic

/-!
# Handlers

A handler turns the roots of a forest into values.  It sees one root at a time, from the left, and
may keep a state of its own and fail.  The value of each root is left on its token; the first
failure ends the evaluation, and the roots from there on stay as they were.
-/

namespace TokenForest

variable {State Failure : Type}

/-- A handler with a state: the value of a tree, or a failure. -/
abbrev Handler (State Failure : Type) := Tree Token → State → Except Failure Value × State

/-- What a caller offers as a handler, which may turn out to be none. -/
structure Candidate (State Failure : Type) where
  /-- The way to evaluate a tree that the candidate defines by that name. -/
  evaluator : Option (Handler State Failure) := none
  /-- The candidate itself, if it can be called. -/
  callable : Option (Handler State Failure) := none
  /-- The name of the candidate's kind. -/
  typeName : String

/-- Why an evaluation ends without values. -/
inductive EvaluationError (Failure : Type) where
  | missing
  | unusable (typeName : String)
  | grouping (fault : Fault GroupError)
  | handler (failure : Failure)
  deriving Repr

/-- The message of an error that comes from no handler and no source. -/
def EvaluationError.message : EvaluationError Failure → String
  | .missing => "evaluate() needs a handler"
  | .unusable typeName =>
    "handler must be callable or define evaluate(), got " ++ typeName
  | .grouping (.reported error) => error.message
  | .grouping (.broken breakdown) => breakdown.message
  | .handler _ => ""

namespace Candidate

/-- The handler behind a candidate; its way to evaluate goes before a call. -/
def resolve (candidate : Candidate State Failure) :
    Except (EvaluationError Failure) (Handler State Failure) :=
  match candidate.evaluator.or candidate.callable with
  | some handler => .ok handler
  | none => .error (.unusable candidate.typeName)

end Candidate

/-- The outcome of evaluating roots: the values so far, the failure, and the roots afterwards. -/
structure Evaluated (State Failure : Type) where
  values : List Value
  failure : Option Failure
  roots : List (Tree Token)
  state : State

/-- Leaves a value on the token at the top of a tree. -/
def Tree.assign (value : Value) : Tree Token → Tree Token :=
  Tree.relabel fun token => { token with value }

/-- Evaluates roots from the left up to the first failure. -/
def evaluateRoots (handler : Handler State Failure) :
    List (Tree Token) → State → Evaluated State Failure
  | [], state => { values := [], failure := none, roots := [], state }
  | root :: rest, state =>
    match handler root state with
    | (.error failure, state) =>
      { values := [], failure := some failure, roots := root :: rest, state }
    | (.ok value, state) =>
      let later := evaluateRoots handler rest state
      { later with values := value :: later.values, roots := root.assign value :: later.roots }

/-- The outcome of an evaluation, with the state of the handler afterwards. -/
structure Evaluation (State Failure : Type) where
  result : Except (EvaluationError Failure) (List Value)
  state : State
  trace : Trace
  lexer : Lexer

namespace Lexer

/--
Groups the source, if that has not been done, and evaluates the roots.  The handler given here goes
before the standing one.  Whether the candidate can serve as a handler is looked at after grouping.
-/
def evaluate
    (lexer : Lexer)
    (standing given : Option (Candidate State Failure))
    (state : State) :
    Evaluation State Failure :=
  match given.or standing with
  | none => { result := .error .missing, state, trace := [], lexer }
  | some candidate =>
    match lexer.group with
    | { result := .error fault, trace, lexer } =>
      { result := .error (.grouping fault), state, trace, lexer }
    | { result := .ok forest, trace, lexer } =>
      match candidate.resolve with
      | .error error => { result := .error error, state, trace, lexer }
      | .ok handler =>
        let evaluated := evaluateRoots handler forest state
        let lexer := { lexer with forest := some evaluated.roots }
        let result :=
          match evaluated.failure with
          | some failure => .error (.handler failure)
          | none => .ok evaluated.values
        { result, state := evaluated.state, trace, lexer }

/-- Draws tokens, each of which the handler evaluates before the next is drawn. -/
def evaluateDrawn (handler : Handler State Failure) :
    (count : Nat) → State → Lexer → Evaluation State Failure
  | 0, state, lexer => { result := .ok [], state, trace := [], lexer }
  | count + 1, state, lexer =>
    match lexer.next with
    | { result := .error fault, trace, lexer } =>
      { result := .error (.grouping (fault.map .scan)), state, trace, lexer }
    | { result := .ok none, trace, lexer } => { result := .ok [], state, trace, lexer }
    | { result := .ok (some token), trace, lexer } =>
      match handler (.leaf token) state with
      | (.error failure, state) =>
        { result := .error (.handler failure), state, trace, lexer }
      | (.ok value, state) =>
        let later := evaluateDrawn handler count state lexer
        { later with
          result := later.result.map (value :: ·)
          trace := trace ++ later.trace }

/-- Evaluates the tokens that are left, one by one and without grouping. -/
def evaluateTokens
    (lexer : Lexer)
    (candidate : Candidate State Failure)
    (state : State) :
    Evaluation State Failure :=
  match candidate.resolve with
  | .error error => { result := .error error, state, trace := [], lexer }
  | .ok handler => lexer.evaluateDrawn handler (lexer.remaining + 1) state

end Lexer

end TokenForest
