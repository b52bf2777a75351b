import TokenForest.Proofs.Lexer.Undoing

/-!
# The forest that a lexer keeps

A lexer that has grouped its source keeps the forest, and its cursor stands at the end of the
source.  From then on no operation has anything to draw, so none can come upon an error of scanning
or grouping, whatever rules and pairs are added.  The forest stays what it is, except that an
evaluation leaves values on its roots.
-/

namespace TokenForest

variable {State Failure : Type}

/-- The tree without the value at its top. -/
def Tree.unvalued : Tree Token → Tree Token :=
  Tree.relabel Token.reduced

/-- Evaluating roots changes nothing about them but their values. -/
theorem evaluateRoots_unvalued
    (handler : Handler State Failure)
    (roots : List (Tree Token))
    (state : State) :
    (evaluateRoots handler roots state).roots.map Tree.unvalued = roots.map Tree.unvalued := by
  induction roots generalizing state with
  | nil =>
      rfl
  | cons root rest ih =>
      rw [evaluateRoots]
      rcases handler root state with ⟨result, next⟩
      cases result with
      | error failure =>
          rfl
      | ok value =>
          rw [List.map_cons, List.map_cons, ih]
          cases root with
          | node token children =>
              rfl

/-- The operation evaluates the forest. -/
def Operation.IsEvaluation : Operation → Prop
  | .evaluate .. => True
  | _ => False

/-- The fault of scanning or grouping that a response reports, if it reports one. -/
def Response.fault? : Response → Option (Fault GroupError)
  | .next (.error fault) => some (fault.map .scan)
  | .tokens drawn => drawn.fault.map (Fault.map .scan)
  | .forest (.error fault) => some fault
  | .values (.error (.grouping fault)) _ => some fault
  | _ => none

namespace Lexer

/-! ## Nothing left to draw -/

/-- The cursor stands at the end of the source. -/
structure Spent (lexer : Lexer) : Prop where
  boundary : lexer.AtBoundary
  atEnd : lexer.remaining = 0

namespace Spent

variable
    {lexer other : Lexer}

theorem of_eq
    (spent : lexer.Spent)
    (source_eq : other.source = lexer.source)
    (cursor_eq : other.cursor = lexer.cursor) :
    other.Spent where
  boundary := spent.boundary.of_eq source_eq cursor_eq
  atEnd := by
    rw [remaining, source_eq, cursor_eq]
    exact spent.atEnd

theorem next_eq
    (spent : lexer.Spent) :
    lexer.next = { result := .ok none, trace := [], lexer } := by
  have stands : lexer.cursor.index = lexer.source.text.length :=
    Nat.le_antisymm spent.boundary.index_le (Nat.le_of_sub_eq_zero spent.atEnd)
  have walks : lexer.rules.Walks lexer.source lexer.cursor.index [] .finished := by
    rw [stands]
    exact .finished
  rw [spent.boundary.next_eq walks, Ending.place, ← stands, spent.boundary.atIndex_eq]
  rfl

theorem take_eq
    (spent : lexer.Spent)
    (count : Nat) :
    lexer.take count = { result := { tokens := [] }, trace := [], lexer } := by
  cases count with
  | zero =>
      rfl
  | succ count =>
      rw [take, spent.next_eq]

theorem tokens_eq
    (spent : lexer.Spent) :
    lexer.tokens = { result := { tokens := [] }, trace := [], lexer } :=
  spent.take_eq _

theorem evaluateDrawn_eq
    (spent : lexer.Spent)
    (handler : Handler State Failure)
    (count : Nat)
    (state : State) :
    lexer.evaluateDrawn handler count state = { result := .ok [], state, trace := [], lexer } := by
  cases count with
  | zero =>
      rfl
  | succ count =>
      rw [evaluateDrawn, spent.next_eq]

end Spent

/-! ## Forests that are kept -/

/-- A forest is kept only where nothing is left to draw. -/
def KeepsAtEnd (lexer : Lexer) : Prop :=
  ∀ forest, lexer.forest = some forest → lexer.Spent

/-- The lexer keeps a forest, up to the values of its roots, and has nothing left to draw. -/
structure Settled (forest : List (Tree Token)) (lexer : Lexer) : Prop where
  spent : lexer.Spent
  kept : ∃ roots, lexer.forest = some roots ∧ roots.map Tree.unvalued = forest.map Tree.unvalued

variable {lexer : Lexer}

/-- Where grouping succeeds, the forest is kept and nothing is left to draw. -/
theorem AtBoundary.settled_of_group
    {forest : List (Tree Token)}
    (boundary : lexer.AtBoundary)
    (keeps : lexer.KeepsAtEnd)
    (grouped : lexer.group.result = .ok forest) :
    lexer.group.lexer.Spent ∧ lexer.group.lexer.forest = some forest := by
  have groups := boundary.groups
  generalize lexer.group = step at groups grouped ⊢
  cases groups with
  | again kept =>
      cases grouped
      exact ⟨keeps _ kept, kept⟩
  | @anew forest trace after absent draws walked atEnd =>
      cases grouped
      have spent : after.Spent := ⟨draws.atBoundary, atEnd⟩
      exact ⟨spent.of_eq rfl rfl, rfl⟩
  | undone absent draws =>
      cases grouped

namespace Spent

variable {roots : List (Tree Token)}

/-- An operation other than an evaluation leaves the cursor and the forest alone. -/
theorem perform_of_not_isEvaluation
    [Text.CharacterNames]
    {operation : Operation}
    (spent : lexer.Spent)
    (kept : lexer.forest = some roots)
    (other : ¬ operation.IsEvaluation) :
    (lexer.perform operation).lexer.Spent ∧
      (lexer.perform operation).lexer.forest = some roots := by
  cases operation with
  | next =>
      simp only [perform, spent.next_eq]
      exact ⟨spent, kept⟩
  | take count =>
      simp only [perform, spent.take_eq]
      exact ⟨spent, kept⟩
  | tokens =>
      simp only [perform, spent.tokens_eq]
      exact ⟨spent, kept⟩
  | addPattern rule =>
      rw [perform_addPattern]
      exact ⟨spent.of_eq rfl rfl, kept⟩
  | addPair pair =>
      rw [perform_addPair]
      exact ⟨spent.of_eq rfl rfl, kept⟩
  | group =>
      simp only [perform, group_of_kept kept]
      exact ⟨spent, kept⟩
  | evaluate standing given state =>
      exact absurd trivial other
  | dispatch candidate state =>
      simp only [perform, evaluateTokens]
      cases candidate.resolve with
      | error error =>
          exact ⟨spent, kept⟩
      | ok handler =>
          simp only [spent.evaluateDrawn_eq]
          exact ⟨spent, kept⟩

/-- An evaluation leaves the cursor alone, and values on the roots of the forest. -/
theorem evaluate_lexer
    (spent : lexer.Spent)
    (kept : lexer.forest = some roots)
    (standing given : Option (Candidate State Failure))
    (state : State) :
    (lexer.evaluate standing given state).lexer.Settled roots := by
  have settled : lexer.Settled roots := ⟨spent, roots, kept, rfl⟩
  have ends := lexer.evaluates standing given state
  have again := group_of_kept kept
  generalize lexer.evaluate standing given state = evaluation at ends ⊢
  cases ends with
  | missing absent =>
      exact settled
  | ungrouped offered failed =>
      rw [again] at failed
      cases failed
  | unusable offered grouped unresolved =>
      simp only [again]
      exact settled
  | evaluated offered grouped resolved =>
      rw [again] at grouped
      cases grouped
      simp only [again]
      exact ⟨spent.of_eq rfl rfl, _, rfl, evaluateRoots_unvalued _ roots state⟩

/-- No operation reports a fault of scanning or grouping. -/
theorem fault?_respond
    [Text.CharacterNames]
    (spent : lexer.Spent)
    (kept : lexer.forest = some roots)
    (operation : Operation) :
    (lexer.respond operation).fault? = none := by
  cases operation with
  | next =>
      rw [respond, spent.next_eq]
      rfl
  | take count =>
      rw [respond, spent.take_eq]
      rfl
  | tokens =>
      rw [respond, spent.tokens_eq]
      rfl
  | addPattern rule =>
      rfl
  | addPair pair =>
      rfl
  | group =>
      rw [respond, group_of_kept kept]
      rfl
  | evaluate standing given state =>
      have ends := lexer.evaluates standing given state
      have again := group_of_kept kept
      simp only [respond]
      generalize lexer.evaluate standing given state = evaluation at ends ⊢
      cases ends with
      | missing absent =>
          rfl
      | ungrouped offered failed =>
          rw [again] at failed
          cases failed
      | unusable offered grouped unresolved =>
          rfl
      | evaluated offered grouped resolved =>
          rw [Evaluated.answer]
          split
          · rfl
          · rfl
  | dispatch candidate state =>
      simp only [respond, evaluateTokens, Candidate.resolve]
      cases candidate.evaluator.or candidate.callable with
      | none =>
          rfl
      | some handler =>
          simp only [spent.evaluateDrawn_eq]
          rfl

end Spent

variable {forest : List (Tree Token)}

/-- Every operation leaves a settled lexer settled. -/
theorem Settled.perform
    [Text.CharacterNames]
    (settled : lexer.Settled forest)
    (operation : Operation) :
    (lexer.perform operation).lexer.Settled forest := by
  rcases settled with ⟨spent, roots, kept, same⟩
  by_cases evaluates : operation.IsEvaluation
  · cases operation with
    | evaluate standing given state =>
        rcases spent.evaluate_lexer kept standing given state with
          ⟨spentAfter, others, keptAfter, alike⟩
        exact ⟨spentAfter, others, keptAfter, alike.trans same⟩
    | _ =>
        cases evaluates
  · rcases spent.perform_of_not_isEvaluation kept evaluates with ⟨spentAfter, keptAfter⟩
    exact ⟨spentAfter, roots, keptAfter, same⟩

theorem Settled.performAll
    [Text.CharacterNames]
    (settled : lexer.Settled forest)
    (operations : List Operation) :
    (lexer.performAll operations).Settled forest := by
  induction operations generalizing lexer with
  | nil =>
      exact settled
  | cons operation rest ih =>
      exact ih (settled.perform operation)

/-- Without an evaluation the forest stays the same, values and all. -/
theorem Spent.performAll_forest
    [Text.CharacterNames]
    (spent : lexer.Spent)
    (kept : lexer.forest = some forest)
    {operations : List Operation}
    (others : ∀ operation ∈ operations, ¬ operation.IsEvaluation) :
    (lexer.performAll operations).forest = some forest := by
  induction operations generalizing lexer with
  | nil =>
      exact kept
  | cons operation rest ih =>
      rw [List.forall_mem_cons] at others
      rcases spent.perform_of_not_isEvaluation kept others.1 with ⟨spentAfter, keptAfter⟩
      exact ih spentAfter keptAfter others.2

/-! ## Every state of a session -/

theorem Draws.forest_eq
    {trace : Trace} {after : Lexer}
    (draws : lexer.Draws trace after) :
    after.forest = lexer.forest := by
  rcases draws with ⟨_, _⟩
  rfl

/-- A lexer that keeps no forest begins to keep one only at the end of its source. -/
theorem AtBoundary.perform_of_absent
    [Text.CharacterNames]
    (boundary : lexer.AtBoundary)
    (absent : lexer.forest = none)
    (operation : Operation) :
    (lexer.perform operation).lexer.KeepsAtEnd := by
  have keeps : lexer.KeepsAtEnd := by
    intro forest kept
    rw [absent] at kept
    cases kept
  have drawing {trace : Trace} {after : Lexer} (draws : lexer.Draws trace after) :
      after.KeepsAtEnd := by
    intro forest kept
    rw [draws.forest_eq, absent] at kept
    cases kept
  have grouping : lexer.group.lexer.KeepsAtEnd := by
    cases grouped : lexer.group.result with
    | error fault =>
        rw [(boundary.undone grouped).2.2]
        exact keeps
    | ok forest =>
        intro _ _
        exact (boundary.settled_of_group keeps grouped).1
  cases operation with
  | next =>
      have nexts := boundary.nexts
      simp only [Lexer.perform]
      generalize lexer.next = step at nexts ⊢
      cases nexts with
      | finished draws silent atEnd =>
          exact drawing draws
      | token draws drawn onwards =>
          exact drawing draws
      | refused draws silent =>
          exact drawing draws
  | take count =>
      exact drawing (boundary.take_draws count).1
  | tokens =>
      exact drawing (boundary.take_draws _).1
  | addPattern rule =>
      rw [perform_addPattern]
      intro forest kept
      exact (keeps forest kept).of_eq rfl rfl
  | addPair pair =>
      rw [perform_addPair]
      intro forest kept
      exact (keeps forest kept).of_eq rfl rfl
  | group =>
      exact grouping
  | evaluate standing given state =>
      have ends := lexer.evaluates standing given state
      simp only [Lexer.perform]
      generalize lexer.evaluate standing given state = evaluation at ends ⊢
      cases ends with
      | missing absent =>
          exact keeps
      | ungrouped offered failed =>
          exact grouping
      | unusable offered grouped unresolved =>
          exact grouping
      | evaluated offered grouped resolved =>
          intro _ _
          exact (boundary.settled_of_group keeps grouped).1.of_eq rfl rfl
  | dispatch candidate state =>
      simp only [Lexer.perform, evaluateTokens]
      cases candidate.resolve with
      | error error =>
          exact keeps
      | ok handler =>
          exact drawing (boundary.evaluateDrawn_draws handler _ state)

theorem AtBoundary.perform_keepsAtEnd
    [Text.CharacterNames]
    (boundary : lexer.AtBoundary)
    (keeps : lexer.KeepsAtEnd)
    (operation : Operation) :
    (lexer.perform operation).lexer.KeepsAtEnd := by
  cases kept : lexer.forest with
  | none =>
      exact boundary.perform_of_absent kept operation
  | some forest =>
      have settled : lexer.Settled forest := ⟨keeps forest kept, forest, kept, rfl⟩
      intro _ _
      exact (settled.perform operation).spent

theorem AtBoundary.performAll_keepsAtEnd
    [Text.CharacterNames]
    (boundary : lexer.AtBoundary)
    (keeps : lexer.KeepsAtEnd)
    (operations : List Operation) :
    (lexer.performAll operations).KeepsAtEnd := by
  induction operations generalizing lexer with
  | nil =>
      exact keeps
  | cons operation rest ih =>
      have further := (boundary.yields operation).atBoundary boundary
      exact ih further (boundary.perform_keepsAtEnd keeps operation)

end Lexer

/--
If grouping succeeds in a state that a session can reach, then in every later state, whatever was
done in between, nothing is left to draw: the next token is none, and so are all tokens that are
left.  A forest is kept, and grouping answers it; its trees are those that were answered first, down
to every child, except for the values at their tops, and without an evaluation in between these are
the same as well.  No operation, whichever comes next, reports a fault of scanning or grouping.
-/
theorem grouped_forest_is_final
    [Text.CharacterNames]
    (source : Text.Source)
    (config : Config)
    (filename : String)
    (operations later : List Operation)
    (forest : List (Tree Token))
    (grouped : (session source config filename operations).lexer.group.result = .ok forest) :
    let last := (session source config filename (operations ++ .group :: later)).lexer
    last.next = { result := .ok none, trace := [], lexer := last } ∧
      last.tokens = { result := { tokens := [] }, trace := [], lexer := last } ∧
      (∀ count, last.take count = { result := { tokens := [] }, trace := [], lexer := last }) ∧
      (∃ roots,
        last.forest = some roots ∧
          last.group = { result := .ok roots, trace := [], lexer := last } ∧
          roots.map Tree.unvalued = forest.map Tree.unvalued ∧
          ((∀ operation ∈ later, ¬ operation.IsEvaluation) → roots = forest)) ∧
      ∀ operation, (last.respond operation).fault? = none := by
  intro last
  have boundary := (sound_session source config filename operations).boundary
  have keeps : (session source config filename operations).lexer.KeepsAtEnd := by
    rw [lexer_session]
    apply (Lexer.atBoundary_ofSource source config filename).performAll_keepsAtEnd
    intro _ kept
    cases kept
  rcases boundary.settled_of_group keeps grouped with ⟨spent, kept⟩
  have reached : last =
      ((session source config filename operations).lexer.group.lexer).performAll later := by
    show (session source config filename (operations ++ .group :: later)).lexer = _
    rw [lexer_session, lexer_session, Lexer.performAll, List.foldl_append]
    rfl
  have settled : last.Settled forest := by
    rw [reached]
    exact Lexer.Settled.performAll ⟨spent, forest, kept, rfl⟩ later
  rcases settled with ⟨spentLast, roots, keptLast, same⟩
  refine ⟨spentLast.next_eq, spentLast.tokens_eq, spentLast.take_eq, ?_, ?_⟩
  · refine ⟨roots, keptLast, Lexer.group_of_kept keptLast, same, ?_⟩
    intro others
    have unchanged := spent.performAll_forest kept others
    rw [← reached, keptLast] at unchanged
    exact Option.some.inj unchanged
  · exact spentLast.fault?_respond keptLast

/-- A source with a group behind a token. -/
def groupedSource : Text.Source :=
  { text := "+(-)".toList }

/-- The forest of its group. -/
def groupedForest : List (Tree Token) := [
  .node { kind := literalKind, lexeme := "(", line := 1, start := 1, stop := 2 } [
    .leaf { kind := literalKind, lexeme := "-", line := 1, start := 2, stop := 3 },
    .leaf { kind := literalKind, lexeme := ")", line := 1, start := 3, stop := 4 }]]

open scoped Text.CharacterNames

theorem grouped_forest_is_final_paired :
    let later : List Operation := [
      .addPair { kind := literalKind, opener := "-", closer := "+" },
      .evaluate none (some recorder) []]
    (session groupedSource Config.standard "<input>" [.next]).lexer.group.result =
        .ok groupedForest ∧
      let last :=
        (session groupedSource Config.standard "<input>" ([.next] ++ .group :: later)).lexer
      last.next.result = .ok none ∧
        (∃ roots,
          last.group.result = .ok roots ∧
            roots.map Tree.unvalued = groupedForest.map Tree.unvalued) ∧
        ∀ operation, (last.respond operation).fault? = none := by
  intro later
  have grouped : (session groupedSource Config.standard "<input>" [.next]).lexer.group.result =
      .ok groupedForest := by
    with_unfolding_all rfl
  refine ⟨grouped, ?_⟩
  intro last
  rcases grouped_forest_is_final groupedSource Config.standard "<input>" [.next] later
    groupedForest grouped with ⟨drained, _, _, ⟨roots, _, again, same, _⟩, faultless⟩
  refine ⟨congrArg Step.result drained, ?_, faultless⟩
  exact ⟨roots, congrArg Step.result again, same⟩

end TokenForest
