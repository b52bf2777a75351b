import TokenForest.Proofs.Config.Registration

/-!
# What a session has registered

A lexer goes by its rules and pairs, and a caller can add to them between any two operations.
Nothing else that a caller does changes them.  After any operations, whatever they answered, a lexer
therefore goes by what it had at first, with the rules and pairs behind it that were accepted since.
Every token was made by the rules that some of the operations had registered by then.
-/

namespace TokenForest

open Text (Source)

variable {State Failure : Type}

namespace Operation

/-- The rules that an operation adds: one, if it is to add one that is accepted. -/
def rulesAdded [Text.CharacterNames] : Operation → List PatternRule
  | .addPattern rule => (PatternRule.compile rule).toOption.toList
  | _ => []

/-- The pairs that an operation adds. -/
def pairsAdded : Operation → List DelimiterPair
  | .addPair pair => (DelimiterPair.checked pair).toOption.toList
  | _ => []

end Operation

/-- The rules that operations add, in their order. -/
def rulesAdded [Text.CharacterNames] (operations : List Operation) : List PatternRule :=
  operations.flatMap Operation.rulesAdded

/-- The pairs that operations add, in their order. -/
def pairsAdded (operations : List Operation) : List DelimiterPair :=
  operations.flatMap Operation.pairsAdded

theorem rulesAdded_cons
    [Text.CharacterNames]
    (operation : Operation)
    (rest : List Operation) :
    rulesAdded (operation :: rest) = operation.rulesAdded ++ rulesAdded rest :=
  List.flatMap_cons

theorem pairsAdded_cons
    (operation : Operation)
    (rest : List Operation) :
    pairsAdded (operation :: rest) = operation.pairsAdded ++ pairsAdded rest :=
  List.flatMap_cons

theorem rulesAdded_append [Text.CharacterNames] (first second : List Operation) :
    rulesAdded (first ++ second) = rulesAdded first ++ rulesAdded second :=
  List.flatMap_append

/-- Calls that register add the rules that are accepted. -/
theorem Registers.rulesAdded_eq
    [Text.CharacterNames]
    {rules : List RuleText} {pairs : List DelimiterPair} {calls : List Operation}
    (registers : Registers rules pairs calls) :
    rulesAdded calls = rules.filterMap fun rule => (PatternRule.compile rule).toOption := by
  induction registers with
  | nil =>
      rfl
  | rule rule rest ih =>
      rw [rulesAdded_cons, ih, List.filterMap_cons, Operation.rulesAdded]
      cases PatternRule.compile rule with
      | error fault =>
          rfl
      | ok compiled =>
          rfl
  | pair pair rest ih =>
      exact (rulesAdded_cons _ _).trans ih

namespace Lexer

variable {lexer : Lexer}

/-- What a lexer goes by. -/
def registry (lexer : Lexer) : ScanRules × Pairs := (lexer.rules, lexer.pairs)

theorem Draws.registry_eq
    {trace : Trace} {after : Lexer}
    (draws : lexer.Draws trace after) :
    after.registry = lexer.registry := by
  rcases draws with ⟨_, _⟩
  rfl

/-- Nothing added leaves a lexer as it is. -/
theorem extended_nil : lexer.extended [] [] = lexer := by
  rw [extended, List.append_nil]
  rfl

theorem registry_extended_congr
    {other : Lexer}
    (same : other.registry = lexer.registry)
    (patterns : List PatternRule)
    (pairs : List DelimiterPair) :
    (other.extended patterns pairs).registry = (lexer.extended patterns pairs).registry := by
  rcases Prod.mk.inj same with ⟨sameRules, samePairs⟩
  rw [registry, registry, extended, extended, sameRules, samePairs]

theorem AtBoundary.registry_next
    (boundary : lexer.AtBoundary) :
    lexer.next.lexer.registry = lexer.registry := by
  have nexts := boundary.nexts
  generalize lexer.next = step at nexts ⊢
  cases nexts with
  | finished draws silent atEnd =>
      exact draws.registry_eq
  | token draws drawn onwards =>
      exact draws.registry_eq
  | refused draws silent =>
      exact draws.registry_eq

theorem AtBoundary.registry_group
    (boundary : lexer.AtBoundary) :
    lexer.group.lexer.registry = lexer.registry := by
  have groups := boundary.groups
  generalize lexer.group = step at groups ⊢
  cases groups with
  | again kept =>
      rfl
  | anew absent draws walked atEnd =>
      exact draws.registry_eq
  | undone absent draws =>
      rfl

theorem AtBoundary.registry_evaluate
    (boundary : lexer.AtBoundary)
    (standing given : Option (Candidate State Failure))
    (state : State) :
    (lexer.evaluate standing given state).lexer.registry = lexer.registry := by
  have ends := lexer.evaluates standing given state
  generalize lexer.evaluate standing given state = evaluation at ends ⊢
  cases ends with
  | missing absent =>
      rfl
  | ungrouped offered failed =>
      exact boundary.registry_group
  | unusable offered grouped unresolved =>
      exact boundary.registry_group
  | evaluated offered grouped resolved =>
      exact boundary.registry_group

theorem AtBoundary.registry_evaluateTokens
    (boundary : lexer.AtBoundary)
    (candidate : Candidate State Failure)
    (state : State) :
    (lexer.evaluateTokens candidate state).lexer.registry = lexer.registry := by
  rw [evaluateTokens]
  cases candidate.resolve with
  | error error =>
      rfl
  | ok handler =>
      exact (boundary.evaluateDrawn_draws handler _ state).registry_eq

/--
An operation adds to what a lexer goes by what it is to add, if that is accepted, and no more.
-/
theorem AtBoundary.registry_perform
    [Text.CharacterNames]
    (boundary : lexer.AtBoundary)
    (operation : Operation) :
    (lexer.perform operation).lexer.registry =
      (lexer.extended operation.rulesAdded operation.pairsAdded).registry := by
  have unchanged : lexer.registry = (lexer.extended [] []).registry :=
    congrArg registry extended_nil.symm
  cases operation with
  | addPattern rule =>
      rw [perform_addPattern]
      rfl
  | addPair pair =>
      rw [perform_addPair]
      rfl
  | next =>
      exact boundary.registry_next.trans unchanged
  | take count =>
      exact (boundary.take_draws count).1.registry_eq.trans unchanged
  | tokens =>
      exact (boundary.take_draws _).1.registry_eq.trans unchanged
  | group =>
      exact boundary.registry_group.trans unchanged
  | evaluate standing given state =>
      exact (boundary.registry_evaluate standing given state).trans unchanged
  | dispatch candidate state =>
      exact (boundary.registry_evaluateTokens candidate state).trans unchanged

theorem AtBoundary.registry_performAll
    [Text.CharacterNames]
    (boundary : lexer.AtBoundary)
    (operations : List Operation) :
    (lexer.performAll operations).registry =
      (lexer.extended (rulesAdded operations) (pairsAdded operations)).registry := by
  induction operations generalizing lexer with
  | nil =>
      exact congrArg registry extended_nil.symm
  | cons operation rest ih =>
      have further := (boundary.yields operation).atBoundary boundary
      rw [rulesAdded_cons, pairsAdded_cons, ← extended_extended,
        ← registry_extended_congr (boundary.registry_perform operation)]
      exact ih further

end Lexer

/-- Every token of an account was made by the rules that some first operations left to the lexer. -/
theorem Account.rules_of_mem_emitted
    [Text.CharacterNames]
    {account : Account} {operations : List Operation} {rules : ScanRules} {token : Token}
    (made : (rules, token) ∈ (account.afterAll operations).emitted) :
    (rules, token) ∈ account.emitted ∨
      ∃ earlier, earlier <+: operations ∧ rules = (account.lexer.performAll earlier).rules := by
  induction operations generalizing account with
  | nil =>
      exact .inl made
  | cons operation rest ih =>
      have madeLater : (rules, token) ∈ ((account.after operation).afterAll rest).emitted := made
      rcases ih madeLater with now | ⟨earlier, first, same⟩
      · rcases List.mem_append.mp now with before | drawn
        · exact .inl before
        · rcases List.mem_map.mp drawn with ⟨_, _, same⟩
          cases same
          exact .inr ⟨[], List.nil_prefix, rfl⟩
      · exact .inr ⟨operation :: earlier, (List.cons_prefix_cons).mpr ⟨rfl, first⟩, same⟩

/-- Every token of a session was made by the rules that the session had registered by then. -/
theorem rules_of_mem_emitted_session
    [Text.CharacterNames]
    {source : Source} {config : Config} {filename : String} {operations : List Operation}
    {rules : ScanRules} {token : Token}
    (made : (rules, token) ∈ (session source config filename operations).emitted) :
    ∃ earlier,
      earlier <+: operations ∧
        rules =
          { ignore := config.ignore
            literals := config.literals
            patterns := config.patterns ++ rulesAdded earlier
            strict := config.strict } := by
  rcases Account.rules_of_mem_emitted made with never | ⟨earlier, first, same⟩
  · cases never
  · have registry := (Lexer.atBoundary_ofSource source config filename).registry_performAll earlier
    exact ⟨earlier, first, same.trans (congrArg Prod.fst registry)⟩

end TokenForest
