import Mathlib.Data.List.Basic
import Mathlib.Data.List.Induction
import TokenForest.Proofs.Lexer.Undoing

/-!
# Registering rules and pairs

Pattern rules and delimiter pairs can be put into a configuration before a lexer is built, or be
registered with the lexer one by one.  Calls that register some rules and some pairs may come in any
order that keeps the rules among themselves and the pairs among themselves in theirs.  What is
refused is refused for itself, so an extension of a configuration fails with what the first refused
call answers; what is accepted goes into the same places either way.
-/

namespace TokenForest

/-! ## All or the first refusal -/

/-- Why there is no result, if there is none. -/
def refusal? {Reason Result : Type} : Except Reason Result → Option Reason
  | .error reason => some reason
  | .ok _ => none

theorem refusal?_eq_some_iff
    {Reason Result : Type} {outcome : Except Reason Result} {reason : Reason} :
    refusal? outcome = some reason ↔ outcome = .error reason := by
  cases outcome with
  | error other =>
      simp [refusal?]
  | ok result =>
      simp [refusal?]

/-- What succeeds in two steps succeeds in the first. -/
theorem exists_ok_of_bind
    {Reason Item Result : Type}
    {outcome : Except Reason Item} {next : Item → Except Reason Result} {result : Result}
    (succeeded : (outcome >>= next) = .ok result) :
    ∃ item, outcome = .ok item ∧ next item = .ok result := by
  cases outcome with
  | error reason =>
      cases succeeded
  | ok item =>
      exact ⟨item, rfl, succeeded⟩

/-- A second step that cannot fail does not change why there is no result. -/
theorem refusal?_bind_pure
    {Reason Item Result : Type}
    (outcome : Except Reason Item)
    (use : Item → Result) :
    refusal? (outcome >>= fun item => pure (use item)) = refusal? outcome := by
  cases outcome with
  | error reason =>
      rfl
  | ok item =>
      rfl

section MapM

variable
    {Item Reason Result : Type}
    (check : Item → Except Reason Result)

theorem refusal?_mapM (items : List Item) :
    refusal? (items.mapM check) = items.findSome? fun item => refusal? (check item) := by
  induction items with
  | nil =>
      rfl
  | cons item rest ih =>
      rw [List.mapM_cons, List.findSome?_cons, ← ih]
      cases check item with
      | error reason =>
          rfl
      | ok result =>
          exact refusal?_bind_pure _ _

/-- Where nothing is refused, the results are those that are accepted one by one. -/
theorem eq_filterMap_of_mapM
    {items : List Item} {results : List Result}
    (accepted : items.mapM check = .ok results) :
    results = items.filterMap fun item => (check item).toOption := by
  induction items generalizing results with
  | nil =>
      cases accepted
      rfl
  | cons item rest ih =>
      rw [List.mapM_cons] at accepted
      rcases exists_ok_of_bind accepted with ⟨result, checked, onwards⟩
      rcases exists_ok_of_bind onwards with ⟨others, later, together⟩
      cases together
      rw [List.filterMap_cons, checked, ih later]
      rfl

/-- All are accepted if each is, with its own result. -/
theorem mapM_eq_ok_iff
    {items : List Item} {results : List Result} :
    items.mapM check = .ok results ↔
      List.Forall₂ (fun item result => check item = .ok result) items results := by
  constructor
  · intro accepted
    induction items generalizing results with
    | nil =>
        cases accepted
        exact .nil
    | cons item rest ih =>
        rw [List.mapM_cons] at accepted
        rcases exists_ok_of_bind accepted with ⟨result, checked, onwards⟩
        rcases exists_ok_of_bind onwards with ⟨others, later, together⟩
        cases together
        exact .cons checked (ih later)
  · intro related
    induction related with
    | nil =>
        rfl
    | cons checked _ ih =>
        rw [List.mapM_cons, checked, ih]
        rfl

end MapM

/-- A pair that is accepted is accepted as it is. -/
theorem DelimiterPair.eq_of_checked
    {pair checked : DelimiterPair}
    (accepted : DelimiterPair.checked pair = .ok checked) :
    checked = pair := by
  unfold DelimiterPair.checked at accepted
  split at accepted
  · cases accepted
  · split at accepted
    · cases accepted
    · cases accepted
      rfl

/-- A rule goes beyond what can be reported if its pattern does. -/
theorem PatternRule.read_of_compile_excessive
    [Text.CharacterNames]
    {text : RuleText} {excess : Excess}
    (refused : PatternRule.compile text = .error (.excessive excess)) :
    Pattern.read text.pattern text.mode = .error (.excessive excess) := by
  unfold PatternRule.compile at refused
  split at refused
  · cases refused
  · cases refused
  · cases refused
    assumption

/-! ## The table of declared pairs -/

/-- The key under which a pair is kept. -/
def DelimiterPair.key (pair : DelimiterPair) : String × String := (pair.kind, pair.opener)

namespace Pairs

theorem ofList_concat
    (pairs : List DelimiterPair)
    (pair : DelimiterPair) :
    ofList (pairs ++ [pair]) = (ofList pairs).add pair := by
  rw [ofList, ofList, List.foldl_append]
  rfl

theorem ofList_append
    (pairs added : List DelimiterPair) :
    ofList (pairs ++ added) = added.foldl add (ofList pairs) := by
  rw [ofList, ofList, List.foldl_append]

/-- Every key stands where it was declared first. -/
theorem map_fst_ofList (pairs : List DelimiterPair) :
    (ofList pairs).map Prod.fst = (pairs.map DelimiterPair.key).eraseDups := by
  induction pairs using List.reverseRecOn with
  | nil =>
      rfl
  | append_singleton pairs pair ih =>
      have put := Entries.map_fst_put pair.key pair.closer (ofList pairs)
      rw [ih] at put
      rw [ofList_concat, List.map_append, List.map_singleton, List.eraseDups_append]
      refine put.trans ?_
      by_cases declared : pair.key ∈ pairs.map DelimiterPair.key
      · have nothing : [pair.key].removeAll (pairs.map DelimiterPair.key) = [] := by
          rw [List.removeAll, List.filter_eq_nil_iff]
          simpa using declared
        rw [nothing, if_pos, List.eraseDups_nil, List.append_nil]
        rw [List.any_beq', List.contains_iff_mem, List.mem_eraseDups]
        exact declared
      · have new : [pair.key].removeAll (pairs.map DelimiterPair.key) = [pair.key] := by
          rw [List.removeAll, List.filter_eq_self]
          simpa using declared
        rw [new, if_neg]
        · rfl
        · rw [List.any_beq', List.contains_iff_mem, List.mem_eraseDups]
          exact declared

/-- The closer of a key is the one that was declared last. -/
theorem lookup_ofList
    (pairs : List DelimiterPair)
    (key : String × String) :
    (ofList pairs).lookup key =
      (pairs.reverse.find? fun pair => pair.key = key).map DelimiterPair.closer := by
  induction pairs using List.reverseRecOn with
  | nil =>
      rfl
  | append_singleton pairs pair ih =>
      rw [ofList_concat, add, List.reverse_concat]
      by_cases same : pair.key = key
      · subst same
        rw [List.find?_cons_of_pos (by simp)]
        exact Entries.lookup_put_self _ _ _
      · rw [List.find?_cons_of_neg (by simpa using same), ← ih]
        exact Entries.lookup_put_of_ne (Ne.symm same) _ _

end Pairs

/-! ## Calls that register -/

/-- Calls that register some rules and some pairs, each of them in their order. -/
inductive Registers : List RuleText → List DelimiterPair → List Operation → Prop where
  | nil :
      Registers [] [] []
  | rule
      {rules : List RuleText} {pairs : List DelimiterPair} {calls : List Operation}
      (rule : RuleText)
      (rest : Registers rules pairs calls) :
      Registers (rule :: rules) pairs (.addPattern rule :: calls)
  | pair
      {rules : List RuleText} {pairs : List DelimiterPair} {calls : List Operation}
      (pair : DelimiterPair)
      (rest : Registers rules pairs calls) :
      Registers rules (pair :: pairs) (.addPair pair :: calls)

namespace Response

/-- Why a rule is refused, if the response refuses one. -/
def ruleRefusal? : Response → Option ConfigFault
  | .pattern refusal => refusal
  | _ => none

/-- Why a pair is refused, if the response refuses one. -/
def pairRefusal? : Response → Option ConfigError
  | .pair refusal => refusal
  | _ => none

end Response

namespace Lexer

variable {lexer : Lexer}

theorem respond_addPattern [Text.CharacterNames] (rule : RuleText) :
    lexer.respond (.addPattern rule) = .pattern (refusal? (PatternRule.compile rule)) := by
  rw [respond, addPattern]
  cases PatternRule.compile rule with
  | error fault =>
      rfl
  | ok compiled =>
      rfl

theorem respond_addPair [Text.CharacterNames] (pair : DelimiterPair) :
    lexer.respond (.addPair pair) = .pair (refusal? (DelimiterPair.checked pair)) := by
  rw [respond, addPair]
  cases DelimiterPair.checked pair with
  | error error =>
      rfl
  | ok checked =>
      rfl

theorem extended_extended
    (patterns laterPatterns : List PatternRule)
    (pairs laterPairs : List DelimiterPair) :
    (lexer.extended patterns pairs).extended laterPatterns laterPairs =
      lexer.extended (patterns ++ laterPatterns) (pairs ++ laterPairs) := by
  simp only [extended, List.append_assoc, List.foldl_append]

/-- A call that is refused changes nothing. -/
theorem perform_eq_self_of_refusal
    [Text.CharacterNames]
    {call : Operation}
    (refused :
      (lexer.respond call).ruleRefusal? ≠ none ∨ (lexer.respond call).pairRefusal? ≠ none) :
    (lexer.perform call).lexer = lexer := by
  cases call with
  | addPattern rule =>
      rw [respond_addPattern] at refused
      rw [perform, addPattern]
      cases compiled : PatternRule.compile rule with
      | error fault =>
          rfl
      | ok accepted =>
          simp [compiled, Response.ruleRefusal?, Response.pairRefusal?, refusal?] at refused
  | addPair pair =>
      rw [respond_addPair] at refused
      rw [perform, addPair]
      cases checked : DelimiterPair.checked pair with
      | error error =>
          rfl
      | ok accepted =>
          simp [checked, Response.ruleRefusal?, Response.pairRefusal?, refusal?] at refused
  | _ =>
      simp [respond, Response.ruleRefusal?, Response.pairRefusal?] at refused

end Lexer

namespace Registers

variable
    {rules : List RuleText}
    {pairs : List DelimiterPair}
    {calls : List Operation}

/-- Whatever their order, the calls add the rules and the pairs that are accepted. -/
theorem performAll_eq
    [Text.CharacterNames]
    (registers : Registers rules pairs calls)
    (lexer : Lexer) :
    lexer.performAll calls =
      lexer.extended
        (rules.filterMap fun rule => (PatternRule.compile rule).toOption)
        (pairs.filterMap fun pair => (DelimiterPair.checked pair).toOption) := by
  induction registers generalizing lexer with
  | nil =>
      simp [Lexer.performAll, Lexer.extended]
  | rule rule rest ih =>
      rw [Lexer.performAll, List.foldl_cons, ← Lexer.performAll, ih, Lexer.perform_addPattern,
        Lexer.extended_extended, List.nil_append, List.filterMap_cons]
      cases PatternRule.compile rule with
      | error fault =>
          rfl
      | ok compiled =>
          rfl
  | pair pair rest ih =>
      rw [Lexer.performAll, List.foldl_cons, ← Lexer.performAll, ih, Lexer.perform_addPair,
        Lexer.extended_extended, List.nil_append, List.filterMap_cons]
      cases DelimiterPair.checked pair with
      | error error =>
          rfl
      | ok checked =>
          rfl

/-- The first rule that a call refuses is the first that is refused at all. -/
theorem ruleRefusal?_responses
    [Text.CharacterNames]
    (registers : Registers rules pairs calls)
    (lexer : Lexer) :
    (lexer.responses calls).findSome? Response.ruleRefusal? =
      rules.findSome? fun rule => refusal? (PatternRule.compile rule) := by
  induction registers generalizing lexer with
  | nil =>
      rfl
  | rule rule rest ih =>
      rw [Lexer.responses, List.findSome?_cons, List.findSome?_cons, ih, Lexer.respond_addPattern]
      rfl
  | pair pair rest ih =>
      rw [Lexer.responses, List.findSome?_cons, ih, Lexer.respond_addPair]
      rfl

/-- The first pair that a call refuses is the first that is refused at all. -/
theorem pairRefusal?_responses
    [Text.CharacterNames]
    (registers : Registers rules pairs calls)
    (lexer : Lexer) :
    (lexer.responses calls).findSome? Response.pairRefusal? =
      pairs.findSome? fun pair => refusal? (DelimiterPair.checked pair) := by
  induction registers generalizing lexer with
  | nil =>
      rfl
  | rule rule rest ih =>
      rw [Lexer.responses, List.findSome?_cons, ih, Lexer.respond_addPattern]
      rfl
  | pair pair rest ih =>
      rw [Lexer.responses, List.findSome?_cons, List.findSome?_cons, ih, Lexer.respond_addPair]
      rfl

end Registers

/-! ## Configurations and lexers -/

namespace Config

variable {config extended : Config}

theorem refusal?_withPatterns
    [Text.CharacterNames]
    (config : Config)
    (rules : List RuleText) :
    refusal? (config.withPatterns rules) =
      rules.findSome? fun rule => refusal? (PatternRule.compile rule) := by
  rw [← refusal?_mapM, withPatterns, refusal?_bind_pure]

theorem refusal?_withPairs
    (config : Config)
    (pairs : List DelimiterPair) :
    refusal? (config.withPairs pairs) =
      pairs.findSome? fun pair => refusal? (DelimiterPair.checked pair) := by
  rw [← refusal?_mapM, withPairs, refusal?_bind_pure]

theorem eq_of_withPatterns
    [Text.CharacterNames]
    {rules : List RuleText}
    (accepted : config.withPatterns rules = .ok extended) :
    extended =
      { config with
        patterns := config.patterns ++
          rules.filterMap fun rule => (PatternRule.compile rule).toOption } := by
  rcases exists_ok_of_bind accepted with ⟨added, compiled, together⟩
  cases together
  rw [eq_filterMap_of_mapM _ compiled]

theorem eq_of_withPairs
    {pairs : List DelimiterPair}
    (accepted : config.withPairs pairs = .ok extended) :
    extended =
      { config with
        pairs := config.pairs ++
          pairs.filterMap fun pair => (DelimiterPair.checked pair).toOption } := by
  rcases exists_ok_of_bind accepted with ⟨added, checked, together⟩
  cases together
  rw [eq_filterMap_of_mapM _ checked]

end Config

/-- What is accepted of some pairs are these pairs, if none of them is refused. -/
theorem filterMap_checked
    {config extended : Config} {pairs : List DelimiterPair}
    (accepted : config.withPairs pairs = .ok extended) :
    (pairs.filterMap fun pair => (DelimiterPair.checked pair).toOption) = pairs := by
  have unrefused : (pairs.findSome? fun pair => refusal? (DelimiterPair.checked pair)) = none := by
    rw [← config.refusal?_withPairs, accepted]
    rfl
  rw [List.findSome?_eq_none_iff] at unrefused
  have kept : ∀ pair ∈ pairs, (DelimiterPair.checked pair).toOption = some pair := by
    intro pair member
    have passed := unrefused pair member
    cases checked : DelimiterPair.checked pair with
    | error error =>
        rw [checked] at passed
        cases passed
    | ok same =>
        rw [DelimiterPair.eq_of_checked checked]
        rfl
  rw [List.filterMap_congr kept, List.filterMap_some]

/-- A lexer of the extended configuration is the extended lexer of the configuration. -/
theorem Lexer.extended_ofSource
    (source : Text.Source)
    (config : Config)
    (filename : String)
    (patterns : List PatternRule)
    (pairs : List DelimiterPair) :
    (Lexer.ofSource source config filename).extended patterns pairs =
      Lexer.ofSource source
        { config with
          patterns := config.patterns ++ patterns
          pairs := config.pairs ++ pairs }
        filename := by
  simp only [Lexer.extended, Lexer.ofSource, Pairs.ofList_append]

/--
Some rules and some pairs may be registered with a new lexer, by calls in any order that keeps the
rules and the pairs in theirs.  If a configuration can be extended by all of them, the lexer is the
one that the extended configuration gives: it has the same patterns, and the same table of pairs,
where every key stands at the place of its first declaration with the closer of its last.  So it
answers every later sequence of operations alike.  Otherwise the extension fails with what the first
refused call answers, and a call that is refused leaves the lexer as it was.
-/
theorem registering_is_extending
    [Text.CharacterNames]
    (source : Text.Source)
    (config : Config)
    (filename : String)
    (rules : List RuleText)
    (pairs : List DelimiterPair)
    (calls : List Operation)
    (registers : Registers rules pairs calls) :
    let fresh := Lexer.ofSource source config filename
    let lexer := (session source config filename calls).lexer
    (∀ ruled extended,
      config.withPatterns rules = .ok ruled →
        ruled.withPairs pairs = .ok extended →
          lexer = Lexer.ofSource source extended filename ∧
            lexer.rules.patterns = extended.patterns ∧
            lexer.pairs.map Prod.fst =
              ((config.pairs ++ pairs).map DelimiterPair.key).eraseDups ∧
            (∀ kind opener,
              lexer.pairs.closer? kind opener =
                ((config.pairs ++ pairs).reverse.find? fun pair =>
                  pair.key = (kind, opener)).map DelimiterPair.closer) ∧
            ∀ later,
              lexer.responses later =
                (Lexer.ofSource source extended filename).responses later) ∧
      (∀ fault,
        config.withPatterns rules = .error fault ↔
          (fresh.responses calls).findSome? Response.ruleRefusal? = some fault) ∧
      (∀ (ruled : Config) error,
        ruled.withPairs pairs = .error error ↔
          (fresh.responses calls).findSome? Response.pairRefusal? = some error) ∧
      ∀ earlier call later,
        calls = earlier ++ call :: later →
          let before := (session source config filename earlier).lexer
          ((before.respond call).ruleRefusal? ≠ none ∨
              (before.respond call).pairRefusal? ≠ none) →
            (before.perform call).lexer = before := by
  intro fresh lexer
  refine ⟨?_, ?_, ?_, ?_⟩
  · intro ruled extended ruledEq extendedEq
    have declared := filterMap_checked extendedEq
    have same : lexer = Lexer.ofSource source extended filename := by
      rw [Config.eq_of_withPairs extendedEq, Config.eq_of_withPatterns ruledEq]
      show (session source config filename calls).lexer = _
      rw [lexer_session, registers.performAll_eq, Lexer.extended_ofSource]
    have table : lexer.pairs = Pairs.ofList (config.pairs ++ pairs) := by
      rw [same, Config.eq_of_withPairs extendedEq, Config.eq_of_withPatterns ruledEq, declared]
      rfl
    refine ⟨same, ?_, ?_, ?_, ?_⟩
    · rw [same]
      rfl
    · rw [table, Pairs.map_fst_ofList]
    · intro kind opener
      rw [table, Pairs.closer?, Pairs.lookup_ofList]
    · intro later
      rw [same]
  · intro fault
    rw [registers.ruleRefusal?_responses, ← config.refusal?_withPatterns,
      refusal?_eq_some_iff]
  · intro ruled error
    rw [registers.pairRefusal?_responses, ← ruled.refusal?_withPairs,
      refusal?_eq_some_iff]
  · intro earlier call later _ before refused
    exact Lexer.perform_eq_self_of_refusal refused

/-- Rules for words and numbers. -/
def wordRules : List RuleText := [
  { kind := "id", pattern := "[a-z]+" },
  { kind := "num", pattern := "\\d+" }]

/-- Pairs of which the first gives a standard opener another closer. -/
def overridingPairs : List DelimiterPair := [
  { kind := literalKind, opener := "(", closer := "!" },
  { kind := "id", opener := "do", closer := "od" },
  { kind := literalKind, opener := "(", closer := "?" }]

/-- Calls that register them in turn. -/
def mixedCalls : List Operation := [
  .addPair { kind := literalKind, opener := "(", closer := "!" },
  .addPattern { kind := "id", pattern := "[a-z]+" },
  .addPair { kind := "id", opener := "do", closer := "od" },
  .addPair { kind := literalKind, opener := "(", closer := "?" },
  .addPattern { kind := "num", pattern := "\\d+" }]

theorem mixedCalls_register : Registers wordRules overridingPairs mixedCalls :=
  .pair _ (.rule _ (.pair _ (.pair _ (.rule _ .nil))))

open scoped Text.CharacterNames

theorem registering_is_extending_mixed :
    Registers wordRules overridingPairs mixedCalls ∧
      let lexer := (session { text := "do 1 od".toList } Config.standard "<input>" mixedCalls).lexer
      (∃ ruled extended,
        Config.standard.withPatterns wordRules = .ok ruled ∧
          ruled.withPairs overridingPairs = .ok extended ∧
            lexer = Lexer.ofSource { text := "do 1 od".toList } extended "<input>") ∧
        lexer.pairs.map Prod.fst =
          [("lit", "("), ("lit", "\x7b"), ("lit", "["), ("id", "do")] ∧
        lexer.pairs.closer? "lit" "(" = some "?" := by
  refine ⟨mixedCalls_register, ?_⟩
  intro lexer
  have registered := (registering_is_extending { text := "do 1 od".toList } Config.standard
    "<input>" wordRules overridingPairs mixedCalls mixedCalls_register).1
  have compiles : (Config.standard.withPatterns wordRules).isOk = true := by
    decide +kernel
  cases ruledEq : Config.standard.withPatterns wordRules with
  | error fault =>
      rw [ruledEq] at compiles
      cases compiles
  | ok ruled =>
      have extendedEq : ruled.withPairs overridingPairs =
          .ok { ruled with pairs := ruled.pairs ++ overridingPairs } := rfl
      rcases registered ruled _ ruledEq extendedEq with ⟨same, _, keys, closers, _⟩
      refine ⟨⟨ruled, _, rfl, extendedEq, same⟩, ?_, ?_⟩
      · exact keys.trans (by decide +kernel)
      · exact (closers "lit" "(").trans (by decide +kernel)

end TokenForest
