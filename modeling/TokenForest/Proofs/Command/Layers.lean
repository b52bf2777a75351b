import TokenForest.Proofs.Command.Misconfiguration
import TokenForest.Proofs.Command.Spelling

/-!
# The layers of a configuration

The settings of a run come from three layers: the standard settings, the document of the
configuration, and the command line.  They come together in a way of their own for each kind.  Rules
are appended, the pair that is declared last for its opener counts, strictness is asked for by
either layer, and the rest is replaced by what the document gives.  `Layered` says so of the lexer
that a run makes for its source.
-/

namespace TokenForest

theorem PatternRule.kind_of_compile
    [Text.CharacterNames]
    {text : RuleText} {rule : PatternRule}
    (compiled : PatternRule.compile text = .ok rule) :
    rule.kind = text.kind := by
  unfold PatternRule.compile at compiled
  split at compiled
  · cases compiled
    rfl
  · cases compiled
  · cases compiled

namespace Command

variable
    {files : FileTree}
    {line : List String}
    {input : String}
    {settings : List Setting}
    {document : Config.Document}
    {base : Config}

/-- A rule is the one that an argument writes: its kind stands before the first equals sign. -/
def Adds [Text.CharacterNames] (argument : String) (rule : PatternRule) : Prop :=
  ∃ text, Writes argument text ∧ PatternRule.compile text = .ok rule

/-- The pairs of literal lexemes that settings add. -/
def literalPairs (settings : List Setting) : List DelimiterPair :=
  (settings.flatMap Setting.pairs).map fun (opener, closer) =>
    { kind := literalKind, opener, closer }

/-- All declarations of pairs, in the order of their layers. -/
def declarations (document : Config.Document) (settings : List Setting) : List DelimiterPair :=
  Config.standard.pairs ++ (document.tablesAt "pairs").map Config.Document.pair ++
    literalPairs settings

/-- A lexer goes by a document and settings, each of its parts in its own way. -/
structure Layered
    [Text.CharacterNames]
    (document : Config.Document)
    (settings : List Setting)
    (lexer : Lexer) :
    Prop where
  patterns :
    ∃ own added,
      List.Forall₂ Config.Document.DeclaresRule (document.tablesAt "patterns") own ∧
        List.Forall₂ Adds (settings.flatMap Setting.patterns) added ∧
        lexer.rules.patterns = own ++ added
  closer :
    ∀ kind opener,
      lexer.pairs.closer? kind opener =
        ((declarations document settings).reverse.find? fun pair => pair.key = (kind, opener)).map
          DelimiterPair.closer
  strict :
    lexer.rules.strict = true ↔
      (document.tableAt "lexer").lookup "strict" = some (.bool true) ∨ .strict ∈ settings
  ignore : lexer.rules.ignore = (document.tableAt "lexer").glyphsAt "ignore" Config.standard.ignore
  literals :
    lexer.rules.literals = (document.tableAt "lexer").glyphsAt "literals" Config.standard.literals
  precedence :
    lexer.precedence =
      PrecedenceTable.ofRules
        ((document.lookup "precedence").elim Config.standard.precedence
          fun value => value.tables.map Config.Document.declaration)

theorem exists_rules
    [Text.CharacterNames]
    {written : List String}
    (each : ∀ argument ∈ written, ∃ rule, Adds argument rule) :
    ∃ texts added,
      List.Forall₂ Writes written texts ∧
        List.Forall₂ (fun text rule => PatternRule.compile text = .ok rule) texts added ∧
        List.Forall₂ Adds written added := by
  induction written with
  | nil =>
      exact ⟨[], [], .nil, .nil, .nil⟩
  | cons argument rest ih =>
      rw [List.forall_mem_cons] at each
      rcases each with ⟨⟨rule, text, writes, compiled⟩, later⟩
      rcases ih later with ⟨texts, added, written, all, adds⟩
      exact ⟨text :: texts, rule :: added, .cons writes written, .cons compiled all,
        .cons ⟨text, writes, compiled⟩ adds⟩

/-- The kind that an argument writes, before its first equals sign. -/
def writtenKind (argument : String) : String := (rulePart? argument).elim "" RuleText.kind

theorem Adds.writtenKind_eq
    [Text.CharacterNames]
    {argument : String} {rule : PatternRule}
    (adds : Adds argument rule) :
    writtenKind argument = rule.kind := by
  rcases adds with ⟨text, writes, compiled⟩
  rw [writtenKind, rulePart?_eq_some_iff.mpr writes, PatternRule.kind_of_compile compiled]
  rfl

/-- The kinds of the rules: those of the document, and then those of the command line. -/
theorem Layered.map_kind
    [Text.CharacterNames]
    {lexer : Lexer}
    (layered : Layered document settings lexer) :
    lexer.rules.patterns.map PatternRule.kind =
      (document.tablesAt "patterns").map (fun entry => entry.textAt "type") ++
        (settings.flatMap Setting.patterns).map writtenKind := by
  rcases layered.patterns with ⟨own, added, declares, adds, together⟩
  have ownKinds : own.map PatternRule.kind =
      (document.tablesAt "patterns").map fun entry => entry.textAt "type" := by
    rw [← List.forall₂_eq_eq_eq, List.forall₂_map_left_iff, List.forall₂_map_right_iff]
    exact declares.flip.imp fun _ _ declared => declared.1
  have addedKinds : (settings.flatMap Setting.patterns).map writtenKind =
      added.map PatternRule.kind := by
    rw [← List.forall₂_eq_eq_eq, List.forall₂_map_left_iff, List.forall₂_map_right_iff]
    exact adds.imp fun _ _ added => added.writtenKind_eq
  rw [together, List.map_append, ownKinds, addedKinds]

theorem truth_eq_true_iff
    {value : Value} :
    value.truth = true ↔ value = .bool true := by
  cases value with
  | bool truth =>
      simp [Value.truth]
  | _ =>
      simp [Value.truth]

/-- A document that says nothing of strictness asks for none. -/
theorem strict_iff_of_describes
    [Text.CharacterNames]
    (describes : document.Describes base) :
    base.strict = true ↔ (document.tableAt "lexer").lookup "strict" = some (.bool true) := by
  rw [describes.strict_eq]
  cases (document.tableAt "lexer").lookup "strict" with
  | none =>
      simp [Config.standard]
  | some value =>
      simp [truth_eq_true_iff]

/--
A configuration with the rules, the pairs and the strictness of settings makes a layered lexer.
-/
theorem layered_ofSource
    [Text.CharacterNames]
    {added : List PatternRule}
    (describes : document.Describes base)
    (adds : List.Forall₂ Adds (settings.flatMap Setting.patterns) added)
    (source : Text.Source)
    (name : String) :
    Layered document settings
      (Lexer.ofSource source
        { base with
          patterns := base.patterns ++ added
          pairs := base.pairs ++ literalPairs settings
          strict := base.strict || settings.contains .strict }
        name) where
  patterns := ⟨base.patterns, added, describes.patterns, adds, rfl⟩
  closer := by
    intro kind opener
    rw [declarations, ← describes.pairs_eq]
    exact Pairs.lookup_ofList _ (kind, opener)
  strict := by
    show (base.strict || settings.contains .strict) = true ↔ _
    rw [Bool.or_eq_true, strict_iff_of_describes describes, List.contains_iff_mem]
  ignore := describes.ignore_eq
  literals := describes.literals_eq
  precedence := congrArg PrecedenceTable.ofRules describes.precedence_eq

/--
Where the document of the configuration is accepted, and a command line adds rules and pairs that
are acceptable, in any number and order, the command runs with the input, and the lexer that it
makes for the source goes by the document and the settings of the command line.
-/
theorem command_line_layers_over_document
    [Text.CharacterNames]
    (files : FileTree)
    (line : List String)
    (input : String)
    (settings : List Setting)
    (spells : Line line input settings)
    (document : Config.Document)
    (held : Config.Holds files ({ input : Arguments }.ofSettings settings).configPath document)
    (accepted : ∃ base, Config.ofDocument document = .ok base)
    (rules : ∀ argument ∈ settings.flatMap Setting.patterns, ∃ rule, Adds argument rule)
    (single : ∀ pair ∈ settings.flatMap Setting.pairs, pair.1.length = 1 ∧ pair.2.length = 1) :
    ∃ options,
      run files line = runOptions files options ∧
        options.input = Path.ofString input ∧
        ∀ source,
          Layered document settings (Lexer.ofSource source options.config options.input.text) := by
  rcases accepted with ⟨base, described⟩
  rcases exists_rules rules with ⟨texts, added, written, compiled, adds⟩
  have patterns : ({ input : Arguments }.ofSettings settings).patterns =
      settings.flatMap Setting.patterns := patterns_ofSettings _
  have pairs : ({ input : Arguments }.ofSettings settings).pairs =
      settings.flatMap Setting.pairs := pairs_ofSettings _
  rw [← patterns] at written
  rw [← pairs] at single
  have resolved := Resolves.intro held described written compiled single
  refine ⟨_, run_of_resolves spells.ofList_eq resolved, ?_, ?_⟩
  · show Path.ofString ({ input : Arguments }.ofSettings settings).input = _
    rw [show ({ input : Arguments } : Arguments) = { ({} : Arguments) with input } from rfl,
      ofSettings_input]
  · intro source
    have strict : ({ input : Arguments }.ofSettings settings).strict = settings.contains .strict :=
      (strict_ofSettings _).trans (Bool.false_or _)
    have layered := layered_ofSource (Config.describes_of_ofDocument described) adds source
    rw [← strict, literalPairs, ← pairs] at layered
    exact layered _

/-- A configuration with a pair and a rule. -/
def modestText : List Char :=
  "[[pairs]]\nopen = '<'\nclose = '>'\n[[patterns]]\ntype = 'num'\npattern = '[0-9]+'\n".toList

/-- Rules and pairs around an input, some of which go against the layers below. -/
def modestLine : List String :=
  ["-p", "w=[a-z]=", "--pair", "(", "!", "sum", "--strict", "--pattern=num=x", "-pop=[+]", "--pair",
    "<", "]"]

def modestSettings : List Setting :=
  [.pattern "w=[a-z]=", .pair "(" "!", .strict, .pattern "num=x", .pattern "op=[+]", .pair "<" "]"]

theorem modestLine_spells : Line modestLine "sum" modestSettings := by
  have first : List.Forall₂ Spells [.pattern "w=[a-z]=", .pair "(" "!"]
      [["-p", "w=[a-z]="], ["--pair", "(", "!"]] := by
    refine .cons (.of_name (by decide) ?_) (.cons (.of_name (by decide) ?_) .nil)
    · simp only [Setting.values, List.forall_mem_singleton]
      exact isWord_of_head? (by decide)
    · intro value listed
      exact isWord_of_length_one (by revert value; decide)
  have second : List.Forall₂ Spells [.strict, .pattern "num=x", .pattern "op=[+]", .pair "<" "]"]
      [["--strict"], ["--pattern" ++ "=" ++ "num=x"], ["-p" ++ "op=[+]"],
        ["--pair", "<", "]"]] := by
    refine .cons (.of_name (by decide) (by simp [Setting.values]))
      (.cons (.of_equals (by decide) rfl)
        (.cons (.of_joined (by decide) rfl rfl rfl (by decide))
          (.cons (.of_name (by decide) ?_) .nil)))
    intro value listed
    exact isWord_of_length_one (by revert value; decide)
  exact .intro first (isWord_of_head? (by decide)) second

theorem adds_of_compiles
    [Text.CharacterNames]
    {kind pattern : String}
    (plain : '=' ∉ kind.toList)
    (filled : kind ≠ "" ∧ pattern ≠ "")
    (compiles : (PatternRule.compile { kind, pattern }).isOk = true) :
    ∃ rule, Adds (kind ++ "=" ++ pattern) rule := by
  cases compiled : PatternRule.compile { kind, pattern } with
  | error fault =>
      rw [compiled] at compiles
      cases compiles
  | ok rule =>
      exact ⟨rule, { kind, pattern }, ⟨rfl, plain, filled.1, filled.2, rfl⟩, compiled⟩

open scoped Text.CharacterNames

/-- The pair of this configuration. -/
def angles : DelimiterPair := { kind := "lit", opener := "<", closer := ">" }

theorem exists_modest_document :
    ∃ document : Config.Document,
      Toml.read modestText = .ok document ∧
        (∃ base, Config.ofDocument document = .ok base) ∧
        (document.tablesAt "pairs").map Config.Document.pair = [angles] ∧
        (document.tablesAt "patterns").map (fun entry => entry.textAt "type") = ["num"] := by
  have reads :
      ((Toml.read modestText).toOption.any fun document =>
        (Config.ofDocument document).isOk &&
          (Config.Document.tablesAt document "pairs").map Config.Document.pair = [angles] &&
          (Config.Document.tablesAt document "patterns").map
            (fun entry => Config.Document.textAt entry "type") = ["num"]) = true := by
    decide +kernel
  cases written : Toml.read modestText with
  | error refused =>
      rw [written] at reads
      cases reads
  | ok document =>
      rw [written] at reads
      simp only [Except.toOption, Option.any_some, Bool.and_eq_true, decide_eq_true_eq] at reads
      rcases reads with ⟨⟨read, pairs⟩, kinds⟩
      cases described : Config.ofDocument document with
      | error fault =>
          rw [described] at read
          cases read
      | ok base =>
          exact ⟨document, rfl, ⟨base, described⟩, pairs, kinds⟩

theorem exists_modest_rule :
    ∀ argument ∈ modestSettings.flatMap Setting.patterns, ∃ rule, Adds argument rule := by
  have listed : modestSettings.flatMap Setting.patterns =
      ["w" ++ "=" ++ "[a-z]=", "num" ++ "=" ++ "x", "op" ++ "=" ++ "[+]"] := by
    decide +kernel
  rw [listed, List.forall_mem_cons, List.forall_mem_cons, List.forall_mem_singleton]
  exact ⟨adds_of_compiles (by decide) (by decide) (by decide +kernel),
    adds_of_compiles (by decide) (by decide) (by decide +kernel),
    adds_of_compiles (by decide) (by decide) (by decide +kernel)⟩

theorem command_line_layers_over_document_modest :
    let files := Config.folder (Text.Utf8.encode modestText)
    ∃ options,
      run files modestLine = runOptions files options ∧
        ∀ source,
          let lexer := Lexer.ofSource source options.config options.input.text
          lexer.rules.patterns.map PatternRule.kind = ["num", "w", "num", "op"] ∧
            lexer.pairs.closer? "lit" "(" = some "!" ∧
            lexer.pairs.closer? "lit" "<" = some "]" ∧
            lexer.pairs.closer? "lit" "[" = some "]" ∧
            lexer.pairs.closer? "num" "<" = none ∧
            lexer.rules.strict = true := by
  intro files
  have decoded : Text.Utf8.decode (Text.Utf8.encode modestText) = .ok modestText :=
    Text.Utf8.decode_encode _
  rcases exists_modest_document with ⟨document, written, accepted, pairs, kinds⟩
  rcases
    command_line_layers_over_document files modestLine "sum" modestSettings modestLine_spells
      document (.present (Config.read_folder _) decoded written) accepted exists_modest_rule
      (by decide) with
    ⟨options, ran, _, layered⟩
  refine ⟨options, ran, ?_⟩
  intro source lexer
  have layered : Layered document modestSettings lexer := layered source
  have declared : declarations document modestSettings =
      Config.standard.pairs ++ [angles] ++ literalPairs modestSettings := by
    rw [declarations, pairs]
  refine ⟨?_, ?_, ?_, ?_, ?_, ?_⟩
  · rw [layered.map_kind, kinds]
    decide +kernel
  · rw [layered.closer, declared]
    decide +kernel
  · rw [layered.closer, declared]
    decide +kernel
  · rw [layered.closer, declared]
    decide +kernel
  · rw [layered.closer, declared]
    decide +kernel
  · rw [layered.strict]
    exact .inr (by decide)

end Command

end TokenForest
