import Mathlib.Data.List.TakeWhile
import TokenForest.Command.Run
import TokenForest.Proofs.Config.Loading
import TokenForest.Proofs.Grouping.Outcome

/-!
# Options of a run

The options of a run are put together from the configuration that is loaded, the rules that
arguments write, and the pairs that they name.  This succeeds if and only if each part is
acceptable.  Where nothing is illegible and the configuration is within the limits, everything else
is reported.
-/

namespace TokenForest

namespace Command

variable
    {files : FileTree}
    {arguments : Arguments}
    {config : Config}

/-! ## What arguments say -/

/-- An argument writes a rule: its kind, an equals sign, and its pattern. -/
structure Writes (argument : String) (rule : RuleText) : Prop where
  spelled : argument = rule.kind ++ "=" ++ rule.pattern
  plain : '=' ∉ rule.kind.toList
  kind_ne : rule.kind ≠ ""
  pattern_ne : rule.pattern ≠ ""
  mode_eq : rule.mode = {}

theorem splitAtEquals?_eq_some_iff
    {text : List Char} {kind pattern : String} :
    splitAtEquals? text = some (kind, pattern) ↔
      text = kind.toList ++ '=' :: pattern.toList ∧ '=' ∉ kind.toList := by
  constructor
  · intro split
    have parts := List.takeWhile_append_dropWhile (p := (· ≠ '=')) (l := text)
    have stopped := List.head?_dropWhile_not (· ≠ '=') text
    unfold splitAtEquals? at split
    cases left : text.dropWhile (· ≠ '=') with
    | nil =>
        rw [left] at split
        cases split
    | cons sign value =>
        rw [left] at split stopped parts
        cases split
        obtain rfl : sign = '=' := by
          simpa using stopped
        rw [String.toList_ofList, String.toList_ofList, parts]
        refine ⟨rfl, ?_⟩
        intro member
        have passed := List.mem_takeWhile_imp member
        simp at passed
  · rintro ⟨rfl, plain⟩
    have passed : ∀ character ∈ kind.toList, decide (character ≠ '=') = true := by
      rintro character member
      rw [decide_eq_true_eq]
      rintro rfl
      exact plain member
    rw [splitAtEquals?, List.dropWhile_append_of_pos passed, List.takeWhile_append_of_pos passed]
    simp

theorem rulePart?_eq_some_iff
    {argument : String} {rule : RuleText} :
    rulePart? argument = some rule ↔ Writes argument rule := by
  constructor
  · intro found
    unfold rulePart? at found
    split at found
    · rename_i kind pattern parts
      rcases splitAtEquals?_eq_some_iff.mp parts with ⟨spelled, plain⟩
      split at found
      · cases found
      · rename_i filled
        rw [Bool.or_eq_true, String.isEmpty_iff, String.isEmpty_iff, not_or] at filled
        cases found
        exact {
          spelled := by
            apply String.toList_inj.mp
            rw [spelled]
            simp
          plain
          kind_ne := filled.1
          pattern_ne := filled.2
          mode_eq := rfl }
    · cases found
  · intro writes
    have parts : splitAtEquals? argument.toList = some (rule.kind, rule.pattern) := by
      refine splitAtEquals?_eq_some_iff.mpr ⟨?_, writes.plain⟩
      rw [writes.spelled]
      simp
    have filled : ¬(rule.kind.isEmpty || rule.pattern.isEmpty) = true := by
      rw [Bool.or_eq_true, String.isEmpty_iff, String.isEmpty_iff, not_or]
      exact ⟨writes.kind_ne, writes.pattern_ne⟩
    simp only [rulePart?, parts, if_neg filled]
    rw [← writes.mode_eq]

theorem ruleOfArgument_eq_ok_iff
    {argument : String} {rule : RuleText} :
    ruleOfArgument argument = .ok rule ↔ Writes argument rule := by
  rw [← rulePart?_eq_some_iff, ruleOfArgument]
  cases rulePart? argument with
  | none =>
      simp
  | some other =>
      simp

/-- A pair of literal lexemes is accepted if each of them is a single character. -/
theorem checked_literal_eq_ok_iff
    {opener closer : String} {checked : DelimiterPair} :
    DelimiterPair.checked { kind := literalKind, opener, closer } = .ok checked ↔
      (opener.length = 1 ∧ closer.length = 1) ∧
        { kind := literalKind, opener, closer } = checked := by
  have filled (lexeme : String) (single : lexeme.length = 1) : lexeme.isEmpty = false := by
    rw [Bool.eq_false_iff, ne_eq, String.isEmpty_iff]
    rintro rfl
    cases single
  rw [DelimiterPair.checked]
  by_cases single : opener.length = 1 ∧ closer.length = 1
  · simp [filled opener single.1, filled closer single.2, single.1, single.2]
  · have long : opener.length ≠ 1 ∨ closer.length ≠ 1 := not_and_or.mp single
    simp only [single, false_and, iff_false, long, and_true, if_true]
    split
    · simp
    · simp

/-! ## The configuration of a run -/

/-- The path where a run looks for its configuration. -/
def Arguments.configPath (arguments : Arguments) : Path :=
  Config.location (pathOf? arguments.config) (Path.ofString arguments.input).parent

/-- The pairs that arguments name. -/
def Arguments.literalPairs (arguments : Arguments) : List DelimiterPair :=
  arguments.pairs.map fun (opener, closer) => { kind := literalKind, opener, closer }

/-- The configuration that arguments come to, beginning with the one that is stored. -/
inductive Resolves [Text.CharacterNames] (files : FileTree) (arguments : Arguments) :
    Config → Prop where
  | intro
      {document : Config.Document} {base : Config}
      {texts : List RuleText} {rules : List PatternRule}
      (held : Config.Holds files arguments.configPath document)
      (described : Config.ofDocument document = .ok base)
      (written : List.Forall₂ Writes arguments.patterns texts)
      (compiled : List.Forall₂ (fun text rule => PatternRule.compile text = .ok rule) texts rules)
      (single : ∀ pair ∈ arguments.pairs, pair.1.length = 1 ∧ pair.2.length = 1) :
      Resolves files arguments
        { base with
          patterns := base.patterns ++ rules
          pairs := base.pairs ++ arguments.literalPairs
          strict := base.strict || arguments.strict }

/-- The options of a run with a configuration. -/
def Arguments.options (arguments : Arguments) (config : Config) : Options where
  input := Path.ofString arguments.input
  output := pathOf? arguments.output
  config := config
  flat := arguments.flat
  verbose := arguments.verbose

/-- What a run reads is text, and no pattern of its arguments goes beyond a limit. -/
structure Legible [Text.CharacterNames] (files : FileTree) (arguments : Arguments) : Prop where
  config : Config.IsText files arguments.configPath
  patterns :
    ∀ argument ∈ arguments.patterns,
      ∀ rule, Writes argument rule →
        ∀ excess, Pattern.read rule.pattern ≠ .error (.excessive excess)
  input :
    ∀ config, Resolves files arguments config →
      ∀ content, files.read (Path.ofString arguments.input) = .ok content →
        ∃ text, Text.Utf8.decode content = .ok text

theorem withPatterns_eq_ok_iff
    [Text.CharacterNames]
    (config : Config)
    {texts : List RuleText} {extended : Config} :
    config.withPatterns texts = .ok extended ↔
      ∃ rules,
        List.Forall₂ (fun text rule => PatternRule.compile text = .ok rule) texts rules ∧
          { config with patterns := config.patterns ++ rules } = extended := by
  simp only [← mapM_eq_ok_iff]
  constructor
  · intro accepted
    rcases exists_ok_of_bind accepted with ⟨rules, compiled, together⟩
    cases together
    exact ⟨rules, compiled, rfl⟩
  · rintro ⟨rules, compiled, rfl⟩
    rw [Config.withPatterns, compiled]
    rfl

theorem withPairs_eq_ok_iff
    (config : Config)
    {extended : Config} :
    config.withPairs arguments.literalPairs = .ok extended ↔
      (∀ pair ∈ arguments.pairs, pair.1.length = 1 ∧ pair.2.length = 1) ∧
        { config with pairs := config.pairs ++ arguments.literalPairs } = extended := by
  have checks (added : List DelimiterPair) :
      arguments.literalPairs.mapM DelimiterPair.checked = .ok added ↔
        (∀ pair ∈ arguments.pairs, pair.1.length = 1 ∧ pair.2.length = 1) ∧
          arguments.literalPairs = added := by
    rw [mapM_eq_ok_iff, Arguments.literalPairs, List.forall₂_map_left_iff]
    simp only [checked_literal_eq_ok_iff]
    rw [List.forall₂_and_left, ← List.forall₂_eq_eq_eq, List.forall₂_map_left_iff]
  constructor
  · intro accepted
    rcases exists_ok_of_bind accepted with ⟨added, checked, together⟩
    cases together
    rcases (checks added).mp checked with ⟨single, rfl⟩
    exact ⟨single, rfl⟩
  · rintro ⟨single, rfl⟩
    rw [Config.withPairs, (checks _).mpr ⟨single, rfl⟩]
    rfl

theorem resolve_eq_ok_iff
    [Text.CharacterNames]
    {options : Options} :
    resolve files arguments = .ok options ↔
      ∃ config, Resolves files arguments config ∧ options = arguments.options config := by
  constructor
  · intro succeeded
    rcases exists_ok_of_bind succeeded with ⟨base, loaded, onwards⟩
    rcases exists_ok_of_bind onwards with ⟨texts, written, onwards⟩
    rcases exists_ok_of_bind onwards with ⟨withRules, ruled, onwards⟩
    rcases exists_ok_of_bind onwards with ⟨withPairs, paired, together⟩
    rw [mapError_eq_ok_iff] at loaded ruled paired
    rcases Config.load_eq_ok_iff.mp loaded with ⟨document, held, described⟩
    rcases (withPatterns_eq_ok_iff base).mp ruled with ⟨rules, compiled, rfl⟩
    rcases (withPairs_eq_ok_iff _).mp paired with ⟨single, rfl⟩
    cases together
    refine ⟨_, .intro held described ?_ compiled single, rfl⟩
    simpa only [mapM_eq_ok_iff, ruleOfArgument_eq_ok_iff] using written
  · rintro ⟨_, @⟨document, base, texts, rules, held, described, written, compiled, single⟩, rfl⟩
    have loaded := Config.load_eq_ok_iff.mpr ⟨document, held, described⟩
    have spelled : arguments.patterns.mapM ruleOfArgument = .ok texts := by
      simpa only [mapM_eq_ok_iff, ruleOfArgument_eq_ok_iff] using written
    have ruled := (withPatterns_eq_ok_iff base).mpr ⟨rules, compiled, rfl⟩
    have paired :=
      (withPairs_eq_ok_iff { base with patterns := base.patterns ++ rules }).mpr ⟨single, rfl⟩
    rw [Arguments.literalPairs] at paired
    rw [resolve, loaded]
    simp only [Except.mapError, bind, Except.bind, spelled, ruled]
    rw [paired]
    rfl

/-- A configuration that cannot be loaded ends everything. -/
theorem resolve_of_load_error
    [Text.CharacterNames]
    {fault : Config.LoadFault}
    (failed :
      Config.load files (pathOf? arguments.config) (Path.ofString arguments.input).parent =
        .error fault) :
    resolve files arguments = .error (.ofLoadFault fault) := by
  rw [resolve, failed]
  rfl

end Command

end TokenForest
