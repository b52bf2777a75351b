import TokenForest.Proofs.Config.Shape

/-!
# Reading configuration documents

Every part of a document is read into what it stands for, or refused with the first of its offences.
The parts are read one after another, so the first offence in the order of the sections is the one
that counts.  Without an offence the configuration has every part that the document describes, and
the standard settings where the document is silent.
-/

namespace TokenForest

namespace Config

namespace Document

/-! ## What a document describes -/

/-- The associativity that an entry of `precedence` names, left if it names none. -/
def associativity (entry : Document) : Associativity :=
  (entry.lookup "assoc").elim .left fun value => if value.content = "right" then .right else .left

/-- What an entry of `precedence` declares. -/
def declaration (entry : Document) : PrecedenceRule where
  kind := entry.textAt "type" literalKind
  associativity := entry.associativity
  lexemes := ((entry.lookup "lexemes").elim [] Value.items).map Value.content

/-- A rule is the one that an entry of `patterns` declares. -/
def DeclaresRule [Text.CharacterNames] (entry : Document) (rule : PatternRule) : Prop :=
  rule.kind = entry.textAt "type" ∧ Pattern.read (entry.textAt "pattern") = .ok rule.pattern

/-- The characters of the text under a key, or other ones where the key is absent. -/
def glyphsAt (table : Document) (key : String) (absent : GlyphSet) : GlyphSet :=
  (table.lookup key).elim absent fun value => GlyphSet.ofText value.content

/-- The configuration that a document describes, part by part. -/
structure Describes [Text.CharacterNames] (document : Document) (config : Config) : Prop where
  ignore_eq : config.ignore = (document.tableAt "lexer").glyphsAt "ignore" Config.standard.ignore
  literals_eq :
    config.literals = (document.tableAt "lexer").glyphsAt "literals" Config.standard.literals
  strict_eq :
    config.strict =
      ((document.tableAt "lexer").lookup "strict").elim Config.standard.strict Value.truth
  pairs_eq : config.pairs = Config.standard.pairs ++ (document.tablesAt "pairs").map pair
  patterns : List.Forall₂ DeclaresRule (document.tablesAt "patterns") config.patterns
  precedence_eq :
    config.precedence =
      (document.lookup "precedence").elim Config.standard.precedence
        fun value => value.tables.map declaration

/-- No pattern of a document goes beyond a limit. -/
def Moderate [Text.CharacterNames] (document : Document) : Prop :=
  ∀ entry ∈ document.tablesAt "patterns",
    ∀ excess, Pattern.read (entry.textAt "pattern") ≠ .error (.excessive excess)

/-- Whatever stands where a side is to be named can be written in a report. -/
def Writable (document : Document) : Prop :=
  ∀ entry ∈ document.tablesAt "precedence", entry.Optional "assoc" (·.isWritable)

end Document

open Config.Document

/-! ## The first offence is reported -/

/-- An outcome that is a result with a property, or else the first of some offences. -/
inductive Reports {Result : Type} (property : Result → Prop) :
    List ConfigFault → Except ConfigFault Result → Prop where
  | ok
      {result : Result}
      (holds : property result) :
      Reports property [] (.ok result)
  | refused
      (first : ConfigFault)
      (later : List ConfigFault) :
      Reports property (first :: later) (.error first)

namespace Reports

variable
    {Item Result : Type}
    {property : Item → Prop}
    {outcome : Except ConfigFault Item}
    {offences later : List ConfigFault}

theorem weaken
    {weaker : Item → Prop}
    (reports : Reports property offences outcome)
    (implies : ∀ item, property item → weaker item) :
    Reports weaker offences outcome := by
  cases reports with
  | ok holds =>
      exact .ok (implies _ holds)
  | refused first rest =>
      exact .refused first rest

theorem map
    {use : Item → Result} {goal : Result → Prop}
    (reports : Reports property offences outcome)
    (continues : ∀ item, property item → goal (use item)) :
    Reports goal offences (outcome.map use) := by
  cases reports with
  | ok holds =>
      exact .ok (continues _ holds)
  | refused first rest =>
      exact .refused first rest

/-- What comes second adds its offences behind those of the first. -/
theorem bind
    {next : Item → Except ConfigFault Result} {goal : Result → Prop}
    (reports : Reports property offences outcome)
    (continues : ∀ item, property item → Reports goal later (next item)) :
    Reports goal (offences ++ later) (outcome >>= next) := by
  cases reports with
  | ok holds =>
      exact continues _ holds
  | refused first rest =>
      exact .refused first (rest ++ later)

theorem mapM
    {relation : Item → Result → Prop} {items : List Item}
    {check : Item → Except ConfigFault Result} {inside : Item → List ConfigFault}
    (checks : ∀ item, Reports (relation item) (inside item) (check item)) :
    Reports (List.Forall₂ relation items) (items.flatMap inside) (items.mapM check) := by
  induction items with
  | nil =>
      exact .ok .nil
  | cons item rest ih =>
      rw [List.mapM_cons, List.flatMap_cons]
      apply (checks item).bind
      intro result holds
      rw [← List.append_nil (rest.flatMap inside)]
      apply ih.bind
      intro results all
      exact .ok (.cons holds all)

theorem mapM_eq
    {use : Item → Result} {items : List Item}
    {check : Item → Except ConfigFault Result} {inside : Item → List ConfigFault}
    (checks : ∀ item, Reports (use item = ·) (inside item) (check item)) :
    Reports (items.map use = ·) (items.flatMap inside) (items.mapM check) := by
  apply (mapM checks).weaken
  intro results related
  rwa [← List.forall₂_eq_eq_eq, List.forall₂_map_left_iff]

/--
Offences of a whole count behind those of its parts, and do not count if there are any of these.
-/
theorem orWhole
    {parts whole : List ConfigFault}
    (reports : Reports property (parts ++ (whole ++ later)) outcome) :
    Reports property (orWhole parts whole ++ later) outcome := by
  cases parts with
  | nil =>
      exact reports
  | cons first rest =>
      cases reports
      exact .refused first (rest ++ later)

end Reports

/-! ## Parts of a document -/

theorem expectText_reports
    (key : String)
    (value : Value) :
    Reports (fun content => value.content = content ∧ content ≠ "")
      (offenceUnless value.isText (.notText key))
      (expectText key (some value)) := by
  cases value with
  | text content =>
      by_cases empty : content = ""
      · subst empty
        exact .refused _ _
      · simp only [offenceUnless, Value.isText, expectText, ne_eq, empty, not_false_eq_true,
          decide_true, if_true, String.isEmpty_iff, if_false]
        exact .ok ⟨rfl, empty⟩
  | _ =>
      exact .refused _ _

theorem required_reports
    (key : String)
    (entry : Document)
    (name : String) :
    Reports (fun content => entry.textAt name = content ∧ content ≠ "")
      (entry.requiredOffences name Value.isText (.notText key))
      (expectText key (entry.lookup name)) := by
  rw [textAt, requiredOffences]
  cases entry.lookup name with
  | none =>
      exact .refused _ _
  | some value =>
      exact expectText_reports key value

theorem kindOf_reports
    (key : String)
    (entry : Document) :
    Reports (entry.textAt "type" literalKind = ·)
      (entry.optionalOffences "type" Value.isText fun _ => .notText key)
      (kindOf key entry) := by
  rw [textAt, optionalOffences, kindOf]
  cases entry.lookup "type" with
  | none =>
      exact .ok rfl
  | some value =>
      exact (expectText_reports key value).weaken fun _ holds => holds.1

theorem glyphs_reports
    (key : String)
    (standard : GlyphSet)
    (table : Document)
    (name : String) :
    Reports (table.glyphsAt name standard = ·)
      (table.optionalOffences name Value.isText fun _ => .notText key)
      (glyphs key standard (table.lookup name)) := by
  rw [glyphsAt, optionalOffences]
  cases table.lookup name with
  | none =>
      exact .ok rfl
  | some value =>
      apply (expectText_reports key value).map
      rintro content ⟨rfl, _⟩
      rfl

theorem lexerTable_reports (document : Document) :
    Reports (document.tableAt "lexer" = ·)
      (document.optionalOffences "lexer" Value.isTable fun _ => .lexerNotTable)
      (lexerTable (document.lookup "lexer")) := by
  rw [tableAt, optionalOffences]
  cases document.lookup "lexer" with
  | none =>
      exact .ok rfl
  | some value =>
      cases value with
      | table entries =>
          exact .ok rfl
      | _ =>
          exact .refused _ _

theorem strictOf_reports (table : Document) :
    Reports ((table.lookup "strict").elim Config.standard.strict Value.truth = ·)
      (table.optionalOffences "strict" Value.isBool fun _ => .strictNotBoolean)
      (strictOf (table.lookup "strict")) := by
  rw [optionalOffences]
  cases table.lookup "strict" with
  | none =>
      exact .ok rfl
  | some value =>
      cases value with
      | bool truth =>
          exact .ok rfl
      | _ =>
          exact .refused _ _

/-! ## Lists of tables -/

theorem tables?_eq (items : List Value) :
    tables? items =
      if (Value.list items).isTables then some (Value.list items).tables else none := by
  induction items with
  | nil =>
      rfl
  | cons item rest ih =>
      cases item with
      | table entries =>
          have onwards :
              (Value.list (.table entries :: rest)).isTables = (Value.list rest).isTables := rfl
          rw [tables?, ih, onwards, apply_ite (Option.map (entries :: ·))]
          rfl
      | _ =>
          rfl

theorem tables_reports
    (key : String)
    (document : Document) :
    Reports (document.tablesAt key = ·)
      (document.optionalOffences key Value.isTables fun _ => .notTables key)
      (tables key (document.lookup key)) := by
  rw [tablesAt, optionalOffences]
  cases document.lookup key with
  | none =>
      exact .ok rfl
  | some value =>
      cases value with
      | list items =>
          simp only [tables, tables?_eq, Option.elim, offenceUnless]
          by_cases all : (Value.list items).isTables = true
          · simp only [all, if_true]
            exact .ok rfl
          · simp only [all, if_false, Bool.false_eq_true]
            exact .refused _ _
      | _ =>
          exact .refused _ _

/-- A pair of lexemes that are not empty is only refused for being no pair of characters. -/
theorem checked_reports
    {pair : DelimiterPair}
    (opens : pair.opener ≠ "")
    (closes : pair.closer ≠ "") :
    Reports (pair = ·)
      (offenceUnless
        (pair.kind = literalKind → pair.opener.length = 1 ∧ pair.closer.length = 1)
        (.longLiteralDelimiter pair.opener pair.closer))
      (match DelimiterPair.checked pair with
        | .ok pair => .ok pair
        | .error error => .error (.invalid error)) := by
  have nonempty : (pair.opener.isEmpty || pair.closer.isEmpty) = false := by
    simpa using ⟨opens, closes⟩
  have long :
      (pair.kind = literalKind ∧ (pair.opener.length ≠ 1 ∨ pair.closer.length ≠ 1)) ↔
        ¬(pair.kind = literalKind → pair.opener.length = 1 ∧ pair.closer.length = 1) := by
    rw [Classical.not_imp, not_and_or]
  simp only [DelimiterPair.checked, nonempty, Bool.false_eq_true, if_false, long, ite_not,
    offenceUnless]
  split
  · exact .ok rfl
  · exact .refused _ _

theorem pairOf_reports (entry : Document) :
    Reports (entry.pair = ·) entry.pairOffences (pairOf entry) := by
  rw [pairOffences, ← List.append_nil (orWhole _ _)]
  apply Reports.orWhole
  rw [List.append_nil, List.append_assoc, List.append_assoc]
  apply (kindOf_reports "pairs.type" entry).bind
  intro kind kindEq
  apply (required_reports "pairs.open" entry "open").bind
  rintro opener ⟨openerEq, opens⟩
  apply (required_reports "pairs.close" entry "close").bind
  rintro closer ⟨closerEq, closes⟩
  have same : entry.pair = { kind, opener, closer } := by
    rw [pair, kindEq, openerEq, closerEq]
  rw [same]
  exact checked_reports opens closes

theorem ruleOf_reports [Text.CharacterNames] (entry : Document) :
    Reports entry.DeclaresRule entry.ruleOffences (ruleOf entry) := by
  rw [ruleOffences, ← List.append_nil (orWhole _ _)]
  apply Reports.orWhole
  rw [List.append_nil, List.append_assoc]
  apply (required_reports "patterns.type" entry "type").bind
  rintro kind ⟨kindEq, _⟩
  apply (required_reports "patterns.pattern" entry "pattern").bind
  rintro written ⟨writtenEq, _⟩
  rw [ruleText, kindEq, writtenEq]
  cases compiled : PatternRule.compile { kind, pattern := written } with
  | error fault =>
      exact .refused _ _
  | ok rule =>
      refine .ok ?_
      rw [DeclaresRule, kindEq, writtenEq]
      unfold PatternRule.compile at compiled
      split at compiled
      · rename_i pattern readable
        cases compiled
        exact ⟨rfl, readable⟩
      · cases compiled
      · cases compiled

theorem associativityOf_reports (entry : Document) :
    Reports (entry.associativity = ·) entry.sideOffences (associativityOf entry) := by
  rw [associativity, sideOffences, associativityOf]
  cases entry.lookup "assoc" with
  | none =>
      exact .ok rfl
  | some value =>
      cases value with
      | text word =>
          by_cases left : word = "left"
          · subst left
            exact .ok rfl
          · by_cases right : word = "right"
            · subst right
              exact .ok rfl
            · simp only [Option.elim, Value.isSide, left, right, or_false, decide_false,
                Bool.false_eq_true, if_false, Associativity.ofWord?]
              exact .refused _ _
      | _ =>
          exact .refused (sideFault _) []

theorem lexemesOf_reports (entry : Document) :
    Reports ((entry.lookup "lexemes").elim [] Value.items = ·)
      (entry.requiredOffences "lexemes" Value.isFilled .noLexemes)
      (lexemesOf (entry.lookup "lexemes")) := by
  rw [requiredOffences]
  cases entry.lookup "lexemes" with
  | none =>
      exact .refused _ _
  | some value =>
      cases value with
      | list items =>
          cases items with
          | nil =>
              exact .refused _ _
          | cons first rest =>
              exact .ok rfl
      | _ =>
          exact .refused _ _

theorem precedenceOf_reports (entry : Document) :
    Reports (entry.declaration = ·) entry.precedenceOffences (precedenceOf entry) := by
  apply (associativityOf_reports entry).bind
  rintro associativity rfl
  apply (lexemesOf_reports entry).bind
  intro items itemsEq
  apply (kindOf_reports "precedence.type" entry).bind
  rintro kind rfl
  have reads (item : Value) :
      Reports (item.content = ·) (offenceUnless item.isText (.notText "precedence.lexemes"))
        (expectText "precedence.lexemes" (some item)) :=
    (expectText_reports _ item).weaken fun _ holds => holds.1
  rw [itemsEq, ← List.append_nil (items.flatMap _)]
  apply (Reports.mapM_eq reads).bind
  rintro lexemes rfl
  refine .ok ?_
  rw [declaration, itemsEq]

/-! ## The whole document -/

theorem precedenceRules_reports (document : Document) :
    Reports
      ((document.lookup "precedence").elim Config.standard.precedence
        (fun value => value.tables.map declaration) = ·)
      (document.sectionOffences "precedence" precedenceOffences)
      (precedenceRules (document.lookup "precedence")) := by
  have listed := tables_reports "precedence" document
  rw [sectionOffences, ← List.append_nil (orWhole _ _)]
  apply Reports.orWhole
  rw [List.append_nil]
  rw [tablesAt] at listed ⊢
  cases given : document.lookup "precedence" with
  | none =>
      rw [optionalOffences, given]
      exact .ok rfl
  | some value =>
      rw [given] at listed
      apply listed.bind
      rintro entries rfl
      exact Reports.mapM_eq precedenceOf_reports

/-- A document is read into what it describes, or refused with its first offence. -/
theorem ofDocument_reports [Text.CharacterNames] (document : Document) :
    Reports document.Describes document.offences (ofDocument document) := by
  apply Reports.orWhole
  apply (lexerTable_reports document).bind
  rintro lexer rfl
  rw [lexerOffences, List.append_assoc, List.append_assoc]
  apply (glyphs_reports "lexer.ignore" Config.standard.ignore _ "ignore").bind
  intro ignore ignoreEq
  apply (glyphs_reports "lexer.literals" Config.standard.literals _ "literals").bind
  intro literals literalsEq
  apply (strictOf_reports _).bind
  intro strict strictEq
  apply Reports.orWhole
  apply (tables_reports "pairs" document).bind
  rintro _ rfl
  apply (Reports.mapM_eq pairOf_reports).bind
  intro pairs pairsEq
  apply Reports.orWhole
  apply (tables_reports "patterns" document).bind
  rintro _ rfl
  apply (Reports.mapM ruleOf_reports).bind
  intro patterns declared
  rw [← List.append_nil (document.sectionOffences _ _)]
  apply (precedenceRules_reports document).bind
  intro precedence precedenceEq
  refine .ok ?_
  exact {
    ignore_eq := ignoreEq.symm
    literals_eq := literalsEq.symm
    strict_eq := strictEq.symm
    pairs_eq := by rw [pairsEq]
    patterns := declared
    precedence_eq := precedenceEq.symm }

namespace Document

variable
    {document : Document}
    {excess : Excess}

theorem mem_orWhole_iff
    {fault : ConfigFault} {parts whole : List ConfigFault} :
    fault ∈ orWhole parts whole ↔ fault ∈ parts ∨ parts = [] ∧ fault ∈ whole := by
  cases parts with
  | nil =>
      simp [orWhole]
  | cons first rest =>
      simp [orWhole]

theorem excessive_notMem_offenceUnless
    {condition : Prop} [Decidable condition] {error : ConfigError} :
    .excessive excess ∉ offenceUnless condition error := by
  unfold offenceUnless
  split
  · simp
  · simp

theorem excessive_notMem_optionalOffences
    {key : String} {right : Value → Bool} {error : Value → ConfigError} :
    .excessive excess ∉ document.optionalOffences key right error := by
  rw [optionalOffences]
  cases document.lookup key with
  | none =>
      simp
  | some value =>
      exact excessive_notMem_offenceUnless

theorem excessive_notMem_requiredOffences
    {key : String} {right : Value → Bool} {error : ConfigError} :
    .excessive excess ∉ document.requiredOffences key right error := by
  rw [requiredOffences]
  cases document.lookup key with
  | none =>
      simp
  | some value =>
      exact excessive_notMem_offenceUnless

theorem read_of_excessive_mem_ruleOffences
    [Text.CharacterNames]
    (member : .excessive excess ∈ document.ruleOffences) :
    Pattern.read (document.textAt "pattern") = .error (.excessive excess) := by
  simp only [ruleOffences, mem_orWhole_iff, List.mem_append, excessive_notMem_requiredOffences,
    or_false, false_or, Option.mem_toList, refusal?_eq_some_iff] at member
  have excessive := PatternRule.read_of_compile_excessive member.2
  rwa [ruleText] at excessive

/-- What is beyond a limit where a side is to be named is a number too long to be written. -/
theorem of_excessive_mem_sideOffences
    (member : .excessive excess ∈ document.sideOffences) :
    ¬document.Optional "assoc" (·.isWritable) := by
  intro writable
  rw [sideOffences] at member
  cases found : document.lookup "assoc" with
  | none =>
      rw [found] at member
      cases member
  | some value =>
      have shown : sideFault value = .invalid (.badAssociativity value) :=
        if_pos (writable value found)
      rw [found] at member
      simp only [Option.elim, shown] at member
      split at member
      · cases member
      · simp at member

/-- Only a pattern, or what names no side, goes beyond what is reported as an offence. -/
theorem beyond_of_excessive_mem_offences
    [Text.CharacterNames]
    (member : .excessive excess ∈ document.offences) :
    (∃ entry ∈ document.tablesAt "patterns",
        Pattern.read (entry.textAt "pattern") = .error (.excessive excess)) ∨
      ∃ entry ∈ document.tablesAt "precedence", ¬entry.Optional "assoc" (·.isWritable) := by
  simp only [offences, lexerOffences, sectionOffences, pairOffences, precedenceOffences,
    mem_orWhole_iff, List.mem_append, List.mem_flatMap, excessive_notMem_offenceUnless,
    excessive_notMem_optionalOffences, excessive_notMem_requiredOffences, or_false, false_or,
    and_false, exists_false] at member
  rcases member with ⟨_, entry, listed, offence⟩ | ⟨_, entry, listed, offence⟩
  · exact .inl ⟨entry, listed, read_of_excessive_mem_ruleOffences offence⟩
  · exact .inr ⟨entry, listed, of_excessive_mem_sideOffences offence⟩

end Document

/-- A document is refused exactly with the first of its offences. -/
theorem ofDocument_eq_error_iff
    [Text.CharacterNames]
    {document : Document} {fault : ConfigFault} :
    ofDocument document = .error fault ↔ document.offences.head? = some fault := by
  have reports := ofDocument_reports document
  generalize document.offences = offences at reports ⊢
  generalize ofDocument document = outcome at reports ⊢
  cases reports with
  | ok holds =>
      simp
  | refused first later =>
      simp

theorem exists_ofDocument_iff [Text.CharacterNames] (document : Document) :
    (∃ config, ofDocument document = .ok config) ↔ document.Shape := by
  rw [← offences_eq_nil_iff, ← List.head?_eq_none_iff]
  cases read : ofDocument document with
  | ok config =>
      simp only [Except.ok.injEq, exists_eq', true_iff]
      cases first : document.offences.head? with
      | none =>
          rfl
      | some fault =>
          rw [ofDocument_eq_error_iff.mpr first] at read
          cases read
  | error fault =>
      simp [ofDocument_eq_error_iff.mp read]

theorem describes_of_ofDocument
    [Text.CharacterNames]
    {document : Document} {config : Config}
    (read : ofDocument document = .ok config) :
    document.Describes config := by
  have reports := ofDocument_reports document
  rw [read] at reports
  generalize document.offences = offences at reports
  cases reports with
  | ok holds =>
      exact holds

/-- An offence is reported if nothing in the document goes beyond a limit. -/
theorem exists_error_of_mem_offences
    [Text.CharacterNames]
    {document : Document} {fault : ConfigFault}
    (moderate : document.Moderate)
    (writable : document.Writable)
    (member : fault ∈ document.offences) :
    ∃ error, fault = .invalid error := by
  cases fault with
  | invalid error =>
      exact ⟨error, rfl⟩
  | excessive excess =>
      rcases beyond_of_excessive_mem_offences member with
        ⟨entry, declared, excessive⟩ | ⟨entry, declared, unwritable⟩
      · exact absurd excessive (moderate entry declared excess)
      · exact absurd (writable entry declared) unwritable

/--
A document is accepted exactly if it has the shape.  The configuration then has the character sets,
the strictness and the declarations of precedence that are given, or the standard ones; its pairs
are the standard ones followed by the given ones, and its patterns are those that are given, each in
their order.  A document of another shape is refused with its first offence, and that is a report if
no pattern goes beyond a limit and no number that stands for a side is too long to be written.
-/
theorem ofDocument_accepts_documented_shape [Text.CharacterNames] (document : Document) :
    ((∃ config, ofDocument document = .ok config) ↔ document.Shape) ∧
      (∀ config, ofDocument document = .ok config → document.Describes config) ∧
      (¬document.Shape →
        ∃ fault,
          ofDocument document = .error fault ∧
            document.offences.head? = some fault ∧
            (document.Moderate → document.Writable → ∃ error, fault = .invalid error)) := by
  refine ⟨exists_ofDocument_iff document, fun _ => describes_of_ofDocument, ?_⟩
  intro shapeless
  rw [← exists_ofDocument_iff] at shapeless
  cases read : ofDocument document with
  | ok config =>
      exact absurd ⟨config, read⟩ shapeless
  | error fault =>
      have first := ofDocument_eq_error_iff.mp read
      refine ⟨fault, rfl, first, ?_⟩
      intro moderate writable
      exact exists_error_of_mem_offences moderate writable (List.mem_of_mem_head? first)

/-- A document with all sections, and with keys that mean nothing. -/
def fullDocument : Document := [
  ("title", .int 3),
  ("lexer", .table [("ignore", .text " "), ("strict", .bool true), ("lang", .null)]),
  ("pairs", .list [
    .table [("open", .text "<"), ("close", .text ">")],
    .table [("type", .text "kw"), ("open", .text "do"), ("close", .text "end")]]),
  ("patterns", .list [.table [("type", .text "num"), ("pattern", .text "\\d+")]]),
  ("precedence", .list [.table [("assoc", .text "right"), ("lexemes", .list [.text "^"])]])]

/-- A document with an offence in three of its sections. -/
def flawedDocument : Document := [
  ("precedence", .list [.table [("assoc", .list [.text "left"])]]),
  ("patterns", .list [.table [("type", .text "num"), ("pattern", .text "(")]]),
  ("pairs", .list [
    .table [("open", .text "<"), ("close", .text ">")],
    .table [("open", .text "<<"), ("close", .text ">>")]])]

open scoped Text.CharacterNames

theorem ofDocument_accepts_documented_shape_full :
    (∃ config,
        ofDocument fullDocument = .ok config ∧
          config.strict = true ∧
          config.literals = Config.standard.literals ∧
          config.pairs.map DelimiterPair.opener = ["(", "\x7b", "[", "<", "do"] ∧
          config.patterns.length = 1) ∧
      flawedDocument.Moderate ∧
      flawedDocument.Writable ∧
      ¬flawedDocument.Shape ∧
      ofDocument flawedDocument = .error (.invalid (.longLiteralDelimiter "<<" ">>")) := by
  have full := (ofDocument_accepts_documented_shape fullDocument).2.1
  have flawed := ofDocument_accepts_documented_shape flawedDocument
  refine ⟨?_, ?_⟩
  · have accepted : (ofDocument fullDocument).isOk = true := by
      decide +kernel
    cases read : ofDocument fullDocument with
    | error fault =>
        rw [read] at accepted
        cases accepted
    | ok config =>
        have describes := full config read
        refine ⟨config, rfl, ?_, ?_, ?_, ?_⟩
        · exact describes.strict_eq
        · exact describes.literals_eq
        · rw [describes.pairs_eq]
          rfl
        · exact describes.patterns.length_eq.symm
  · have malformed :
        Pattern.read "(" =
          .error (.malformed
            { flaw := .unterminatedGroup, position := some 0, written := ['('] }) := by
      decide +kernel
    have moderate : flawedDocument.Moderate := by
      intro entry listed excess excessive
      rw [List.mem_singleton.mp listed] at excessive
      change Pattern.read "(" = .error (.excessive excess) at excessive
      rw [malformed] at excessive
      cases excessive
    have writable : flawedDocument.Writable := by
      intro entry listed value found
      rw [List.mem_singleton.mp listed] at found
      cases found
      rfl
    have shapeless : ¬flawedDocument.Shape := by
      rw [← flawed.1]
      rintro ⟨config, read⟩
      have refused : (ofDocument flawedDocument).isOk = false := by
        decide +kernel
      rw [read] at refused
      cases refused
    refine ⟨moderate, writable, shapeless, ?_⟩
    rcases flawed.2.2 shapeless with ⟨fault, refused, first, reports⟩
    rcases reports moderate writable with ⟨error, rfl⟩
    cases first
    exact refused

end Config

end TokenForest
