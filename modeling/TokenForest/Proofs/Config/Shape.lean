import TokenForest.Config.Document
import TokenForest.Proofs.Config.Registration

/-!
# The shape of configuration documents

A document has a shape: which keys may be absent, and what has to stand under the others.  What goes
against the shape is an offence.  The offences of a document are listed in the order of its
sections, and within an entry in the order of its parts.  A document has the shape exactly if it has
no offence.
-/

namespace TokenForest

/-! ## Kinds of values -/

namespace Value

/-- Whether a value is a text that is not empty. -/
def isText : Value → Bool
  | .text content => content ≠ ""
  | _ => false

/-- Whether a value is a truth value. -/
def isBool : Value → Bool
  | .bool _ => true
  | _ => false

/-- Whether a value is a table. -/
def isTable : Value → Bool
  | .table _ => true
  | _ => false

/-- Whether a value is a list of tables. -/
def isTables : Value → Bool
  | .list items => items.all isTable
  | _ => false

/-- Whether a value is a list that is not empty. -/
def isFilled : Value → Bool
  | .list items => !items.isEmpty
  | _ => false

/-- Whether a value is the word for a side. -/
def isSide : Value → Bool
  | .text word => word = "left" ∨ word = "right"
  | _ => false

/-- The content of a text. -/
def content : Value → String
  | .text content => content
  | _ => ""

/-- The truth of a truth value. -/
def truth : Value → Bool
  | .bool truth => truth
  | _ => false

/-- The items of a list. -/
def items : Value → List Value
  | .list items => items
  | _ => []

/-- The entries of a table. -/
def entries : Value → Config.Document
  | .table entries => entries
  | _ => []

/-- The entries of each table in a list. -/
def tables (value : Value) : List Config.Document := value.items.map entries

end Value

namespace Config.Document

/-! ## The shape -/

/-- A key is absent, or its value has a property. -/
def Optional (document : Document) (key : String) (property : Value → Prop) : Prop :=
  ∀ value, document.lookup key = some value → property value

/-- A key is present, and its value has a property. -/
def Required (document : Document) (key : String) (property : Value → Prop) : Prop :=
  ∃ value, document.lookup key = some value ∧ property value

/-- The text under a key, or another one where the key is absent. -/
def textAt (document : Document) (key : String) (absent : String := "") : String :=
  (document.lookup key).elim absent Value.content

/-- The table under a key, which is empty where the key is absent. -/
def tableAt (document : Document) (key : String) : Document :=
  (document.lookup key).elim [] Value.entries

/-- The tables in the list under a key, none where the key is absent. -/
def tablesAt (document : Document) (key : String) : List Document :=
  (document.lookup key).elim [] Value.tables

/-- The shape of the `lexer` table. -/
structure LexerShape (table : Document) : Prop where
  ignore : table.Optional "ignore" (·.isText)
  literals : table.Optional "literals" (·.isText)
  strict : table.Optional "strict" (·.isBool)

/-- The shape of an entry of `pairs`: where it is about literal tokens, both ends are characters. -/
structure PairShape (entry : Document) : Prop where
  kind : entry.Optional "type" (·.isText)
  opener : entry.Required "open" (·.isText)
  closer : entry.Required "close" (·.isText)
  single :
    entry.textAt "type" literalKind = literalKind →
      (entry.textAt "open").length = 1 ∧ (entry.textAt "close").length = 1

/-- The shape of an entry of `patterns`. -/
structure RuleShape [Text.CharacterNames] (entry : Document) : Prop where
  kind : entry.Required "type" (·.isText)
  written : entry.Required "pattern" (·.isText)
  readable : ∃ pattern, Pattern.read (entry.textAt "pattern") = .ok pattern

/-- The shape of an entry of `precedence`. -/
structure PrecedenceShape (entry : Document) : Prop where
  associativity : entry.Optional "assoc" (·.isSide)
  lexemes :
    entry.Required "lexemes" fun value => value.isFilled ∧ ∀ item ∈ value.items, item.isText
  kind : entry.Optional "type" (·.isText)

/-- The shape of a document.  A key that is not named here may hold anything. -/
structure Shape [Text.CharacterNames] (document : Document) : Prop where
  lexer : document.Optional "lexer" fun value => value.isTable ∧ LexerShape value.entries
  pairs :
    document.Optional "pairs" fun value =>
      value.isTables ∧ ∀ entry ∈ value.tables, PairShape entry
  patterns :
    document.Optional "patterns" fun value =>
      value.isTables ∧ ∀ entry ∈ value.tables, RuleShape entry
  precedence :
    document.Optional "precedence" fun value =>
      value.isTables ∧ ∀ entry ∈ value.tables, PrecedenceShape entry

/-! ## Offences against the shape -/

/-- The pair that an entry of `pairs` declares. -/
def pair (entry : Document) : DelimiterPair where
  kind := entry.textAt "type" literalKind
  opener := entry.textAt "open"
  closer := entry.textAt "close"

/-- The rule of an entry of `patterns` as it is written. -/
def ruleText (entry : Document) : RuleText where
  kind := entry.textAt "type"
  pattern := entry.textAt "pattern"

/-- The offence of a condition that does not hold. -/
def offenceUnless (condition : Prop) [Decidable condition] (error : ConfigError) :
    List ConfigFault :=
  if condition then [] else [.invalid error]

/-- The offence of a value that is not right, if there is a value. -/
def optionalOffences
    (document : Document)
    (key : String)
    (right : Value → Bool)
    (error : Value → ConfigError) :
    List ConfigFault :=
  (document.lookup key).elim [] fun value => offenceUnless (right value) (error value)

/-- The offence of a value that is not right, or not there. -/
def requiredOffences
    (document : Document)
    (key : String)
    (right : Value → Bool)
    (error : ConfigError) :
    List ConfigFault :=
  (document.lookup key).elim [.invalid error] fun value => offenceUnless (right value) error

/--
The offences in the parts of an entry, or else those of the whole, which is only looked at where its
parts are right.
-/
def orWhole (parts whole : List ConfigFault) : List ConfigFault :=
  if parts.isEmpty then whole else parts

/-- The offences in the `lexer` table. -/
def lexerOffences (table : Document) : List ConfigFault :=
  table.optionalOffences "ignore" Value.isText (fun _ => .notText "lexer.ignore") ++
    (table.optionalOffences "literals" Value.isText (fun _ => .notText "lexer.literals") ++
      table.optionalOffences "strict" Value.isBool fun _ => .strictNotBoolean)

/-- The offences in an entry of `pairs`. -/
def pairOffences (entry : Document) : List ConfigFault :=
  orWhole
    (entry.optionalOffences "type" Value.isText (fun _ => .notText "pairs.type") ++
      (entry.requiredOffences "open" Value.isText (.notText "pairs.open") ++
        entry.requiredOffences "close" Value.isText (.notText "pairs.close")))
    (offenceUnless
      (entry.pair.kind = literalKind →
        entry.pair.opener.length = 1 ∧ entry.pair.closer.length = 1)
      (.longLiteralDelimiter entry.pair.opener entry.pair.closer))

/-- The offences in an entry of `patterns`. -/
def ruleOffences [Text.CharacterNames] (entry : Document) : List ConfigFault :=
  orWhole
    (entry.requiredOffences "type" Value.isText (.notText "patterns.type") ++
      entry.requiredOffences "pattern" Value.isText (.notText "patterns.pattern"))
    (refusal? (PatternRule.compile entry.ruleText)).toList

/-- The offence of what names no side, if there is anything. -/
def sideOffences (entry : Document) : List ConfigFault :=
  (entry.lookup "assoc").elim [] fun value => if value.isSide then [] else [sideFault value]

/-- The offences in an entry of `precedence`. -/
def precedenceOffences (entry : Document) : List ConfigFault :=
  entry.sideOffences ++
    (entry.requiredOffences "lexemes" Value.isFilled .noLexemes ++
      (entry.optionalOffences "type" Value.isText (fun _ => .notText "precedence.type") ++
        ((entry.lookup "lexemes").elim [] Value.items).flatMap fun item =>
          offenceUnless item.isText (.notText "precedence.lexemes")))

/-- The offences in a section that lists tables. -/
def sectionOffences
    (document : Document)
    (key : String)
    (inside : Document → List ConfigFault) :
    List ConfigFault :=
  orWhole (document.optionalOffences key Value.isTables fun _ => .notTables key)
    ((document.tablesAt key).flatMap inside)

/-- The offences in a document, in the order in which they are met. -/
def offences [Text.CharacterNames] (document : Document) : List ConfigFault :=
  orWhole (document.optionalOffences "lexer" Value.isTable fun _ => .lexerNotTable)
      (document.tableAt "lexer").lexerOffences ++
    (document.sectionOffences "pairs" pairOffences ++
      (document.sectionOffences "patterns" ruleOffences ++
        document.sectionOffences "precedence" precedenceOffences))

/-! ## A document without offences has the shape -/

variable
    {document : Document}
    {key : String}

@[simp]
theorem offenceUnless_eq_nil_iff
    {condition : Prop} [Decidable condition] {error : ConfigError} :
    offenceUnless condition error = [] ↔ condition := by
  simp [offenceUnless]

theorem orWhole_eq_nil_iff {parts whole : List ConfigFault} :
    orWhole parts whole = [] ↔ parts = [] ∧ whole = [] := by
  cases parts with
  | nil =>
      simp [orWhole]
  | cons first rest =>
      simp [orWhole]

theorem optionalOffences_eq_nil_iff
    {right : Value → Bool} {error : Value → ConfigError} :
    document.optionalOffences key right error = [] ↔ document.Optional key (right ·) := by
  rw [optionalOffences, Optional]
  cases document.lookup key with
  | none =>
      simp
  | some value =>
      simp

theorem requiredOffences_eq_nil_iff
    {right : Value → Bool} {error : ConfigError} :
    document.requiredOffences key right error = [] ↔ document.Required key (right ·) := by
  rw [requiredOffences, Required]
  cases document.lookup key with
  | none =>
      simp
  | some value =>
      simp

theorem sideOffences_eq_nil_iff :
    document.sideOffences = [] ↔ document.Optional "assoc" (·.isSide) := by
  rw [sideOffences, Optional]
  cases document.lookup "assoc" with
  | none =>
      simp
  | some value =>
      simp

theorem lexerOffences_eq_nil_iff :
    document.lexerOffences = [] ↔ document.LexerShape := by
  simp only [lexerOffences, List.append_eq_nil_iff, optionalOffences_eq_nil_iff]
  constructor
  · rintro ⟨ignore, literals, strict⟩
    exact ⟨ignore, literals, strict⟩
  · rintro ⟨ignore, literals, strict⟩
    exact ⟨ignore, literals, strict⟩

theorem pairOffences_eq_nil_iff :
    document.pairOffences = [] ↔ document.PairShape := by
  simp only [pairOffences, orWhole_eq_nil_iff, List.append_eq_nil_iff,
    optionalOffences_eq_nil_iff, requiredOffences_eq_nil_iff, offenceUnless_eq_nil_iff]
  constructor
  · rintro ⟨⟨kind, opener, closer⟩, single⟩
    exact ⟨kind, opener, closer, single⟩
  · rintro ⟨kind, opener, closer, single⟩
    exact ⟨⟨kind, opener, closer⟩, single⟩

theorem refusal?_compile_eq_none_iff [Text.CharacterNames] {rule : RuleText} :
    refusal? (PatternRule.compile rule) = none ↔
      ∃ pattern, Pattern.read rule.pattern rule.mode = .ok pattern := by
  unfold PatternRule.compile
  cases Pattern.read rule.pattern rule.mode with
  | ok pattern =>
      simp [refusal?]
  | error fault =>
      cases fault with
      | malformed error =>
          simp [refusal?]
      | excessive excess =>
          simp [refusal?]

theorem ruleOffences_eq_nil_iff [Text.CharacterNames] :
    document.ruleOffences = [] ↔ document.RuleShape := by
  simp only [ruleOffences, orWhole_eq_nil_iff, List.append_eq_nil_iff,
    requiredOffences_eq_nil_iff, Option.toList_eq_nil_iff, refusal?_compile_eq_none_iff]
  constructor
  · rintro ⟨⟨kind, written⟩, readable⟩
    exact ⟨kind, written, readable⟩
  · rintro ⟨kind, written, readable⟩
    exact ⟨⟨kind, written⟩, readable⟩

theorem precedenceOffences_eq_nil_iff :
    document.precedenceOffences = [] ↔ document.PrecedenceShape := by
  simp only [precedenceOffences, List.append_eq_nil_iff, sideOffences_eq_nil_iff,
    optionalOffences_eq_nil_iff, requiredOffences_eq_nil_iff, List.flatMap_eq_nil_iff,
    offenceUnless_eq_nil_iff]
  constructor
  · rintro ⟨associativity, ⟨value, found, filled⟩, kind, texts⟩
    rw [found] at texts
    exact ⟨associativity, ⟨value, found, filled, texts⟩, kind⟩
  · rintro ⟨associativity, ⟨value, found, filled, texts⟩, kind⟩
    rw [found]
    exact ⟨associativity, ⟨value, found, filled⟩, kind, texts⟩

theorem sectionOffences_eq_nil_iff
    {inside : Document → List ConfigFault} {shape : Document → Prop}
    (right : ∀ entry, inside entry = [] ↔ shape entry) :
    document.sectionOffences key inside = [] ↔
      document.Optional key fun value => value.isTables ∧ ∀ entry ∈ value.tables, shape entry := by
  rw [sectionOffences, orWhole_eq_nil_iff, optionalOffences_eq_nil_iff, List.flatMap_eq_nil_iff,
    tablesAt, Optional, Optional]
  cases document.lookup key with
  | none =>
      simp
  | some value =>
      simp [right]

theorem offences_eq_nil_iff [Text.CharacterNames] :
    document.offences = [] ↔ document.Shape := by
  have lexer :
      document.optionalOffences "lexer" Value.isTable (fun _ => .lexerNotTable) = [] ∧
          (document.tableAt "lexer").lexerOffences = [] ↔
        document.Optional "lexer" fun value => value.isTable ∧ LexerShape value.entries := by
    rw [optionalOffences_eq_nil_iff, tableAt, Optional, Optional]
    cases document.lookup "lexer" with
    | none =>
        simp [lexerOffences, optionalOffences]
    | some value =>
        simp [lexerOffences_eq_nil_iff]
  simp only [offences, List.append_eq_nil_iff, orWhole_eq_nil_iff, lexer,
    sectionOffences_eq_nil_iff fun _ => pairOffences_eq_nil_iff,
    sectionOffences_eq_nil_iff fun _ => ruleOffences_eq_nil_iff,
    sectionOffences_eq_nil_iff fun _ => precedenceOffences_eq_nil_iff]
  constructor
  · rintro ⟨lexer, pairs, patterns, precedence⟩
    exact ⟨lexer, pairs, patterns, precedence⟩
  · rintro ⟨lexer, pairs, patterns, precedence⟩
    exact ⟨lexer, pairs, patterns, precedence⟩

end Config.Document

end TokenForest
