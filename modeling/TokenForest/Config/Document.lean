import TokenForest.Config.Extend

/-!
# Configurations from documents

A configuration document is a table.  Its entry `lexer` sets the character sets and strictness, its
entries `pairs` and `patterns` extend the standard settings, and its entry `precedence` replaces
them.  What is absent keeps the standard setting and what is unknown is ignored.
-/

namespace TokenForest.Config

/-- The entries of a configuration document. -/
abbrev Document := List (String × Value)

/-- A text that is present and not empty, named by a key in the report if it is not. -/
def expectText (key : String) : Option Value → Except ConfigFault String
  | some (.text content) =>
    if content.isEmpty then .error (.invalid (.notText key)) else .ok content
  | _ => .error (.invalid (.notText key))

/-- The tables of a list that holds nothing else. -/
def tables? : List Value → Option (List Document)
  | [] => some []
  | .table entries :: rest => (tables? rest).map (entries :: ·)
  | _ => none

/-- The list of tables behind a key, empty if the key is absent. -/
def tables (key : String) : Option Value → Except ConfigFault (List Document)
  | none => .ok []
  | some (.list items) =>
    match tables? items with
    | some found => .ok found
    | none => .error (.invalid (.notTables key))
  | some _ => .error (.invalid (.notTables key))

/-- The kind of an entry, the literal kind if none is given. -/
def kindOf (key : String) (entry : Document) : Except ConfigFault String :=
  match entry.lookup "type" with
  | none => .ok literalKind
  | some given => expectText key (some given)

/-- A character set of the `lexer` table, which keeps the standard one if it is absent. -/
def glyphs
    (key : String)
    (standard : GlyphSet) :
    Option Value → Except ConfigFault GlyphSet
  | none => .ok standard
  | some given => (expectText key (some given)).map GlyphSet.ofText

/-- A delimiter pair of the `pairs` list. -/
def pairOf (entry : Document) : Except ConfigFault DelimiterPair := do
  let kind ← kindOf "pairs.type" entry
  let opener ← expectText "pairs.open" (entry.lookup "open")
  let closer ← expectText "pairs.close" (entry.lookup "close")
  match DelimiterPair.checked { kind, opener, closer } with
  | .ok pair => .ok pair
  | .error error => .error (.invalid error)

/-- A pattern rule of the `patterns` list. -/
def ruleOf [Text.CharacterNames] (entry : Document) : Except ConfigFault PatternRule := do
  let kind ← expectText "patterns.type" (entry.lookup "type")
  let pattern ← expectText "patterns.pattern" (entry.lookup "pattern")
  PatternRule.compile { kind, pattern }

/--
The fault of a value that names no side: the report of it shows the value, if that is written.
-/
def sideFault (given : Value) : ConfigFault :=
  if given.isWritable then .invalid (.badAssociativity given) else .excessive .longNumber

/-- The associativity of an entry, left if none is given. -/
def associativityOf (entry : Document) : Except ConfigFault Associativity :=
  match entry.lookup "assoc" with
  | none => .ok .left
  | some (.text word) =>
    match Associativity.ofWord? word with
    | some associativity => .ok associativity
    | none => .error (sideFault (.text word))
  | some given => .error (sideFault given)

/-- The items of a list that is present and not empty. -/
def lexemesOf : Option Value → Except ConfigFault (List Value)
  | some (.list (first :: rest)) => .ok (first :: rest)
  | _ => .error (.invalid .noLexemes)

/-- A declaration of the `precedence` list. -/
def precedenceOf (entry : Document) : Except ConfigFault PrecedenceRule := do
  let associativity ← associativityOf entry
  let items ← lexemesOf (entry.lookup "lexemes")
  let kind ← kindOf "precedence.type" entry
  let lexemes ← items.mapM fun item => expectText "precedence.lexemes" (some item)
  return { kind, associativity, lexemes }

/-- The `lexer` table of a document, empty if it is absent. -/
def lexerTable : Option Value → Except ConfigFault Document
  | none => .ok []
  | some (.table entries) => .ok entries
  | some _ => .error (.invalid .lexerNotTable)

/-- The strictness that a `lexer` table asks for. -/
def strictOf : Option Value → Except ConfigFault Bool
  | none => .ok Config.standard.strict
  | some (.bool strict) => .ok strict
  | some _ => .error (.invalid .strictNotBoolean)

/-- The declarations of precedence, which keep the standard ones if they are absent. -/
def precedenceRules : Option Value → Except ConfigFault (List PrecedenceRule)
  | none => .ok Config.standard.precedence
  | some given => do
    let entries ← tables "precedence" (some given)
    entries.mapM precedenceOf

/-- The configuration that a document describes. -/
def ofDocument [Text.CharacterNames] (document : Document) : Except ConfigFault Config := do
  let lexer ← lexerTable (document.lookup "lexer")
  let ignore ← glyphs "lexer.ignore" Config.standard.ignore (lexer.lookup "ignore")
  let literals ← glyphs "lexer.literals" Config.standard.literals (lexer.lookup "literals")
  let strict ← strictOf (lexer.lookup "strict")
  let pairEntries ← tables "pairs" (document.lookup "pairs")
  let pairs ← pairEntries.mapM pairOf
  let patternEntries ← tables "patterns" (document.lookup "patterns")
  let patterns ← patternEntries.mapM ruleOf
  let precedence ← precedenceRules (document.lookup "precedence")
  return {
    ignore
    literals
    strict
    pairs := Config.standard.pairs ++ pairs
    patterns
    precedence }

end TokenForest.Config
