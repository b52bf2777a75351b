import TokenForest.Config.Extend
import TokenForest.Lexer.Error
import TokenForest.Lexer.Scan
import TokenForest.Precedence
import TokenForest.Trace

/-!
# Lexers

A lexer holds a source, the rules that it goes by, and a cursor.  Its tokens are drawn one by one,
or all at once into a forest.  Rules may be added between tokens.  A forest that was built is kept;
an attempt that fails leaves the lexer as it was.
-/

namespace TokenForest

/-- A source on its way to becoming tokens. -/
structure Lexer where
  source : Text.Source
  filename : String
  rules : ScanRules
  pairs : Pairs
  precedence : PrecedenceTable
  cursor : Cursor := {}
  /-- The forest of the last grouping that succeeded. -/
  forest : Option (List (Tree Token)) := none
  deriving Repr

/-- The outcome of an operation on a lexer, with what it noted and the lexer afterwards. -/
structure Step (Result : Type) where
  result : Result
  trace : Trace
  lexer : Lexer

namespace Lexer

/-- A lexer at the start of a source. -/
def ofSource
    (source : Text.Source)
    (config : Config := Config.standard)
    (filename : String := "<input>") :
    Lexer where
  source := source
  filename := filename
  rules := {
    ignore := config.ignore
    literals := config.literals
    patterns := config.patterns
    strict := config.strict }
  pairs := Pairs.ofList config.pairs
  precedence := PrecedenceTable.ofRules config.precedence

/-- Appends a pattern rule; the rules before it go first. -/
def addPattern
    [Text.CharacterNames]
    (lexer : Lexer)
    (rule : RuleText) :
    Except ConfigFault Lexer := do
  let compiled ← PatternRule.compile rule
  return { lexer with
    rules := { lexer.rules with patterns := lexer.rules.patterns ++ [compiled] } }

/-- Adds a delimiter pair. -/
def addPair (lexer : Lexer) (pair : DelimiterPair) : Except ConfigError Lexer := do
  let checked ← DelimiterPair.checked pair
  return { lexer with pairs := lexer.pairs.add checked }

/-- The number of characters after the cursor. -/
def remaining (lexer : Lexer) : Nat := lexer.source.text.length - lexer.cursor.index

/--
Draws the next token; there is none at the end.  An unrecognized character under strict rules leaves
the cursor on that character.
-/
def next (lexer : Lexer) : Step (Except (Fault ScanError) (Option Token)) :=
  let (skips, found) := lexer.rules.scan lexer.source lexer.cursor
  let trace : Trace := skips.map .skipped
  match found with
  | .token token cursor =>
    { result := .ok (some token)
      trace := trace ++ [.drawn token]
      lexer := { lexer with cursor } }
  | .finished cursor => { result := .ok none, trace, lexer := { lexer with cursor } }
  | .unrecognized character cursor =>
    { result := .error (.reported { character, position := lexer.source.positionAt cursor.offset })
      trace
      lexer := { lexer with cursor } }
  | .undecodable error cursor =>
    { result := .error (.broken (.undecodable error)), trace, lexer := { lexer with cursor } }

/-- Tokens that were drawn in a row, and the fault that ended the row, if one did. -/
structure Drawn where
  tokens : List Token
  fault : Option (Fault ScanError) := none

/-- Draws at most the given number of tokens. -/
def take : (count : Nat) → Lexer → Step Drawn
  | 0, lexer => { result := { tokens := [] }, trace := [], lexer }
  | count + 1, lexer =>
    match lexer.next with
    | { result := .error fault, trace, lexer } =>
      { result := { tokens := [], fault := some fault }, trace, lexer }
    | { result := .ok none, trace, lexer } =>
      { result := { tokens := [] }, trace, lexer }
    | { result := .ok (some token), trace, lexer } =>
      let later := take count lexer
      { result := { later.result with tokens := token :: later.result.tokens }
        trace := trace ++ later.trace
        lexer := later.lexer }

/-- Draws all tokens that are left; no token is empty, so the characters left bound their number. -/
def tokens (lexer : Lexer) : Step Drawn := lexer.take (lexer.remaining + 1)

/-- Draws tokens and feeds each to a matcher as soon as it is drawn. -/
def groupInto :
    (count : Nat) → Matcher Token → Lexer →
      Step (Except (Fault GroupError) (List (Tree Token)))
  | 0, matcher, lexer =>
    { result := (matcher.finish lexer.pairs).1.mapError (Fault.map .unbalanced)
      trace := []
      lexer }
  | count + 1, matcher, lexer =>
    match lexer.next with
    | { result := .error fault, trace, lexer } =>
      { result := .error (fault.map .scan), trace, lexer }
    | { result := .ok none, trace, lexer } =>
      { result := (matcher.finish lexer.pairs).1.mapError (Fault.map .unbalanced), trace, lexer }
    | { result := .ok (some token), trace, lexer } =>
      match matcher.feed lexer.pairs token with
      | .error breakdown => { result := .error (.broken breakdown), trace, lexer }
      | .ok fed =>
        let later := groupInto count fed lexer
        { later with
          trace := trace ++ Event.ofDepths matcher.depth fed.depth token ++ later.trace }

/--
The forest of the tokens that are left.  It is kept, and later calls answer it unchanged.  An error
keeps nothing and puts the cursor back; only a breakdown would leave it where it is.
-/
def group (lexer : Lexer) : Step (Except (Fault GroupError) (List (Tree Token))) :=
  match lexer.forest with
  | some forest => { result := .ok forest, trace := [], lexer }
  | none =>
    let pass := groupInto (lexer.remaining + 1) {} lexer
    match pass.result with
    | .ok forest => { pass with lexer := { pass.lexer with forest := some forest } }
    | .error (.reported _) => { pass with lexer := { pass.lexer with cursor := lexer.cursor } }
    | .error (.broken _) => pass

end Lexer

/-- The tokens of a source under a configuration. -/
def tokenize (source : Text.Source) (config : Config) : Except (Fault ScanError) (List Token) :=
  let drawn := (Lexer.ofSource source config).tokens.result
  match drawn.fault with
  | some fault => .error fault
  | none => .ok drawn.tokens

/-- The forest of a source under a configuration. -/
def forest
    (source : Text.Source)
    (config : Config) :
    Except (Fault GroupError) (List (Tree Token)) :=
  (Lexer.ofSource source config).group.result

end TokenForest
