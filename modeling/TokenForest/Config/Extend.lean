import TokenForest.Config.Basic
import TokenForest.Config.Error
import TokenForest.Pattern.Reader

/-!
# Extending configurations

Pattern rules and delimiter pairs are checked one by one before they join a configuration.  The
first that is refused refuses the whole extension.
-/

namespace TokenForest

/-- A pattern rule as it is written. -/
structure RuleText where
  kind : String
  pattern : String
  mode : Pattern.Mode := {}
  deriving DecidableEq, Repr

/-- Reads the pattern of a rule. -/
def PatternRule.compile
    [Text.CharacterNames]
    (rule : RuleText) :
    Except ConfigFault PatternRule :=
  match Pattern.read rule.pattern rule.mode with
  | .ok pattern => .ok { kind := rule.kind, pattern }
  | .error (.malformed error) => .error (.invalid (.badPattern rule.kind error))
  | .error (.excessive excess) => .error (.excessive excess)

/--
Accepts a pair that some token could match: neither lexeme is empty, and literal tokens are single
characters.
-/
def DelimiterPair.checked (pair : DelimiterPair) : Except ConfigError DelimiterPair :=
  if pair.opener.isEmpty || pair.closer.isEmpty then
    .error (.emptyDelimiter pair.kind)
  else if pair.kind = literalKind ∧ (pair.opener.length ≠ 1 ∨ pair.closer.length ≠ 1) then
    .error (.longLiteralDelimiter pair.opener pair.closer)
  else .ok pair

namespace Config

/-- Appends pattern rules in the given order. -/
def withPatterns
    [Text.CharacterNames]
    (config : Config)
    (rules : List RuleText) :
    Except ConfigFault Config := do
  let added ← rules.mapM PatternRule.compile
  return { config with patterns := config.patterns ++ added }

/-- Appends delimiter pairs in the given order. -/
def withPairs
    (config : Config)
    (pairs : List DelimiterPair) :
    Except ConfigError Config := do
  let added ← pairs.mapM DelimiterPair.checked
  return { config with pairs := config.pairs ++ added }

end Config

end TokenForest
