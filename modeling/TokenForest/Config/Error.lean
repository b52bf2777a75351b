import TokenForest.Pattern.Fault
import TokenForest.Toml.Error
import TokenForest.Value

/-!
# Faults of configurations

What makes a configuration unacceptable, and how it is reported.  What goes beyond a limit is kept
apart from the faults that are reported as configuration errors.
-/

namespace TokenForest

/-- What is wrong with a configuration. -/
inductive ConfigError where
  | lexerNotTable
  | strictNotBoolean
  /-- A text is missing, empty or no text. -/
  | notText (key : String)
  | notTables (key : String)
  | badAssociativity (given : Value)
  | noLexemes
  | emptyDelimiter (kind : String)
  | longLiteralDelimiter (opener closer : String)
  | badPattern (kind : String) (error : Pattern.FlawAt)
  | badDocument (path : String) (error : Toml.Error)
  deriving Repr

/-- The one-line report of a configuration error. -/
def ConfigError.message : ConfigError → String
  | .lexerNotTable => "[lexer] must be a table"
  | .strictNotBoolean => "lexer.strict must be a boolean"
  | .notText key => key ++ " must be a non-empty string"
  | .notTables key => key ++ " must be an array of tables"
  | .badAssociativity given =>
    "precedence.assoc must be 'left' or 'right', got " ++ given.literal
  | .noLexemes => "precedence.lexemes must be a non-empty array"
  | .emptyDelimiter kind =>
    "delimiter pair for " ++ Text.Quoted.ofString kind ++ " needs a non-empty opener and closer"
  | .longLiteralDelimiter opener closer =>
    "literal delimiter pair " ++ Text.Quoted.ofString opener ++ "/" ++
      Text.Quoted.ofString closer ++ " must be single characters"
  | .badPattern kind error =>
    "invalid pattern for " ++ Text.Quoted.ofString kind ++ ": " ++ error.message
  | .badDocument path error => path ++ ": " ++ error.message

/-- Why no configuration results. -/
inductive ConfigFault where
  | invalid (error : ConfigError)
  | excessive (excess : Excess)
  deriving Repr

end TokenForest
