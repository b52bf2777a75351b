import TokenForest.Excess
import TokenForest.Text.Quoted

/-!
# Faults of TOML documents

What can be wrong with a document, where, and how it is reported.  A document that goes beyond a
limit of its reader is not wrong, so there is no place and no report for that.
-/

namespace TokenForest.Toml

/-- A dotted key: the names on the way from the root of the document. -/
abbrev Path := List String

/-- A dotted key as the reports show it. -/
def Path.text (path : Path) : String :=
  match path.map Text.Quoted.ofString with
  | [name] => "(" ++ name ++ ",)"
  | names => "(" ++ ", ".intercalate names ++ ")"

/-- What is wrong with a document. -/
inductive Flaw where
  | badStatement
  | badKeyStart
  | missingEquals
  | badValue
  | unclosedArray
  | unclosedInlineTable
  | duplicateKey (key : String)
  | overwrittenValue
  | declaredTwice (path : Path)
  | redefinedNamespace (path : Path)
  | immutableNamespace (path : Path)
  | unclosedTableHeader
  | unclosedArrayHeader
  | trailingText
  | illegalCharacter (character : Char)
  | invalidCharacter (character : Char)
  | unterminatedString
  | strayBackslash
  | badHexadecimal
  | notScalar
  | missingQuote (quote : String)
  /-- A day that is in no month. -/
  | badMoment
  deriving DecidableEq, Repr

/-- The wording of a flaw. -/
def Flaw.message : Flaw → String
  | .badStatement => "Invalid statement"
  | .badKeyStart => "Invalid initial character for a key part"
  | .missingEquals => "Expected '=' after a key in a key/value pair"
  | .badValue => "Invalid value"
  | .unclosedArray => "Unclosed array"
  | .unclosedInlineTable => "Unclosed inline table"
  | .duplicateKey key => "Duplicate inline table key " ++ Text.Quoted.ofString key
  | .overwrittenValue => "Cannot overwrite a value"
  | .declaredTwice path => "Cannot declare " ++ path.text ++ " twice"
  | .redefinedNamespace path => "Cannot redefine namespace " ++ path.text
  | .immutableNamespace path => "Cannot mutate immutable namespace " ++ path.text
  | .unclosedTableHeader => "Expected ']' at the end of a table declaration"
  | .unclosedArrayHeader => "Expected ']]' at the end of an array declaration"
  | .trailingText => "Expected newline or end of document after a statement"
  | .illegalCharacter character => "Illegal character " ++ Text.Quoted.ofChar character
  | .invalidCharacter character => "Found invalid character " ++ Text.Quoted.ofChar character
  | .unterminatedString => "Unterminated string"
  | .strayBackslash => "Unescaped '\\' in a string"
  | .badHexadecimal => "Invalid hex value"
  | .notScalar => "Escaped character is not a Unicode scalar value"
  | .missingQuote quote => "Expected " ++ Text.Quoted.ofString quote
  | .badMoment => "Invalid date or datetime"

/-- Why reading stops. -/
inductive Trouble where
  | flawed (flaw : Flaw)
  | excessive (excess : Excess)
  deriving DecidableEq, Repr

/-- A flaw with the place where it was noticed, in characters from the start of the document. -/
structure Error where
  flaw : Flaw
  position : Nat
  document : List Char
  deriving DecidableEq, Repr

/-- The place of an error in words: line and column, or the end of the document. -/
def Error.place (error : Error) : String :=
  if error.document.length ≤ error.position then "end of document"
  else
    let head := error.document.take error.position
    let line := head.count '\n' + 1
    let column := (head.reverse.takeWhile (· != '\n')).length + 1
    s!"line {line}, column {column}"

/-- The one-line report of an error. -/
def Error.message (error : Error) : String :=
  error.flaw.message ++ " (at " ++ error.place ++ ")"

/-- Why a document is not read. -/
inductive Fault where
  | malformed (error : Error)
  | excessive (excess : Excess)
  deriving DecidableEq, Repr

end TokenForest.Toml
