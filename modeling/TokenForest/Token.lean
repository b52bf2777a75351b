import TokenForest.Text.Source
import TokenForest.Value

/-!
# Tokens

A token is a stretch of a source with a kind.  It carries the text of the stretch, its first line,
and its ends as byte offsets.  A handler may leave a value on it.
-/

namespace TokenForest

/-- Things that have a kind and a lexeme, which is all that grouping looks at. -/
class Lexical (Item : Type) where
  kind : Item → String
  lexeme : Item → String

/-- A stretch of a source with a kind. -/
structure Token where
  kind : String
  lexeme : String
  line : Nat
  start : Nat
  stop : Nat
  /-- What a handler made of the token. -/
  value : Value := .null
  deriving Repr

instance : Lexical Token where
  kind := Token.kind
  lexeme := Token.lexeme

/-- A stretch that is to become a token, given by its ends alone. -/
structure Stretch where
  kind : String
  line : Nat
  start : Nat
  stop : Nat
  value : Value := .null
  deriving Repr

namespace Token

/-- Cuts a token from a source.  A stretch whose ends cut a character has no lexeme. -/
def cut (source : Text.Source) (stretch : Stretch) : Except Text.Utf8.DecodeError Token :=
  match source.slice stretch.start stretch.stop with
  | .ok text =>
    .ok {
      kind := stretch.kind
      lexeme := String.ofList text
      line := stretch.line
      start := stretch.start
      stop := stretch.stop
      value := stretch.value }
  | .error error => .error error

/-- The column of the start of a token. -/
def column (source : Text.Source) (token : Token) : Nat := source.columnAt token.start

/-- The place of the start of a token. -/
def position (source : Text.Source) (token : Token) : Text.Position :=
  { line := token.line, column := token.column source, offset := token.start }

/-- The places of both ends of a token. -/
def span (source : Text.Source) (token : Token) : Text.Span :=
  { start := token.position source, stop := source.positionAt token.stop }

/-- The token without a value. -/
def reduced (token : Token) : Token := { token with value := .null }

/-- The one-line description of a token in dumps. -/
def description (source : Text.Source) (token : Token) : String :=
  token.kind ++ " " ++ Text.Quoted.ofString token.lexeme ++
    s!" @{token.line}:{token.column source} [{token.start}, {token.stop})"

end Token

end TokenForest
