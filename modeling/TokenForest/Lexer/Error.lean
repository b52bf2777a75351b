import TokenForest.Grouping.Matcher
import TokenForest.Text.Source

/-!
# Faults of sources

Scanning under strict rules fails at the first character that nothing recognizes; grouping fails if
a group is open at the end.  Both are shown with an excerpt: a header, a pointer to the place, and
the line of the source with carets under the offender.
-/

namespace TokenForest

open Text (Source)

/-- A message about a stretch of a line. -/
structure Excerpt where
  message : String
  line : Int
  column : Int
  /-- The number of characters to underline. -/
  width : Nat
  deriving DecidableEq, Repr

/--
The text of an excerpt.  At least one caret stands under the line, and no more than reach to its
end.
-/
def Excerpt.render (excerpt : Excerpt) (source : Source) (filename : String) : String :=
  let shown := source.lineText excerpt.line
  let number := toString excerpt.line
  let margin := String.ofList (List.replicate (number.length + 1) ' ')
  let room := (shown.length : Int) - excerpt.column + 1
  let carets := (max 1 (min (excerpt.width : Int) room)).toNat
  "error: " ++ excerpt.message ++ "\n" ++
    margin ++ s!"--> {filename}:{excerpt.line}:{excerpt.column}\n" ++
    margin ++ "|\n" ++
    number ++ " | " ++ String.ofList shown ++ "\n" ++
    margin ++ "| " ++ String.ofList (List.replicate (excerpt.column - 1).toNat ' ') ++
    String.ofList (List.replicate carets '^')

/-- A character that nothing recognizes. -/
structure ScanError where
  character : Char
  position : Text.Position
  deriving DecidableEq, Repr

namespace ScanError

/-- The message of a scan error. -/
def message (error : ScanError) : String :=
  "unrecognized character " ++ Text.Quoted.ofChar error.character

/-- The excerpt of a scan error, with one caret. -/
def excerpt (error : ScanError) : Excerpt :=
  { message := error.message
    line := error.position.line
    column := error.position.column
    width := 1 }

end ScanError

namespace Unbalanced

/-- The message about an opener that is never closed. -/
def message (error : Unbalanced Token) : String :=
  "unclosed " ++ Text.Quoted.ofString error.opener.lexeme ++ " (expected " ++
    Text.Quoted.ofString error.expected ++ ")"

/-- The excerpt of an unclosed opener, with the opener underlined. -/
def excerpt (source : Source) (error : Unbalanced Token) : Excerpt :=
  let position := error.opener.position source
  { message := error.message
    line := position.line
    column := position.column
    width := error.opener.lexeme.length }

end Unbalanced

/-- Why a source has no forest. -/
inductive GroupError where
  | scan (error : ScanError)
  | unbalanced (error : Unbalanced Token)
  deriving Repr

namespace GroupError

/-- The message of an error. -/
def message : GroupError → String
  | .scan error => error.message
  | .unbalanced error => error.message

/-- The place of an error. -/
def position (source : Source) : GroupError → Text.Position
  | .scan error => error.position
  | .unbalanced error => error.opener.position source

/-- The number of characters that an error is about. -/
def width : GroupError → Nat
  | .scan _ => 1
  | .unbalanced error => error.opener.lexeme.length

/-- The error with its excerpt from a source. -/
def render (error : GroupError) (source : Source) (filename : String) : String :=
  match error with
  | .scan error => error.excerpt.render source filename
  | .unbalanced error => (error.excerpt source).render source filename

end GroupError

end TokenForest
