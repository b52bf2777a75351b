import TokenForest.Grouping.Shared
import TokenForest.Lexer.Error

/-!
# Grouping a row of tokens

The tokens of a pass need not lie ready in a list.  They may come one by one from somewhere else, a
lexer for example, which can fail in the middle of the row.  The matcher has then taken the tokens
before the fault, and nobody finishes it.
-/

namespace TokenForest

/-- Tokens of a roster that come one after another, and the fault that ends the row, if one does. -/
structure Row where
  numbers : List Nat
  fault : Option (Fault ScanError) := none

/-- The outcome of a whole pass over a row. -/
structure Row.Pass where
  result : Except (Fault GroupError) (List (Tree Token))
  roster : Roster
  matcher : Matcher Member

/--
Feeds the tokens of a row to a matcher and finishes it at the end of the row.  If a token has no
lexeme or the row ends in a fault, the pass stops there, and what the matcher has taken stays in it.
-/
def Roster.groupRow
    (pairs : Pairs)
    (roster : Roster)
    (matcher : Matcher Member)
    (row : Row) :
    Row.Pass :=
  let fed := roster.feedAll pairs matcher row.numbers
  let stop (fault : Fault GroupError) : Row.Pass :=
    { result := .error fault, roster := fed.roster, matcher := fed.matcher }
  match fed.error, row.fault with
  | some breakdown, _ => stop (.broken breakdown)
  | none, some fault => stop (fault.map .scan)
  | none, none =>
    let pass := fed.roster.finish pairs fed.matcher
    { result := pass.result.mapError (Fault.map .unbalanced)
      roster := pass.roster
      matcher := pass.matcher }

end TokenForest
