import TokenForest.Text.Quoted
import TokenForest.Text.Utf8

/-!
# Faults

An operation that answers nothing either reports an error about what it was given, or it breaks
down: its own state does not fit together.  Breakdowns are kept apart so that it can be stated, and
proved, that none of them ever happens.
-/

namespace TokenForest

/-- A failure of the machinery itself. -/
inductive Breakdown where
  /-- A stretch of a source is cut where no character ends. -/
  | undecodable (error : Text.Utf8.DecodeError)
  /-- A group is open, but no tree is built that it could be. -/
  | noTree
  /-- A group is open whose opener no pair has. -/
  | noPair (kind lexeme : String)
  deriving DecidableEq, Repr

/-- The one-line report of a breakdown. -/
def Breakdown.message : Breakdown → String
  | .undecodable error => error.message
  | .noTree => "list index out of range"
  | .noPair kind lexeme =>
    "(" ++ Text.Quoted.ofString kind ++ ", " ++ Text.Quoted.ofString lexeme ++ ")"

/-- Why an operation answers nothing. -/
inductive Fault (Error : Type) where
  | reported (error : Error)
  | broken (breakdown : Breakdown)
  deriving DecidableEq, Repr

/-- The fault with its error in another form. -/
def Fault.map {Error Other : Type} (change : Error → Other) : Fault Error → Fault Other
  | .reported error => .reported (change error)
  | .broken breakdown => .broken breakdown

end TokenForest
