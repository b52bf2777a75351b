import TokenForest.Pattern.Basic
import TokenForest.Text.Case

/-!
# Character sets

Whether a character is in a set.  Without regard to case, a set that holds a letter with a case is
asked for the small letter of the character.  Beyond the basic plane only ranges are then compared
with both cases; a single character of a larger set stands for itself.
-/

namespace TokenForest.Pattern

open Text

namespace SetItem

/-- Whether an item holds a character, case being regarded. -/
def covers (ascii : Bool) (code : Nat) : SetItem → Bool
  | .char other => code == other
  | .range low high => low ≤ code && code ≤ high
  | .named members negated => members.covers ascii code != negated

/-- Whether a set with an item is asked for small letters when case is disregarded. -/
def folds (ascii : Bool) : SetItem → Bool
  | .char code => Case.isCased ascii code || Case.planeEnd ≤ Case.lower ascii code
  | .range low high => Case.someCased ascii low high || Case.planeEnd ≤ high
  | .named .. => false

/-- Whether an item holds a character that has a given small letter. -/
def coversSmall (ascii : Bool) (small : Nat) : SetItem → Bool
  | .char code =>
    let other := Case.lower ascii code
    if other < Case.planeEnd then (Case.kin ascii other).contains small else small == code
  | .range low high =>
    let capital := Shifts.upper.apply small
    (Case.mates ascii small).any (fun mate => low ≤ mate && mate ≤ high && mate < Case.planeEnd) ||
      Case.planeEnd ≤ high &&
        (low ≤ small && small ≤ high || low ≤ capital && capital ≤ high)
  | .named members negated => members.covers ascii small != negated

end SetItem

/-- Whether a character is in a set. -/
def setCovers (ignoreCase ascii : Bool) (items : List SetItem) (code : Nat) : Bool :=
  if ignoreCase then
    match items with
    | [.char single] =>
      if Case.isCased ascii single then
        (Case.kin ascii (Case.lower ascii single)).contains (Case.lower ascii code)
      else code == single
    | _ =>
      if items.any (·.folds ascii) then items.any (·.coversSmall ascii (Case.lower ascii code))
      else items.any (·.covers ascii code)
  else items.any (·.covers ascii code)

end TokenForest.Pattern
