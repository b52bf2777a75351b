/-!
# Shifts of code points

A mapping of characters to characters moves whole alphabets by one distance.  It is stored as an
ascending list of such shifts, which do not overlap; what no shift mentions stays where it is.  In
alphabets where both cases alternate, a shift moves every second code point.
-/

namespace TokenForest.Text

/-- Every `stride`-th code point from `first` to `last`, the first of which goes to `image`. -/
structure Shift where
  first : Nat
  last : Nat
  stride : Nat
  image : Nat
  deriving DecidableEq, Repr

/-- Shifts in ascending order. -/
abbrev Shifts := List Shift

namespace Shifts

/-- Where a code point goes. -/
def apply : Shifts → Nat → Nat
  | [], code => code
  | shift :: rest, code =>
    if code < shift.first then code
    else if shift.last < code then apply rest code
    else if (code - shift.first) % shift.stride = 0 then shift.image + (code - shift.first)
    else code

/-- The code points that go to another one, which is given. -/
def sources (shifts : Shifts) (image : Nat) : List Nat :=
  shifts.filterMap fun shift =>
    let distance := image - shift.image
    if shift.image ≤ image ∧ shift.first + distance ≤ shift.last ∧ distance % shift.stride = 0 then
      some (shift.first + distance)
    else none

/-- Whether some code point between two bounds goes to another one. -/
def moves (shifts : Shifts) (low high : Nat) : Bool :=
  shifts.any fun shift =>
    let steps := (low - shift.first + shift.stride - 1) / shift.stride
    let next := shift.first + steps * shift.stride
    next ≤ shift.last && next ≤ high

end Shifts

end TokenForest.Text
