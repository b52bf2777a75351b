import TokenForest.Text.Shifts.Lower
import TokenForest.Text.Shifts.Upper

/-!
# Case

Two characters are the same without regard to case if they have the same small letter, or small
letters with the same capital.  In the ASCII reading only the ASCII letters have a case.
-/

namespace TokenForest.Text.Case

/-- The code points of the basic plane come before this one. -/
def planeEnd : Nat := 0x10000

/-- The small letter of a character. -/
def lower (ascii : Bool) (code : Nat) : Nat :=
  if ascii then
    if 0x41 ≤ code && code ≤ 0x5A then code + 0x20 else code
  else Shifts.lower.apply code

/-- Whether some character between two bounds is a letter with a case. -/
def someCased (ascii : Bool) (low high : Nat) : Bool :=
  if ascii then
    (low ≤ 0x5A && 0x41 ≤ high) || (low ≤ 0x7A && 0x61 ≤ high)
  else Shifts.lower.moves low high || Shifts.upper.moves low high

/-- Whether a character is a letter with a case. -/
def isCased (ascii : Bool) (code : Nat) : Bool := someCased ascii code code

/-- Small letters that share their capital with others. -/
def twins : List (List Nat) := [
  [0x69, 0x131], [0x73, 0x17F], [0xB5, 0x3BC], [0x345, 0x3B9, 0x1FBE], [0x390, 0x1FD3],
  [0x3B0, 0x1FE3], [0x3B2, 0x3D0], [0x3B5, 0x3F5], [0x3B8, 0x3D1], [0x3BA, 0x3F0],
  [0x3C0, 0x3D6], [0x3C1, 0x3F1], [0x3C2, 0x3C3], [0x3C6, 0x3D5], [0x432, 0x1C80],
  [0x434, 0x1C81], [0x43E, 0x1C82], [0x441, 0x1C83], [0x442, 0x1C84, 0x1C85], [0x44A, 0x1C86],
  [0x463, 0x1C87], [0x1C88, 0xA64B], [0x1E61, 0x1E9B], [0xFB05, 0xFB06]]

/-- The small letters that have the same capital as a given one, which is among them. -/
def kin (ascii : Bool) (small : Nat) : List Nat :=
  if ascii then [small] else (twins.find? (·.contains small)).getD [small]

/-- The characters whose small letter is a given one. -/
def cases (ascii : Bool) (small : Nat) : List Nat :=
  let others :=
    if ascii then if 0x61 ≤ small && small ≤ 0x7A then [small - 0x20] else []
    else Shifts.lower.sources small
  if lower ascii small = small then small :: others else others

/-- The characters that are the same as a given small letter without regard to case. -/
def mates (ascii : Bool) (small : Nat) : List Nat := (kin ascii small).flatMap (cases ascii)

end TokenForest.Text.Case
