import TokenForest.Text.Ranges.Blank
import TokenForest.Text.Ranges.Letter
import TokenForest.Text.Ranges.Name
import TokenForest.Text.Ranges.Number

/-!
# Character classes of patterns

The three named classes of patterns, digits, white space and word characters, each in a Unicode and
in an ASCII reading, and the characters of which the names of groups are made.
-/

namespace TokenForest.Pattern

open Text (Ranges)

/-- The named classes of characters. -/
inductive CharClass where
  | digit
  | space
  | word
  deriving DecidableEq, Repr

/-- ASCII letters and digits. -/
def isAsciiAlphanumeric (code : Nat) : Bool :=
  (0x30 ≤ code && code ≤ 0x39) || (0x41 ≤ code && code ≤ 0x5A) || (0x61 ≤ code && code ≤ 0x7A)

/-- Whether a code point belongs to a class, in the ASCII reading or in the Unicode reading. -/
def CharClass.covers (ascii : Bool) (code : Nat) : CharClass → Bool
  | .digit =>
    if ascii then 0x30 ≤ code && code ≤ 0x39 else Ranges.decimal.covers code
  | .space =>
    if ascii then code == 0x20 || (0x09 ≤ code && code ≤ 0x0D) else Ranges.blank.covers code
  | .word =>
    code == '_'.toNat || isAsciiAlphanumeric code ||
      (!ascii && (Ranges.letter.covers code || Ranges.numeral.covers code))

/-- Whether a character may begin a group name. -/
def beginsName (character : Char) : Bool :=
  let code := character.toNat
  Ranges.nameStart.covers code || Ranges.letter.covers code && !Ranges.letterInside.covers code

/-- Whether a character may continue a group name. -/
def continuesName (character : Char) : Bool :=
  beginsName character || Ranges.decimal.covers character.toNat ||
    Ranges.nameInside.covers character.toNat

/-- Whether a text is a group name. -/
def isName : List Char → Bool
  | [] => false
  | first :: rest => beginsName first && rest.all continuesName

/-- The value of a decimal digit of any script. -/
def digitValue? (character : Char) : Option Nat :=
  (Ranges.decimal.find? fun range =>
    range.1 ≤ character.toNat && character.toNat ≤ range.2).map fun range =>
      (character.toNat - range.1) % 10

end TokenForest.Pattern
