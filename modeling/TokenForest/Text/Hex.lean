/-!
# Hexadecimal numerals

Lower-case hexadecimal with a least width, and the reading of one digit in either case.
-/

namespace TokenForest.Text.Hex

/-- The lower-case hexadecimal digits of a number, filled up with zeros to a least width. -/
def digits
    (width number : Nat) : List Char :=
  let shown := Nat.toDigits 16 number
  List.replicate (width - shown.length) '0' ++ shown

/-- The value of a hexadecimal digit, upper or lower case. -/
def value? (character : Char) : Option Nat :=
  if '0' ≤ character ∧ character ≤ '9' then some (character.toNat - '0'.toNat)
  else if 'a' ≤ character ∧ character ≤ 'f' then some (character.toNat - 'a'.toNat + 10)
  else if 'A' ≤ character ∧ character ≤ 'F' then some (character.toNat - 'A'.toNat + 10)
  else none

/-- The number that a run of digits writes in a base, each digit being read by `value?`. -/
def number (base : Nat) (digits : List Char) : Nat :=
  digits.foldl (fun total digit => total * base + (value? digit).getD 0) 0

/-- A numeral is never shorter than the width that was asked for. -/
theorem le_length_digits
    (width number : Nat) :
    width ≤ (digits width number).length := by
  simp only [digits, List.length_append, List.length_replicate]
  omega

end TokenForest.Text.Hex
