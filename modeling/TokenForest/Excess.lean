/-!
# Excesses

Some of what can be written goes beyond a limit of the machinery that reads it: a count that no
repetition reaches, or a number with more digits than are read.  This is no fault in what is
written, and no report covers it.
-/

namespace TokenForest

/-- The greatest number of decimal digits in which a number is read or written. -/
def digitLimit : Nat := 4300

/-- What goes beyond a limit. -/
inductive Excess where
  /-- A repeat count beyond the largest one. -/
  | repeatCount
  /-- The ASCII and the Unicode reading are asked for together. -/
  | bothReadings
  /-- A character whose number is beyond that of every code point, and of every machine number. -/
  | codePoint
  /-- A numeral of more decimal digits than are read. -/
  | longNumeral (digits : Nat)
  /-- A number of more decimal digits than are written. -/
  | longNumber
  deriving DecidableEq, Repr

/-- The wording of an excess. -/
def Excess.message : Excess → String
  | .repeatCount => "the repetition number is too large"
  | .bothReadings => "ASCII and UNICODE flags are incompatible"
  | .codePoint => "the number of a character is too large"
  | .longNumeral digits =>
    s!"Exceeds the limit ({digitLimit} digits) for integer string conversion: " ++
      s!"value has {digits} digits; use sys.set_int_max_str_digits() to increase the limit"
  | .longNumber =>
    s!"Exceeds the limit ({digitLimit} digits) for integer string conversion; " ++
      "use sys.set_int_max_str_digits() to increase the limit"

end TokenForest
