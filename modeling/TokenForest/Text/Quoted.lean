import TokenForest.Text.Hex
import TokenForest.Text.Ranges.Printable

/-!
# Quoted text

Messages, traces and token descriptions show text between quotes on one line.  The quote is an
apostrophe unless the text holds an apostrophe and no double quote.  The quote in use, the backslash
and everything unprintable are escaped, the unprintable by the shortest of three hexadecimal forms.
Text is quoted as a list of code points, so a report about a surrogate can show it too.
-/

namespace TokenForest.Text.Quoted

/-- The hexadecimal escape of a code point: two, four or eight digits, whichever suffice first. -/
def hexEscape (code : Nat) : List Char :=
  if code < 0x100 then '\\' :: 'x' :: Hex.digits 2 code
  else if code < 0x10000 then '\\' :: 'u' :: Hex.digits 4 code
  else '\\' :: 'U' :: Hex.digits 8 code

/-- How a code point is written between quotes of the given kind. -/
def escape (quote : Char) (code : Nat) : List Char :=
  if code = quote.toNat ∨ code = '\\'.toNat then ['\\', Char.ofNat code]
  else if code = '\n'.toNat then ['\\', 'n']
  else if code = '\r'.toNat then ['\\', 'r']
  else if code = '\t'.toNat then ['\\', 't']
  else if Ranges.printable.covers code then [Char.ofNat code]
  else hexEscape code

/-- The quote chosen for a text. -/
def quoteFor (codes : List Nat) : Char :=
  if codes.contains '\''.toNat && !codes.contains '"'.toNat then '"' else '\''

/-- A run of code points between quotes. -/
def ofCodePoints (codes : List Nat) : String :=
  let quote := quoteFor codes
  String.ofList (quote :: codes.flatMap (escape quote) ++ [quote])

/-- A text between quotes. -/
def ofString (text : String) : String :=
  ofCodePoints (text.toList.map Char.toNat)

/-- A character between quotes. -/
def ofChar (character : Char) : String :=
  ofCodePoints [character.toNat]

end TokenForest.Text.Quoted
