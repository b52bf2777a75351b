/-!
# Names of characters

A character has a name, and a pattern may ask for a character by its name.  The table of all names
is too large to be held here, so whoever reads a pattern brings one.  What is proved of reading
holds whichever table it is.
-/

namespace TokenForest.Text

/--
A table of names: the code point of the one character that a name stands for, if there is one.
-/
class CharacterNames where
  code? : String → Option Nat

namespace CharacterNames

/-- Names of punctuation and other symbols. -/
def symbols : List (String × Nat) :=
  [("SPACE", 0x20), ("EXCLAMATION MARK", 0x21), ("QUOTATION MARK", 0x22),
    ("NUMBER SIGN", 0x23), ("DOLLAR SIGN", 0x24), ("PERCENT SIGN", 0x25), ("AMPERSAND", 0x26),
    ("APOSTROPHE", 0x27), ("LEFT PARENTHESIS", 0x28), ("RIGHT PARENTHESIS", 0x29),
    ("ASTERISK", 0x2A), ("PLUS SIGN", 0x2B), ("COMMA", 0x2C), ("HYPHEN-MINUS", 0x2D),
    ("FULL STOP", 0x2E), ("SOLIDUS", 0x2F), ("COLON", 0x3A), ("SEMICOLON", 0x3B),
    ("LESS-THAN SIGN", 0x3C), ("EQUALS SIGN", 0x3D), ("GREATER-THAN SIGN", 0x3E),
    ("QUESTION MARK", 0x3F), ("COMMERCIAL AT", 0x40), ("LEFT SQUARE BRACKET", 0x5B),
    ("REVERSE SOLIDUS", 0x5C), ("RIGHT SQUARE BRACKET", 0x5D), ("CIRCUMFLEX ACCENT", 0x5E),
    ("LOW LINE", 0x5F), ("GRAVE ACCENT", 0x60), ("LEFT CURLY BRACKET", 0x7B),
    ("VERTICAL LINE", 0x7C), ("RIGHT CURLY BRACKET", 0x7D), ("TILDE", 0x7E),
    ("NO-BREAK SPACE", 0xA0), ("SECTION SIGN", 0xA7),
    ("LEFT-POINTING DOUBLE ANGLE QUOTATION MARK", 0xAB), ("NOT SIGN", 0xAC),
    ("DEGREE SIGN", 0xB0), ("PLUS-MINUS SIGN", 0xB1), ("MICRO SIGN", 0xB5),
    ("PILCROW SIGN", 0xB6), ("MIDDLE DOT", 0xB7),
    ("RIGHT-POINTING DOUBLE ANGLE QUOTATION MARK", 0xBB), ("MULTIPLICATION SIGN", 0xD7),
    ("DIVISION SIGN", 0xF7), ("HYPHEN", 0x2010), ("NON-BREAKING HYPHEN", 0x2011),
    ("FIGURE DASH", 0x2012), ("EN DASH", 0x2013), ("EM DASH", 0x2014),
    ("HORIZONTAL BAR", 0x2015), ("LEFT SINGLE QUOTATION MARK", 0x2018),
    ("RIGHT SINGLE QUOTATION MARK", 0x2019), ("LEFT DOUBLE QUOTATION MARK", 0x201C),
    ("RIGHT DOUBLE QUOTATION MARK", 0x201D), ("DAGGER", 0x2020), ("BULLET", 0x2022),
    ("HORIZONTAL ELLIPSIS", 0x2026), ("PER MILLE SIGN", 0x2030), ("EURO SIGN", 0x20AC),
    ("LEFTWARDS ARROW", 0x2190), ("UPWARDS ARROW", 0x2191), ("RIGHTWARDS ARROW", 0x2192),
    ("DOWNWARDS ARROW", 0x2193), ("FOR ALL", 0x2200), ("THERE EXISTS", 0x2203),
    ("ELEMENT OF", 0x2208), ("MINUS SIGN", 0x2212), ("INFINITY", 0x221E),
    ("NOT EQUAL TO", 0x2260), ("LESS-THAN OR EQUAL TO", 0x2264),
    ("GREATER-THAN OR EQUAL TO", 0x2265)]

/-- Names of the ASCII letters and digits. -/
def alphanumerics : List (String × Nat) :=
  let letters := "ABCDEFGHIJKLMNOPQRSTUVWXYZ".toList
  let digits := ["ZERO", "ONE", "TWO", "THREE", "FOUR", "FIVE", "SIX", "SEVEN", "EIGHT", "NINE"]
  letters.map (fun letter =>
      ("LATIN CAPITAL LETTER " ++ String.singleton letter, letter.toNat)) ++
    letters.map (fun letter =>
      ("LATIN SMALL LETTER " ++ String.singleton letter, letter.toNat + 0x20)) ++
    digits.mapIdx fun value digit => ("DIGIT " ++ digit, 0x30 + value)

/-- A small table, which knows common characters.  Case does not matter in a name. -/
scoped instance common : CharacterNames where
  code? name := (symbols ++ alphanumerics).lookup name.toUpper

end CharacterNames

end TokenForest.Text
