import TokenForest.Text.Ranges

/-!
# White space

The code points of Unicode 14 that count as white space: the separators, and the controls that the
bidirectional classes B, S and WS put beside them.  The ranges are closed and ascending.
-/

namespace TokenForest.Text.Ranges

/-- White space of every script, the four information separators included. -/
def blank : Ranges :=
  [(0x9, 0xD), (0x1C, 0x20), (0x85, 0x85), (0xA0, 0xA0), (0x1680, 0x1680), (0x2000, 0x200A),
    (0x2028, 0x2029), (0x202F, 0x202F), (0x205F, 0x205F), (0x3000, 0x3000)]

end TokenForest.Text.Ranges
