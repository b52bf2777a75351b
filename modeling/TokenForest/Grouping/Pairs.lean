import TokenForest.Config.Basic
import TokenForest.Entries

/-!
# Delimiters

The table of delimiters says which tokens open a group and which lexeme closes it.  It is keyed by
the kind and the lexeme of the opener; a key that is declared again keeps its place and takes the
new closer.
-/

namespace TokenForest

/-- Openers, each given by kind and lexeme, with the lexemes that close their groups. -/
abbrev Pairs := List ((String × String) × String)

namespace Pairs

/-- The lexeme that closes the group of an opener; nothing for what opens no group. -/
def closer? (pairs : Pairs) (kind lexeme : String) : Option String :=
  pairs.lookup (kind, lexeme)

/-- Adds a pair, or gives its opener another closer. -/
def add (pairs : Pairs) (pair : DelimiterPair) : Pairs :=
  Entries.put (pair.kind, pair.opener) pair.closer pairs

/-- The table of some pairs. -/
def ofList (pairs : List DelimiterPair) : Pairs := pairs.foldl add []

/-- The pairs of a table, in the order in which their openers were first declared. -/
def toList (pairs : Pairs) : List DelimiterPair :=
  pairs.map fun entry =>
    { kind := entry.1.1, opener := entry.1.2, closer := entry.2 }

end Pairs

end TokenForest
