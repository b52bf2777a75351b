import TokenForest.Config.Basic
import TokenForest.Entries

/-!
# Precedence

The table of precedence gives each declared lexeme its associativity and its rank, the index of the
declaration.  Where a lexeme is declared more than once, the last declaration counts.  The table
only informs handlers; grouping does not depend on it.
-/

namespace TokenForest

/-- How a lexeme binds. -/
structure PrecedenceEntry where
  associativity : Associativity
  rank : Nat
  deriving DecidableEq, Repr

/-- Whether an entry associates to the left. -/
def PrecedenceEntry.isLeft (entry : PrecedenceEntry) : Bool := entry.associativity = .left

/-- The declarations of precedence with the table that follows from them. -/
structure PrecedenceTable where
  rules : List PrecedenceRule
  entries : List ((String × String) × PrecedenceEntry)
  deriving DecidableEq, Repr

namespace PrecedenceTable

/-- Enters the lexemes of one declaration under its rank. -/
def declare
    (rank : Nat)
    (rule : PrecedenceRule)
    (entries : List ((String × String) × PrecedenceEntry)) :
    List ((String × String) × PrecedenceEntry) :=
  rule.lexemes.foldl
    (fun entries lexeme =>
      Entries.put (rule.kind, lexeme) { associativity := rule.associativity, rank } entries)
    entries

/-- Enters declarations one after another, the first of them under a given rank. -/
def declareFrom :
    (rank : Nat) → List PrecedenceRule → List ((String × String) × PrecedenceEntry) →
      List ((String × String) × PrecedenceEntry)
  | _, [], entries => entries
  | rank, rule :: rest, entries => declareFrom (rank + 1) rest (declare rank rule entries)

/-- The table of some declarations. -/
def ofRules (rules : List PrecedenceRule) : PrecedenceTable :=
  { rules, entries := declareFrom 0 rules [] }

/-- How a lexeme of a kind binds, if it is declared. -/
def lookup (table : PrecedenceTable) (kind lexeme : String) : Option PrecedenceEntry :=
  table.entries.lookup (kind, lexeme)

/-- Whether a list of texts is a key of the table: a kind and a lexeme that is declared for it. -/
def hasKey (table : PrecedenceTable) : List String → Bool
  | [kind, lexeme] => (table.lookup kind lexeme).isSome
  | _ => false

/-- The number of declared lexemes. -/
def size (table : PrecedenceTable) : Nat := table.entries.length

/-- The short description of a table. -/
def summary (table : PrecedenceTable) : String :=
  s!"PrecedenceTable({table.rules.length} rules, {table.size} entries)"

end PrecedenceTable

end TokenForest
