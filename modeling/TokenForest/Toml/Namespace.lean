import TokenForest.Entries
import TokenForest.Toml.Error
import TokenForest.Value

/-!
# Namespaces of a TOML document

A document may reach a table in several ways, and each way shuts out others.  A namespace carries
marks: `declared` for a table that has a header of its own or was opened by dotted keys in an
earlier section, and `frozen` for inline tables and arrays, with everything below them.  This
module also holds the change of a nested table along a path.
-/

namespace TokenForest.Toml

/-- What a namespace is barred from. -/
inductive Mark where
  /-- No second header. -/
  | declared
  /-- No change at all. -/
  | frozen
  deriving DecidableEq, Repr

/-- A mark on a namespace, alone or together with everything below it. -/
structure Marked where
  path : Path
  mark : Mark
  below : Bool
  deriving DecidableEq, Repr

/-- The marks of a document so far. -/
abbrev Marks := List Marked

namespace Marks

/-- Whether a namespace carries a mark, on itself or from above.  The root carries none. -/
def holds (marks : Marks) (path : Path) (mark : Mark) : Bool :=
  !path.isEmpty && marks.any fun marked =>
    marked.mark = mark &&
      (marked.path = path || (marked.below && marked.path.isPrefixOf path))

/-- Sets a mark. -/
def add (marks : Marks) (path : Path) (mark : Mark) (below : Bool) : Marks :=
  { path, mark, below } :: marks

/-- Takes all marks from a namespace and from everything below it. -/
def clear (marks : Marks) (path : Path) : Marks :=
  marks.filter fun marked => !path.isPrefixOf marked.path

end Marks

/-- The entries of a table in order of definition. -/
abbrev Table := List (String × Value)

namespace Table

/--
Changes the table behind a path, creating the tables that are missing on the way.  Through a list
the path leads into its last element, if that is allowed.  There is no result if something else
than a table stands on the way, or if the change itself has none.
-/
def change
    (throughLists : Bool)
    (update : Table → Option Table) :
    Path → Table → Option Table
  | [], table => update table
  | key :: rest, table =>
    match table.lookup key with
    | none =>
      (change throughLists update rest []).map fun inner => Entries.put key (.table inner) table
    | some (.table inner) =>
      (change throughLists update rest inner).map fun changed =>
        Entries.put key (.table changed) table
    | some (.list items) =>
      if throughLists then
        match items.getLast? with
        | some (.table inner) =>
          (change throughLists update rest inner).map fun changed =>
            Entries.put key (.list (items.dropLast ++ [.table changed])) table
        | _ => none
      else none
    | some _ => none

/-- Defines a key that is not yet defined. -/
def define (key : String) (value : Value) (table : Table) : Option Table :=
  if (table.lookup key).isSome then none else some (Entries.put key value table)

/-- Appends an empty table to the list behind a key, which may be new. -/
def appendTable (key : String) (table : Table) : Option Table :=
  match table.lookup key with
  | none => some (Entries.put key (.list [.table []]) table)
  | some (.list items) => some (Entries.put key (.list (items ++ [.table []])) table)
  | some _ => none

end Table

end TokenForest.Toml
