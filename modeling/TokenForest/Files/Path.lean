/-!
# Paths

A path is a list of names, counted from the root or from the working directory.  Empty names and
single dots are dropped when a path is read; a double dot stays until the path is followed.
-/

namespace TokenForest

/-- A path to a file or directory. -/
structure Path where
  absolute : Bool := false
  names : List String
  deriving DecidableEq, Repr

namespace Path

/-- The path that a text writes. -/
def ofString (text : String) : Path :=
  let names := (text.toList.splitOn '/').map String.ofList
  { absolute := text.toList.head? = some '/'
    names := names.filter fun name => name ≠ "" ∧ name ≠ "." }

/-- A path as text. -/
def text (path : Path) : String :=
  let joined := "/".intercalate path.names
  if path.absolute then "/" ++ joined
  else if path.names.isEmpty then "."
  else joined

/-- The directory that holds what a path names. -/
def parent (path : Path) : Path := { path with names := path.names.dropLast }

/-- The path of a name in the directory of a path. -/
def child (path : Path) (name : String) : Path := { path with names := path.names ++ [name] }

/-- The paths of the directories on the way to what a path names, and the path itself. -/
def stages (path : Path) : List Path :=
  (List.range (path.names.length + 1)).map fun count => { path with names := path.names.take count }

/-- The path of a place in a file tree, whose absolute places start at the name `/`. -/
def ofPlace : List String → Path
  | "/" :: names => { absolute := true, names }
  | names => { names }

end Path

end TokenForest
