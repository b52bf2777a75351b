import TokenForest.Files.Path
import TokenForest.Text.Quoted

/-!
# File trees

The files that a run can see: their contents as bytes, and directories, which exist where they are
listed and above whatever is listed.  A path is followed name by name, so a missing directory and a
file in the place of a directory are told apart.  Places above the working directory are named by
double dots.
-/

namespace TokenForest

/-- What stands at a place in a file tree. -/
inductive FileEntry where
  | file (content : List UInt8)
  | directory
  deriving DecidableEq, Repr

/-- Files and directories by the names on the way to them; absolute ways start at the name `/`. -/
structure FileTree where
  entries : List (List String × FileEntry) := []
  deriving DecidableEq, Repr

/-- Why a file cannot be opened. -/
inductive FileTrouble where
  | missing
  | notDirectory
  | isDirectory
  deriving DecidableEq, Repr

/-- A file that cannot be opened. -/
structure FileError where
  trouble : FileTrouble
  path : Path
  deriving DecidableEq, Repr

/-- The one-line report of a file that cannot be opened. -/
def FileError.message (error : FileError) : String :=
  let wording :=
    match error.trouble with
    | .missing => "[Errno 2] No such file or directory: "
    | .notDirectory => "[Errno 20] Not a directory: "
    | .isDirectory => "[Errno 21] Is a directory: "
  wording ++ Text.Quoted.ofString error.path.text

namespace FileTree

/-- Whether a place is the root, the working directory, or above the working directory. -/
def isBase (place : List String) : Bool := place = ["/"] || place.all (· = "..")

/-- The place above a place; above the working directory there is always one more. -/
def above (place : List String) : List String :=
  if place = ["/"] then place
  else if isBase place then place ++ [".."]
  else place.dropLast

/-- What stands at a place, if anything does. -/
def entry? (files : FileTree) (place : List String) : Option FileEntry :=
  match files.entries.lookup place with
  | some entry => some entry
  | none =>
    if isBase place || files.entries.any fun entry => place.isPrefixOf entry.1 then
      some .directory
    else none

/-- Follows names from a place, through directories only. -/
def follow (files : FileTree) :
    (place : List String) → (names : List String) → Except FileTrouble (List String)
  | place, [] => .ok place
  | place, name :: rest =>
    match files.entry? place with
    | none => .error .missing
    | some (.file _) => .error .notDirectory
    | some .directory =>
      if name = ".." then follow files (above place) rest
      else follow files (place ++ [name]) rest

/-- The place that a path leads to, whether or not anything stands there. -/
def place (files : FileTree) (path : Path) : Except FileTrouble (List String) :=
  files.follow (if path.absolute then ["/"] else []) path.names

/-- Whether a path leads to a file. -/
def isFile (files : FileTree) (path : Path) : Bool :=
  match files.place path with
  | .error _ => false
  | .ok place =>
    match files.entry? place with
    | some (.file _) => true
    | _ => false

/-- The content of a file. -/
def read (files : FileTree) (path : Path) : Except FileError (List UInt8) :=
  match files.place path with
  | .error trouble => .error { trouble, path }
  | .ok place =>
    match files.entry? place with
    | some (.file content) => .ok content
    | some .directory => .error { trouble := .isDirectory, path }
    | none => .error { trouble := .missing, path }

/-- Puts an entry at a place, instead of what stands there. -/
def put (files : FileTree) (place : List String) (entry : FileEntry) : FileTree :=
  { entries := files.entries.filter (·.1 ≠ place) ++ [(place, entry)] }

/-- Takes away what stands at a place. -/
def remove (files : FileTree) (place : List String) : FileTree :=
  { entries := files.entries.filter (·.1 ≠ place) }

/-- Writes a file into a directory that exists. -/
def write
    (files : FileTree)
    (path : Path)
    (content : List UInt8) :
    Except FileError FileTree :=
  match files.place path with
  | .error trouble => .error { trouble, path }
  | .ok place =>
    match files.entry? place with
    | some .directory => .error { trouble := .isDirectory, path }
    | _ => .ok (files.put place (.file content))

/-- The files of a tree whose places are free in another. -/
def newFiles (before after : FileTree) : List (List String × List UInt8) :=
  after.entries.filterMap fun (place, entry) =>
    match entry, before.entry? place with
    | .file content, none => some (place, content)
    | _, _ => none

/-- The files of a tree that another does not hold with the same content. -/
def changes (before after : FileTree) : List (List String × List UInt8) :=
  after.entries.filterMap fun (place, entry) =>
    match entry with
    | .file content =>
      if before.entry? place = some entry then none else some (place, content)
    | .directory => none

end FileTree

end TokenForest
