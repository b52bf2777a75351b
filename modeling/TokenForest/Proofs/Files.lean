import Mathlib.Data.List.Basic
import TokenForest.Files.Tree

/-!
# Reading and writing files

A file can be read if a path leads to one.  Writing puts a file where a path leads, provided that
its directory exists and that it is no directory itself.  It is read back there, and everywhere else
stands what stood there before: every place on the way was a directory already.
-/

namespace TokenForest

namespace FileTree

variable
    {files other : FileTree}
    {path : Path}
    {place reached : List String}
    {content : List UInt8}

/-! ## Reading -/

theorem isFile_eq_isOk
    (files : FileTree)
    (path : Path) :
    files.isFile path = (files.read path).isOk := by
  unfold isFile read
  cases files.place path with
  | error trouble =>
      rfl
  | ok place =>
      cases stands : files.entry? place with
      | none =>
          simp only [stands]
          rfl
      | some entry =>
          cases entry with
          | file content =>
              simp only [stands]
              rfl
          | directory =>
              simp only [stands]
              rfl

theorem isFile_eq_true_iff :
    files.isFile path = true ↔ ∃ content, files.read path = .ok content := by
  rw [isFile_eq_isOk]
  cases files.read path with
  | error trouble =>
      simp [Except.isOk, Except.toBool]
  | ok content =>
      simp [Except.isOk, Except.toBool]

/-- Two paths lead to the same content, or neither leads to a file. -/
def Alike (files : FileTree) (path other : Path) : Prop :=
  ∀ content, files.read path = .ok content ↔ files.read other = .ok content

theorem Alike.symm
    {path other : Path}
    (alike : files.Alike path other) :
    files.Alike other path := by
  intro content
  rw [alike content]

/-- Something stands at every place above a place. -/
def Grounded (files : FileTree) (place : List String) : Prop :=
  ∀ higher, higher <+: place → higher ≠ place → files.entry? higher ≠ none

theorem Grounded.child
    (grounded : files.Grounded place)
    (present : files.entry? place ≠ none)
    (name : String) :
    files.Grounded (place ++ [name]) := by
  intro higher above differs
  rcases List.prefix_concat_iff.mp above with same | above
  · exact absurd same differs
  · by_cases same : higher = place
    · rwa [same]
    · exact grounded higher above same

theorem Grounded.above
    (grounded : files.Grounded place)
    (present : files.entry? place ≠ none) :
    files.Grounded (above place) := by
  unfold FileTree.above
  split
  · exact grounded
  · split
    · exact grounded.child present ".."
    · intro higher above differs
      apply grounded higher (above.trans (List.dropLast_prefix place))
      rintro rfl
      exact differs (above.eq_of_length_le (List.dropLast_prefix _).length_le)

/-- Following a path goes through directories only. -/
theorem Grounded.follow
    {names : List String}
    (grounded : files.Grounded place)
    (followed : files.follow place names = .ok reached) :
    files.Grounded reached := by
  -- The place moves along, and stays grounded, while the names are used up.
  induction names generalizing place with
  | nil =>
      cases followed
      exact grounded
  | cons name rest ih =>
      unfold FileTree.follow at followed
      split at followed
      · cases followed
      · cases followed
      · rename_i directory
        have present : files.entry? place ≠ none := by
          rw [directory]
          exact Option.some_ne_none _
        split at followed
        · exact ih (grounded.above present) followed
        · exact ih (grounded.child present name) followed

/-- A file can be put where a path leads. -/
def Writable (files : FileTree) (path : Path) : Prop :=
  ∃ place, files.place path = .ok place ∧ files.entry? place ≠ some .directory

end FileTree

end TokenForest
