import TokenForest.Diagnostics
import TokenForest.Proofs.Config.Loading
import TokenForest.Proofs.Text.Encoding
import TokenForest.Proofs.Toml.Numeral

/-!
# A configuration beyond a limit

A directory with a configuration file of any content beside a file with a sum, and a content in
which nothing is wrong but a number has too many digits.  It is text and a configuration, but it is
not read.
-/

namespace TokenForest

open Text (CharacterNames Utf8.encode Utf8.decode Utf8.decode_encode)

namespace Config

/-- A sum. -/
def sumText : String := "1+2"

/-- A directory with a configuration file of some content and a sum. -/
def folder (content : List UInt8) : FileTree where
  entries := [(["nestlex.toml"], .file content), (["sum"], .file (Utf8.encode sumText.toList))]

/-- The sum in this directory. -/
def draft : TokenForest.Document := { uri := "file:///sum", path := some (Path.ofString "sum") }

theorem read_folder_of_lookup
    {content stored : List UInt8} {name : String}
    (named : name ≠ "" ∧ name ≠ ".." ∧ name ≠ ".")
    (found : (folder content).entries.lookup [name] = some (.file stored)) :
    (folder content).read { names := [name] } = .ok stored := by
  have unlisted : (folder content).entries.lookup [] = none := by
    simp [folder, List.lookup_eq_none_iff]
  simp [FileTree.read, FileTree.place, FileTree.follow, FileTree.entry?, FileTree.isBase, found,
    unlisted, named]

/-- The configuration file is the one beside the sum. -/
theorem read_folder (content : List UInt8) :
    (folder content).read ((Path.ofString "sum").parent.child filename) = .ok content := by
  have beside : (Path.ofString "sum").parent.child filename = { names := ["nestlex.toml"] } := by
    decide +kernel
  rw [beside]
  exact read_folder_of_lookup (by decide) (by simp [folder])

variable {count : Nat}

end Config

end TokenForest
