import TokenForest.Config.Load
import TokenForest.Proofs.Config.Reading
import TokenForest.Proofs.Files

/-!
# Configurations in files

A path holds the document that is written in the file there, and an empty one where there is no
file.  Loading gives the configuration of that document.  If the file is text and nothing in it goes
beyond a limit, then loading either succeeds or reports an error of the configuration.
-/

namespace TokenForest

open Text

namespace Config

variable
    {files : FileTree}
    {path directory : Path}
    {given : Option Path}
    {config : Config}

/-- The path where a configuration is looked for. -/
def location (given : Option Path) (directory : Path) : Path :=
  given.getD (directory.child filename)

/-- The document that a path holds. -/
inductive Holds (files : FileTree) (path : Path) : Document → Prop where
  | absent
      (nothing : ¬∃ content, files.read path = .ok content) :
      Holds files path []
  | present
      {content : List UInt8} {text : List Char} {document : Document}
      (stored : files.read path = .ok content)
      (decoded : Utf8.decode content = .ok text)
      (written : Toml.read text = .ok document) :
      Holds files path document

/-- What is stored at a path is text. -/
def IsText (files : FileTree) (path : Path) : Prop :=
  ∀ content, files.read path = .ok content → ∃ text, Utf8.decode content = .ok text

/--
The content of a file goes beyond a limit: in its text, which is not read then, or where the first
offence of its document is met.
-/
inductive Exceeds [CharacterNames] (content : List UInt8) : Excess → Prop where
  | unread
      {text : List Char} {excess : Excess}
      (decoded : Utf8.decode content = .ok text)
      (beyond : Toml.read text = .error (.excessive excess)) :
      Exceeds content excess
  | unreported
      {text : List Char} {document : Document} {excess : Excess}
      (decoded : Utf8.decode content = .ok text)
      (written : Toml.read text = .ok document)
      (first : document.offences.head? = some (.excessive excess)) :
      Exceeds content excess

/-- What is stored at a path goes beyond a limit. -/
def ExceedsAt [CharacterNames] (files : FileTree) (path : Path) (excess : Excess) : Prop :=
  ∃ content, files.read path = .ok content ∧ Exceeds content excess

theorem loadDocument_of_absent
    (nothing : ¬∃ content, files.read (location given directory) = .ok content) :
    loadDocument files given directory = .ok [] := by
  rw [← FileTree.isFile_eq_true_iff] at nothing
  exact if_neg nothing

theorem loadDocument_of_present
    {content : List UInt8}
    (stored : files.read (location given directory) = .ok content) :
    loadDocument files given directory =
      match Utf8.decode content with
      | .error error => .error (.undecodable error)
      | .ok text =>
        match Toml.read text with
        | .ok document => .ok document
        | .error (.malformed error) =>
          .error (.config (.invalid (.badDocument (location given directory).text error)))
        | .error (.excessive excess) => .error (.config (.excessive excess)) := by
  have isFile := FileTree.isFile_eq_true_iff.mpr ⟨content, stored⟩
  rw [location] at stored isFile
  simp only [loadDocument, isFile, if_true, stored]
  rfl

theorem loadDocument_eq_ok_iff
    {document : Document} :
    loadDocument files given directory = .ok document ↔
      Holds files (location given directory) document := by
  constructor
  · intro loaded
    by_cases present : ∃ content, files.read (location given directory) = .ok content
    · rcases present with ⟨content, stored⟩
      rw [loadDocument_of_present stored] at loaded
      split at loaded
      · cases loaded
      · rename_i text decoded
        split at loaded
        · rename_i document' written
          cases loaded
          exact .present stored decoded written
        · cases loaded
        · cases loaded
    · rw [loadDocument_of_absent present] at loaded
      cases loaded
      exact .absent present
  · rintro (nothing | ⟨stored, decoded, written⟩)
    · exact loadDocument_of_absent nothing
    · rw [loadDocument_of_present stored, decoded]
      simp only [written]

theorem load_eq_ok_iff
    [CharacterNames] :
    load files given directory = .ok config ↔
      ∃ document,
        Holds files (location given directory) document ∧ ofDocument document = .ok config := by
  simp only [← loadDocument_eq_ok_iff]
  rw [load]
  cases loadDocument files given directory with
  | error fault =>
      simp [bind, Except.bind]
  | ok document =>
      cases described : ofDocument document with
      | error fault =>
          simp [bind, Except.bind, described]
      | ok described' =>
          simp [bind, Except.bind, described]

/-- A configuration is not loaded because there is no document, or because of its first offence. -/
theorem load_eq_error_iff
    [CharacterNames]
    {fault : LoadFault} :
    load files given directory = .error fault ↔
      loadDocument files given directory = .error fault ∨
        ∃ document reason,
          Holds files (location given directory) document ∧
            document.offences.head? = some reason ∧ fault = .config reason := by
  simp only [← loadDocument_eq_ok_iff, ← ofDocument_eq_error_iff]
  rw [load]
  cases loadDocument files given directory with
  | error fault' =>
      simp [bind, Except.bind]
  | ok document =>
      cases described : ofDocument document with
      | error reason =>
          simp [bind, Except.bind, described, eq_comm]
      | ok config =>
          simp [bind, Except.bind, described]

/-- Loading goes beyond a limit exactly where what is stored does. -/
theorem load_eq_excessive_iff
    [CharacterNames]
    {excess : Excess} :
    load files given directory = .error (.config (.excessive excess)) ↔
      ExceedsAt files (location given directory) excess := by
  rw [load_eq_error_iff]
  constructor
  · rintro (unread | ⟨document, reason, held, first, same⟩)
    · by_cases present : ∃ content, files.read (location given directory) = .ok content
      · rcases present with ⟨content, stored⟩
        refine ⟨content, stored, ?_⟩
        rw [loadDocument_of_present stored] at unread
        split at unread
        · cases unread
        · rename_i text decoded
          split at unread
          · cases unread
          · cases unread
          · rename_i beyond
            cases unread
            exact .unread decoded beyond
      · rw [loadDocument_of_absent present] at unread
        cases unread
    · cases same
      cases held with
      | absent nothing =>
          cases first
      | present stored decoded written =>
          exact ⟨_, stored, .unreported decoded written first⟩
  · rintro ⟨content, stored, exceeds⟩
    cases exceeds with
    | unread decoded beyond =>
        left
        rw [loadDocument_of_present stored, decoded]
        simp only [beyond]
    | unreported decoded written first =>
        exact .inr ⟨_, _, .present stored decoded written, first, rfl⟩

/-- A document is only not decoded where what is stored is no text. -/
theorem not_isText_of_load
    [CharacterNames]
    {error : Utf8.DecodeError}
    (failed : load files given directory = .error (.undecodable error)) :
    ¬IsText files (location given directory) := by
  intro isText
  rcases load_eq_error_iff.mp failed with unread | ⟨_, _, _, _, different⟩
  · by_cases present : ∃ content, files.read (location given directory) = .ok content
    · rcases present with ⟨content, stored⟩
      rcases isText content stored with ⟨text, decoded⟩
      rw [loadDocument_of_present stored, decoded] at unread
      simp only at unread
      split at unread
      · cases unread
      · cases unread
      · cases unread
    · rw [loadDocument_of_absent present] at unread
      cases unread
  · cases different

/-- A configuration that is text within the limits, but cannot be loaded, has an error to report. -/
theorem exists_error_of_load
    [CharacterNames]
    {fault : LoadFault}
    (isText : IsText files (location given directory))
    (within : ∀ excess, ¬ExceedsAt files (location given directory) excess)
    (failed : load files given directory = .error fault) :
    ∃ error, fault = .config (.invalid error) := by
  cases fault with
  | undecodable error =>
      exact absurd isText (not_isText_of_load failed)
  | config fault =>
      cases fault with
      | invalid error =>
          exact ⟨error, rfl⟩
      | excessive excess =>
          exact absurd (load_eq_excessive_iff.mp failed) (within excess)

/-! ## The same file -/

variable {other : Path}

end Config

end TokenForest
