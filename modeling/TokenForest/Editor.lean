import TokenForest.Diagnostics
import TokenForest.Entries

/-!
# Editor sessions

An editor holds the text of each document as it was last opened or changed.  Whenever a document is
opened or changed it is checked under the configuration beside it, and it may be checked under a
given one.  Each check publishes what it finds.  Files may come and go between the checks.
-/

namespace TokenForest

/-- What there is to see in an editor session. -/
structure Editor where
  files : FileTree := {}
  /-- The texts of documents by their URIs. -/
  texts : List (String × String) := []
  /-- What has been published, the latest last. -/
  published : List Publication := []
  deriving Repr

/-- What may happen in an editor session. -/
inductive EditorEvent where
  | opened (document : Document) (text : String)
  | changed (document : Document) (text : String)
  /-- A document is checked, under a given configuration if there is one. -/
  | checked (document : Document) (given : Option Config)
  | written (place : List String) (entry : FileEntry)
  | removed (place : List String)
  deriving Repr

namespace Editor

variable [Text.CharacterNames]

/-- Takes over the text of a document. -/
def hold (editor : Editor) (document : Document) (text : String) : Editor :=
  { editor with texts := Entries.put document.uri text editor.texts }

/-- Publishes something. -/
def publish (editor : Editor) (publication : Publication) : Editor :=
  { editor with published := editor.published ++ [publication] }

/--
Checks a document and publishes what is found.  A check that breaks off publishes nothing, and there
is nothing to check in a document that was never opened.
-/
def check
    (editor : Editor)
    (document : Document)
    (given : Option Config) :
    Editor × Option Document.CheckFault :=
  match editor.texts.lookup document.uri with
  | none => (editor, none)
  | some text =>
    match document.check editor.files text given with
    | .ok publication => (editor.publish publication, none)
    | .error fault => (editor, some fault)

/-- Lets something happen, which may break off. -/
def perform (editor : Editor) : EditorEvent → Editor × Option Document.CheckFault
  | .opened document text => (editor.hold document text).check document none
  | .changed document text => (editor.hold document text).check document none
  | .checked document given => editor.check document given
  | .written place entry => ({ editor with files := editor.files.put place entry }, none)
  | .removed place => ({ editor with files := editor.files.remove place }, none)

/-- Lets several things happen, whether or not some of them break off. -/
def performAll (editor : Editor) (events : List EditorEvent) : Editor :=
  events.foldl (fun editor event => (editor.perform event).1) editor

end Editor

end TokenForest
