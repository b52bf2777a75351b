import TokenForest.Config.Document
import TokenForest.Files.Tree
import TokenForest.Text.Utf8
import TokenForest.Toml.Reader

/-!
# Configuration files

A configuration is looked for at a given path or, without one, under a fixed name in a directory.
Where there is no such file, the document is empty, which stands for the standard configuration.
-/

namespace TokenForest.Config

/-- The name under which a directory keeps its configuration. -/
def filename : String := "nestlex.toml"

/-- Why a configuration file gives no configuration. -/
inductive LoadFault where
  | config (fault : ConfigFault)
  | undecodable (error : Text.Utf8.DecodeError)
  deriving Repr

/-- The document at a path, or in a directory if no path is given. -/
def loadDocument
    (files : FileTree)
    (path : Option Path)
    (directory : Path) :
    Except LoadFault Document :=
  let place := path.getD (directory.child filename)
  if files.isFile place then
    match files.read place with
    | .error _ => .ok []
    | .ok content =>
      match Text.Utf8.decode content with
      | .error error => .error (.undecodable error)
      | .ok text =>
        match Toml.read text with
        | .ok document => .ok document
        | .error (.malformed error) =>
          .error (.config (.invalid (.badDocument place.text error)))
        | .error (.excessive excess) => .error (.config (.excessive excess))
  else .ok []

/-- The configuration that a file describes. -/
def load
    [Text.CharacterNames]
    (files : FileTree)
    (path : Option Path)
    (directory : Path) :
    Except LoadFault Config := do
  let document ← loadDocument files path directory
  match ofDocument document with
  | .ok config => .ok config
  | .error fault => .error (.config fault)

end TokenForest.Config
