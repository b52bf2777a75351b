import TokenForest.Config.Load
import TokenForest.Files.Uri
import TokenForest.Lexer.Basic

/-!
# Diagnostics

An editor shows at most one diagnostic for a document: the character that nothing recognizes or the
group that never closes, or the fault of the configuration beside the document.  Lines and columns
count from zero here.  The configuration is looked up anew every time.
-/

namespace TokenForest

/-- How severe what a diagnostic tells is. -/
inductive Severity where
  | error
  | warning
  | information
  | hint
  deriving DecidableEq, Repr

namespace Severity

/-- The number that an editor knows a severity by. -/
def code : Severity → Nat
  | .error => 1
  | .warning => 2
  | .information => 3
  | .hint => 4

end Severity

/-- What is told about a stretch of a document. -/
structure Diagnostic where
  startLine : Nat
  startColumn : Nat
  endLine : Nat
  endColumn : Nat
  message : String
  severity : Severity
  /-- The name under which the diagnostic is shown. -/
  origin : String
  deriving DecidableEq, Repr

namespace Diagnostic

/-- An error on some characters of one line, which is counted from one as its column is. -/
def ofPlace (line column width : Nat) (message : String) : Diagnostic :=
  { startLine := line - 1
    startColumn := column - 1
    endLine := line - 1
    endColumn := column - 1 + width
    message
    severity := .error
    origin := "nestlex" }

/-- The diagnostic of a source without a forest. -/
def ofGroupError (source : Text.Source) (error : GroupError) : Diagnostic :=
  let position := error.position source
  ofPlace position.line position.column error.width error.message

/-- The diagnostic of a faulty configuration, which stands on the first line. -/
def ofConfigError (error : ConfigError) : Diagnostic :=
  ofPlace 1 1 1 (Config.filename ++ ": " ++ error.message)

end Diagnostic

/-- The diagnostics of a source under a configuration. -/
def diagnose (source : Text.Source) (config : Config) : Except Breakdown (List Diagnostic) :=
  match forest source config with
  | .ok _ => .ok []
  | .error (.reported error) => .ok [Diagnostic.ofGroupError source error]
  | .error (.broken breakdown) => .error breakdown

/-- What an editor is told about a document. -/
structure Publication where
  uri : String
  diagnostics : List Diagnostic
  deriving DecidableEq, Repr

/-- A document of an editor. -/
structure Document where
  uri : String
  /-- The file that the document is, if it is one. -/
  path : Option Path
  deriving DecidableEq, Repr

namespace Document

/-- The document of a URI. -/
def ofUri (uri : String) : Document := { uri, path := Path.ofUri? uri }

/-- The configuration beside a document, or the standard one for what is no file. -/
def config
    [Text.CharacterNames]
    (files : FileTree)
    (document : Document) :
    Except Config.LoadFault Config :=
  match document.path with
  | some path => Config.load files none path.parent
  | none => .ok Config.standard

/-- Why a document cannot be checked. -/
inductive CheckFault where
  | undecodable (error : Text.Utf8.DecodeError)
  | excessive (excess : Excess)
  | broken (breakdown : Breakdown)
  deriving Repr

/-- The configuration that a document is checked under, or the diagnostic of a faulty one. -/
def settings
    [Text.CharacterNames]
    (files : FileTree)
    (document : Document)
    (given : Option Config) :
    Except CheckFault (Except Diagnostic Config) :=
  match given with
  | some config => .ok (.ok config)
  | none =>
    match document.config files with
    | .ok config => .ok (.ok config)
    | .error (.config (.invalid error)) => .ok (.error (Diagnostic.ofConfigError error))
    | .error (.config (.excessive excess)) => .error (.excessive excess)
    | .error (.undecodable error) => .error (.undecodable error)

/--
What is published about a document with some text: the diagnostics under the given configuration, or
under the one beside the document, whose fault is a diagnostic too.
-/
def check
    [Text.CharacterNames]
    (files : FileTree)
    (document : Document)
    (text : String)
    (given : Option Config := none) :
    Except CheckFault Publication := do
  let diagnostics ←
    match ← document.settings files given with
    | .ok config => (diagnose (Text.Source.ofString text) config).mapError .broken
    | .error diagnostic => .ok [diagnostic]
  return { uri := document.uri, diagnostics }

end Document

end TokenForest
