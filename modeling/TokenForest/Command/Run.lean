import TokenForest.Command.Usage
import TokenForest.Config.Load
import TokenForest.Dump
import TokenForest.Lexer.Basic

/-!
# Running the command

A run reads its arguments, finds the configuration, reads and tokenizes the input, and prints the
forest or the flat tokens, to a file if one is named.  Faults of the arguments, the configuration or
the input file end with code 2, faults of the source with code 1.  A run is a function of the files
that it sees; its outcome holds the files as they are afterwards.
-/

namespace TokenForest.Command

/-- What a run does, once arguments and configuration are put together. -/
structure Options where
  input : Path
  output : Option Path
  config : Config
  flat : Bool
  verbose : Bool

/-- A failure that no report covers, so that it ends the run at once. -/
inductive Failure where
  | undecodable (error : Text.Utf8.DecodeError)
  | excessive (excess : Excess)
  | file (error : FileError)
  | broken (breakdown : Breakdown)
  deriving Repr

/-- The one-line report of a failure. -/
def Failure.message : Failure → String
  | .undecodable error => error.message
  | .excessive excess => excess.message
  | .file error => error.message
  | .broken breakdown => breakdown.message

/-- Why the options of a run cannot be put together. -/
inductive OptionFault where
  | patternFormat (argument : String)
  | config (error : ConfigError)
  | failure (failure : Failure)
  deriving Repr

/-- The message about a pattern argument without a kind or a pattern. -/
def patternFormatMessage (argument : String) : String :=
  "invalid pattern format (expected TYPE=REGEX): " ++ argument

/-- The kind and the pattern that an argument gives, split at its first equals sign. -/
def rulePart? (argument : String) : Option RuleText :=
  match splitAtEquals? argument.toList with
  | some (kind, pattern) =>
    if kind.isEmpty || pattern.isEmpty then none else some { kind, pattern }
  | none => none

/-- The pattern rule of an argument, or the fault of its form. -/
def ruleOfArgument (argument : String) : Except OptionFault RuleText :=
  match rulePart? argument with
  | some rule => .ok rule
  | none => .error (.patternFormat argument)

/-- The fault of the options that a fault of the configuration is. -/
def OptionFault.ofConfigFault : ConfigFault → OptionFault
  | .invalid error => .config error
  | .excessive excess => .failure (.excessive excess)

/-- The fault of the options that a fault of the configuration file is. -/
def OptionFault.ofLoadFault : Config.LoadFault → OptionFault
  | .config fault => .ofConfigFault fault
  | .undecodable error => .failure (.undecodable error)

/-- A path that an argument gives, unless it is empty. -/
def pathOf? : Option String → Option Path
  | none => none
  | some text => if text.isEmpty then none else some (Path.ofString text)

/-- Puts the options together: the standard settings, then the file, then the arguments. -/
def resolve
    [Text.CharacterNames]
    (files : FileTree)
    (arguments : Arguments) :
    Except OptionFault Options := do
  let input := Path.ofString arguments.input
  let base ←
    (Config.load files (pathOf? arguments.config) input.parent).mapError .ofLoadFault
  let rules ← arguments.patterns.mapM ruleOfArgument
  let withRules ← (base.withPatterns rules).mapError .ofConfigFault
  let pairs := arguments.pairs.map fun (opener, closer) =>
    { kind := literalKind, opener, closer : DelimiterPair }
  let withPairs ← (withRules.withPairs pairs).mapError .config
  return {
    input
    output := pathOf? arguments.output
    config := { withPairs with strict := withPairs.strict || arguments.strict }
    flat := arguments.flat
    verbose := arguments.verbose }

/-- Replaces both ways of ending a line with a carriage return by a line feed. -/
def universalBreaks : List Char → List Char
  | '\r' :: '\n' :: rest => '\n' :: universalBreaks rest
  | '\r' :: rest => '\n' :: universalBreaks rest
  | character :: rest => character :: universalBreaks rest
  | [] => []

/-- What a run prints for a source, or the fault of the source, with what it noted. -/
def render
    (options : Options)
    (source : Text.Source) :
    Except (Fault GroupError) String × Trace :=
  let lexer := Lexer.ofSource source options.config options.input.text
  if options.flat then
    let drawn := lexer.tokens
    match drawn.result.fault with
    | some fault => (.error (fault.map .scan), drawn.trace)
    | none => (.ok (dumpTokens source drawn.result.tokens), drawn.trace)
  else
    let grouped := lexer.group
    match grouped.result with
    | .error fault => (.error fault, grouped.trace)
    | .ok forest => (.ok (dumpForest source forest), grouped.trace)

/-- How a run ends. -/
inductive Ending where
  | returned (code : Nat)
  /-- The reading of the arguments ended the run. -/
  | exited (code : Nat)
  | aborted (failure : Failure)
  deriving Repr

/-- The outcome of a run. -/
structure Outcome where
  ending : Ending
  stdout : String := ""
  stderr : String := ""
  files : FileTree

/-- The report of an error in one line. -/
def errorLine (message : String) : String := "error: " ++ message ++ "\n"

/-- Delivers the text of a run that succeeded. -/
def deliver
    (files : FileTree)
    (options : Options)
    (notes text : String) :
    Outcome :=
  match options.output with
  | none => { ending := .returned 0, stdout := text, stderr := notes, files }
  | some path =>
    match files.write path (Text.Utf8.encode text.toList) with
    | .ok written => { ending := .returned 0, stderr := notes, files := written }
    | .error error => { ending := .aborted (.file error), stderr := notes, files }

/-- Runs with given options. -/
def runOptions (files : FileTree) (options : Options) : Outcome :=
  match files.read options.input with
  | .error error => { ending := .returned 2, stderr := errorLine error.message, files }
  | .ok content =>
    match Text.Utf8.decode content with
    | .error error => { ending := .aborted (.undecodable error), files }
    | .ok text =>
      let source : Text.Source := { text := universalBreaks text }
      let (rendered, trace) := render options source
      let notes := if options.verbose then trace.text else ""
      match rendered with
      | .error (.broken breakdown) =>
        { ending := .aborted (.broken breakdown), stderr := notes, files }
      | .error (.reported error) =>
        { ending := .returned 1
          stderr := notes ++ error.render source options.input.text ++ "\n"
          files }
      | .ok dump => deliver files options notes dump

/-- The paths that a run with some arguments may look at. -/
def paths (arguments : List String) : List Path :=
  match Arguments.ofList arguments with
  | .error _ => []
  | .ok arguments =>
    let input := Path.ofString arguments.input
    let config := (pathOf? arguments.config).getD (input.parent.child Config.filename)
    [input, config] ++ (pathOf? arguments.output).toList

/-- Runs the command with some arguments over the files that it sees. -/
def run
    [Text.CharacterNames]
    (files : FileTree)
    (arguments : List String) :
    Outcome :=
  match Arguments.ofList arguments with
  | .error .help => { ending := .exited 0, stdout := help, files }
  | .error (.invalid error) => { ending := .exited 2, stderr := error.report, files }
  | .ok arguments =>
    match resolve files arguments with
    | .error (.patternFormat argument) =>
      { ending := .returned 2, stderr := errorLine (patternFormatMessage argument), files }
    | .error (.config error) =>
      { ending := .returned 2, stderr := errorLine error.message, files }
    | .error (.failure failure) => { ending := .aborted failure, files }
    | .ok options => runOptions files options

end TokenForest.Command
