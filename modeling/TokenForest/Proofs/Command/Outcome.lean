import TokenForest.Proofs.Command.Resolution
import TokenForest.Proofs.Config.Limits
import TokenForest.Proofs.Diagnostics
import TokenForest.Proofs.Dump

/-!
# Outcomes of a run

A run refuses its options or its input, or it reports the one error of the source, or it dumps the
source.  Which of these it does is seen from its code, and does not depend on where the dump goes or
on whether the run takes notes.  Only a dump is ever shown or written, and it is either shown or
written.  A configuration that goes beyond a limit keeps a run from all this: it breaks off.
-/

namespace TokenForest

open Text (Source Utf8.decode Utf8.encode)

/-! ## What is rendered -/

namespace Command

/-- The dump of a source, of its tokens or of its forest, or the error that there is instead. -/
inductive Rendering (source : Source) (config : Config) :
    (flat : Bool) → Except GroupError String → Prop where
  | tokens
      {tokens : List Token}
      (tokenized : tokenize source config = .ok tokens) :
      Rendering source config true (.ok (dumpTokens source tokens))
  | unscanned
      {error : ScanError}
      (failed : tokenize source config = .error (.reported error)) :
      Rendering source config true (.error (.scan error))
  | forest
      {roots : List (Tree Token)}
      (grouped : forest source config = .ok roots) :
      Rendering source config false (.ok (dumpForest source roots))
  | ungrouped
      {error : GroupError}
      (failed : forest source config = .error (.reported error)) :
      Rendering source config false (.error error)

/-- The name of the file and the notes do not matter to what is rendered. -/
theorem Rendering.render_eq
    (options : Options)
    {source : Source} {rendered : Except GroupError String}
    (rendering : Rendering source options.config options.flat rendered) :
    (render options source).1 = rendered.mapError .reported := by
  rcases options with ⟨input, output, config, flat, verbose⟩
  have flatly := render_flat ⟨input, output, config, true, verbose⟩ source
  have nested := render_nested ⟨input, output, config, false, verbose⟩ source
  cases rendering with
  | tokens tokenized =>
      rw [flatly, tokenized]
      rfl
  | unscanned failed =>
      rw [flatly, failed]
      rfl
  | forest grouped =>
      rw [nested, grouped]
      rfl
  | ungrouped failed =>
      rw [nested, failed]
      rfl

/-! ## Verdicts -/

/-- What a run comes to. -/
inductive Verdict where
  | refused
  | faulty (source : Source) (error : GroupError)
  | dumped (dump : String)

namespace Verdict

/-- The code that a run returns by its verdict. -/
def code : Verdict → Nat
  | .refused => 2
  | .faulty .. => 1
  | .dumped _ => 0

variable {verdict : Verdict}

end Verdict

/-- The source of a run: the text of its input, with every end of a line as a line feed. -/
inductive Opens (files : FileTree) (arguments : Arguments) : Source → Prop where
  | intro
      {content : List UInt8} {text : List Char}
      (stored : files.read (Path.ofString arguments.input) = .ok content)
      (decoded : Utf8.decode content = .ok text) :
      Opens files arguments { text := universalBreaks text }

/-- What a run with some arguments comes to.  This says nothing of outputs and notes. -/
inductive Concludes [Text.CharacterNames] (files : FileTree) (arguments : Arguments) :
    Verdict → Prop where
  | unresolved
      (nothing : ¬∃ config, Resolves files arguments config) :
      Concludes files arguments .refused
  | unopened
      (nothing : ¬∃ content, files.read (Path.ofString arguments.input) = .ok content) :
      Concludes files arguments .refused
  | faulty
      {config : Config} {source : Source} {error : GroupError}
      (resolved : Resolves files arguments config)
      (opened : Opens files arguments source)
      (rendering : Rendering source config arguments.flat (.error error)) :
      Concludes files arguments (.faulty source error)
  | dumped
      {config : Config} {source : Source} {dump : String}
      (resolved : Resolves files arguments config)
      (opened : Opens files arguments source)
      (rendering : Rendering source config arguments.flat (.ok dump)) :
      Concludes files arguments (.dumped dump)

variable
    {files : FileTree}
    {arguments : Arguments}
    {verdict : Verdict}
    {outcome : Outcome}

theorem run_of_resolves
    [Text.CharacterNames]
    {config : Config} {given : List String}
    (accepted : Arguments.ofList given = .ok arguments)
    (resolved : Resolves files arguments config) :
    run files given = runOptions files (arguments.options config) := by
  simp only [run, accepted, resolve_eq_ok_iff.mpr ⟨config, resolved, rfl⟩]

/-- What a run leaves whose configuration cannot be loaded: a report, or a failure without one. -/
def Outcome.ofLoadFault (files : FileTree) : Config.LoadFault → Outcome
  | .config (.invalid error) => { ending := .returned 2, stderr := errorLine error.message, files }
  | .config (.excessive excess) => { ending := .aborted (.excessive excess), files }
  | .undecodable error => { ending := .aborted (.undecodable error), files }

theorem run_of_load_error
    [Text.CharacterNames]
    {given : List String} {fault : Config.LoadFault}
    (accepted : Arguments.ofList given = .ok arguments)
    (failed :
      Config.load files (pathOf? arguments.config) (Path.ofString arguments.input).parent =
        .error fault) :
    run files given = .ofLoadFault files fault := by
  simp only [run, accepted, resolve_of_load_error failed]
  cases fault with
  | config fault =>
      cases fault with
      | invalid error =>
          rfl
      | excessive excess =>
          rfl
  | undecodable error =>
      rfl

variable
    {output : Option String}
    {verbose : Bool}

theorem Resolves.of_output
    [Text.CharacterNames]
    {config : Config}
    (resolved : Resolves files arguments config) :
    Resolves files { arguments with output, verbose } config := by
  cases resolved with
  | intro held described written compiled single =>
      exact .intro held described written compiled single

theorem Resolves.to_output
    [Text.CharacterNames]
    {config : Config}
    (resolved : Resolves files { arguments with output, verbose } config) :
    Resolves files arguments config :=
  resolved.of_output

theorem Opens.of_output
    {source : Source}
    (opened : Opens files arguments source) :
    Opens files { arguments with output, verbose } source := by
  cases opened with
  | intro stored decoded =>
      exact .intro stored decoded

/-- What a run comes to is the same with another output, and with or without notes. -/
theorem Concludes.of_output
    [Text.CharacterNames]
    (concludes : Concludes files arguments verdict) :
    Concludes files { arguments with output, verbose } verdict := by
  cases concludes with
  | unresolved nothing =>
      refine .unresolved ?_
      rintro ⟨config, resolved⟩
      exact nothing ⟨config, resolved.to_output⟩
  | unopened nothing =>
      exact .unopened nothing
  | faulty resolved opened rendering =>
      exact .faulty resolved.of_output opened.of_output rendering
  | dumped resolved opened rendering =>
      exact .dumped resolved.of_output opened.of_output rendering

theorem Legible.of_output
    [Text.CharacterNames]
    (legible : Legible files arguments) :
    Legible files { arguments with output, verbose } where
  config := legible.config
  patterns := legible.patterns
  input := by
    intro config resolved
    exact legible.input config resolved.to_output

open scoped Text.CharacterNames

end Command

end TokenForest
