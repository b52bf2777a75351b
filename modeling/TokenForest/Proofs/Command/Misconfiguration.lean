import TokenForest.Proofs.Command.Agreement

/-!
# Files that give no configuration

A configuration file holds bytes.  They may be no text, or a text that is no document, or a document
of another shape.  What is wrong with a text is reported everywhere: loading gives an error of the
configuration, the command returns 2 with a message about it, and an editor shows it on the first
line of the document.  Bytes that are no text are reported nowhere, and neither is a text that goes
beyond a limit: the failure ends the loading and the command, and an editor that checks a document
beside the file shows nothing.
-/

namespace TokenForest

open Text (Utf8.decode Utf8.decode_encode Utf8.encode)

namespace Config

variable
    {files : FileTree}
    {directory : Path}
    {content : List UInt8}
    {config : Config}

/-- The configuration that the content of a file describes. -/
inductive Yields [Text.CharacterNames] (content : List UInt8) : Config → Prop where
  | intro
      {text : List Char} {document : Document} {config : Config}
      (decoded : Utf8.decode content = .ok text)
      (written : Toml.read text = .ok document)
      (described : ofDocument document = .ok config) :
      Yields content config

/-- If the content of a file is a document, the patterns of the document are moderate. -/
def ModerateContent [Text.CharacterNames] (content : List UInt8) : Prop :=
  ∀ text (document : Document),
    Utf8.decode content = .ok text → Toml.read text = .ok document → document.Moderate

/-! ## Loading -/

theorem load_eq_ok_iff_yields
    [Text.CharacterNames]
    (stored : files.read (directory.child filename) = .ok content) :
    load files none directory = .ok config ↔ Yields content config := by
  have located : files.read (location none directory) = .ok content := stored
  rw [load_eq_ok_iff]
  constructor
  · rintro ⟨document, held, described⟩
    cases held with
    | absent nothing =>
        exact absurd ⟨content, located⟩ nothing
    | present again decoded written =>
        rw [located] at again
        cases again
        exact .intro decoded written described
  · rintro ⟨decoded, written, described⟩
    exact ⟨_, .present located decoded written, described⟩

/-- A text within the limits that gives no configuration has an error to report. -/
theorem exists_error_of_useless
    [Text.CharacterNames]
    {text : List Char}
    (stored : files.read (directory.child filename) = .ok content)
    (decoded : Utf8.decode content = .ok text)
    (within : ∀ excess, ¬Exceeds content excess)
    (useless : ¬∃ config, Yields content config) :
    ∃ error, load files none directory = .error (.config (.invalid error)) := by
  have located : files.read (location none directory) = .ok content := stored
  cases loaded : load files none directory with
  | ok config =>
      exact absurd ⟨config, (load_eq_ok_iff_yields stored).mp loaded⟩ useless
  | error fault =>
      have isText : IsText files (location none directory) := by
        intro other again
        rw [located] at again
        cases again
        exact ⟨text, decoded⟩
      have withinFile (excess : Excess) : ¬ExceedsAt files (location none directory) excess := by
        rintro ⟨other, again, exceeds⟩
        rw [located] at again
        cases again
        exact within excess exceeds
      rcases exists_error_of_load isText withinFile loaded with ⟨error, rfl⟩
      exact ⟨error, rfl⟩

theorem load_of_undecodable
    [Text.CharacterNames]
    {error : Text.Utf8.DecodeError}
    (stored : files.read (directory.child filename) = .ok content)
    (undecodable : Utf8.decode content = .error error) :
    load files none directory = .error (.undecodable error) := by
  have unloaded : loadDocument files none directory = .error (.undecodable error) := by
    rw [loadDocument_of_present stored, undecodable]
  exact load_eq_error_iff.mpr (.inl unloaded)

theorem load_of_exceeds
    [Text.CharacterNames]
    {excess : Excess}
    (stored : files.read (directory.child filename) = .ok content)
    (exceeds : Exceeds content excess) :
    load files none directory = .error (.config (.excessive excess)) :=
  load_eq_excessive_iff.mpr ⟨content, stored, exceeds⟩

end Config

/-! ## Running the command -/

namespace Command

variable
    {files : FileTree}
    {input : String}
    {arguments : Arguments}

/-- With an input alone, it is the configuration beside the input that cannot be loaded. -/
theorem run_input_of_load_error
    [Text.CharacterNames]
    {fault : Config.LoadFault}
    (accepted : Arguments.ofList [input] = .ok arguments)
    (failed : Config.load files none (Path.ofString input).parent = .error fault) :
    run files [input] = .ofLoadFault files fault := by
  obtain rfl := eq_of_ofList_singleton accepted
  exact run_of_load_error accepted failed

end Command

/-! ## Checking a document -/

theorem Document.check_of_undecodable
    [Text.CharacterNames]
    {files : FileTree} {document : Document} {text : String} {error : Text.Utf8.DecodeError}
    (failed : document.config files = .error (.undecodable error)) :
    document.check files text none = .error (.undecodable error) := by
  simp only [check, settings, failed, bind, Except.bind]

/-- The diagnostic of a faulty configuration stands on the first line and names the file. -/
theorem Diagnostic.ofConfigError_names_file (error : ConfigError) :
    (ofConfigError error).startLine = 0 ∧
      (ofConfigError error).endLine = 0 ∧
      "nestlex.toml:".toList <+: (ofConfigError error).message.toList := by
  refine ⟨rfl, rfl, ' ' :: error.message.toList, ?_⟩
  simp [ofConfigError, ofPlace, Config.filename]

namespace Config

open Command (run errorLine Arguments.ofList)

/--
Wherever a file with some content is looked for as the configuration, an error of the configuration
is reported: by loading, by the command, and by every check of a document.
-/
structure Reported [Text.CharacterNames] (content : List UInt8) : Prop where
  loading :
    ∀ files directory,
      files.read (directory.child filename) = .ok content →
        ∃ error, load files none directory = .error (.config (.invalid error))
  running :
    ∀ files input arguments,
      Arguments.ofList [input] = .ok arguments →
        files.read ((Path.ofString input).parent.child filename) = .ok content →
          ∃ error,
            load files none (Path.ofString input).parent = .error (.config (.invalid error)) ∧
              run files [input] =
                { ending := .returned 2, stderr := errorLine error.message, files }
  checking :
    ∀ files history event document text path,
      EditorEvent.Checks history event document text none →
        document.path = some path →
          (Editor.session files history).files.read (path.parent.child filename) = .ok content →
            ∃ diagnostic,
              ((Editor.session files history).perform event).1.published =
                  (Editor.session files history).published ++
                    [{ uri := document.uri, diagnostics := [diagnostic] }] ∧
                ((Editor.session files history).perform event).2 = none ∧
                diagnostic.startLine = 0 ∧
                diagnostic.endLine = 0 ∧
                "nestlex.toml:".toList <+: diagnostic.message.toList

/--
Wherever a file with some content is looked for as the configuration, a failure ends the loading,
the command and every check, and nothing is shown of a document.
-/
structure Escapes
    [Text.CharacterNames]
    (content : List UInt8)
    (fault : LoadFault)
    (failure : Command.Failure)
    (broken : TokenForest.Document.CheckFault) :
    Prop where
  loading :
    ∀ files directory,
      files.read (directory.child filename) = .ok content →
        load files none directory = .error fault
  running :
    ∀ files input arguments,
      Arguments.ofList [input] = .ok arguments →
        files.read ((Path.ofString input).parent.child filename) = .ok content →
          run files [input] = { ending := .aborted failure, files }
  checking :
    ∀ files history event document text path,
      EditorEvent.Checks history event document text none →
        document.path = some path →
          (Editor.session files history).files.read (path.parent.child filename) = .ok content →
            ((Editor.session files history).perform event).1.published =
                (Editor.session files history).published ∧
              ((Editor.session files history).perform event).2 = some broken

variable {content : List UInt8}

theorem reported_of_decoded
    [Text.CharacterNames]
    {text : List Char}
    (decoded : Utf8.decode content = .ok text)
    (within : ∀ excess, ¬Exceeds content excess)
    (useless : ¬∃ config, Yields content config) :
    Reported content where
  loading := by
    intro files directory stored
    exact exists_error_of_useless stored decoded within useless
  running := by
    intro files input arguments accepted stored
    rcases exists_error_of_useless stored decoded within useless with ⟨error, failed⟩
    exact ⟨error, failed, Command.run_input_of_load_error accepted failed⟩
  checking := by
    intro files history event document text path checks named stored
    rcases exists_error_of_useless stored decoded within useless with ⟨error, failed⟩
    have configured :
        document.config (Editor.session files history).files =
          .error (.config (.invalid error)) := by
      rw [TokenForest.Document.config, named]
      exact failed
    rcases Editor.perform_of_check_ok checks (Document.check_of_config_error configured) with
      ⟨published, noFault⟩
    exact ⟨_, published, noFault, Diagnostic.ofConfigError_names_file error⟩

/-- A failure of the loading that ends the command and every check is one that escapes. -/
theorem escapes_of_load
    [Text.CharacterNames]
    {fault : LoadFault} {failure : Command.Failure} {broken : TokenForest.Document.CheckFault}
    (loading :
      ∀ files directory,
        files.read (directory.child filename) = .ok content →
          load files none directory = .error fault)
    (running :
      ∀ files input arguments,
        Arguments.ofList [input] = .ok arguments →
          load files none (Path.ofString input).parent = .error fault →
            run files [input] = { ending := .aborted failure, files })
    (checking :
      ∀ files text (document : TokenForest.Document),
        document.config files = .error fault →
          document.check files text none = .error broken) :
    Escapes content fault failure broken where
  loading := loading
  running := by
    intro files input arguments accepted stored
    exact running files input arguments accepted (loading files _ stored)
  checking := by
    intro files history event document text path checks named stored
    have configured : document.config (Editor.session files history).files = .error fault := by
      rw [TokenForest.Document.config, named]
      exact loading _ _ stored
    exact Editor.perform_of_check_error checks (checking _ text document configured)

theorem escapes_of_undecodable
    [Text.CharacterNames]
    {error : Text.Utf8.DecodeError}
    (undecodable : Utf8.decode content = .error error) :
    Escapes content (.undecodable error) (.undecodable error) (.undecodable error) :=
  escapes_of_load
    (fun _ _ stored => load_of_undecodable stored undecodable)
    (fun _ _ _ => Command.run_input_of_load_error)
    (fun _ _ _ => Document.check_of_undecodable)

theorem escapes_of_exceeds
    [Text.CharacterNames]
    {excess : Excess}
    (exceeds : Exceeds content excess) :
    Escapes content (.config (.excessive excess)) (.excessive excess) (.excessive excess) :=
  escapes_of_load
    (fun _ _ stored => load_of_exceeds stored exceeds)
    (fun _ _ _ => Command.run_input_of_load_error)
    (fun _ text _ => Document.check_of_config_excessive text)

/--
A configuration file that gives no configuration is reported if it is text and within the limits.
If it is no text, the failure of its decoding escapes, and if it goes beyond a limit, that escapes.
-/
theorem useless_configuration_is_reported_or_escapes
    [Text.CharacterNames]
    (content : List UInt8)
    (useless : ¬∃ config, Yields content config) :
    (∀ text, Utf8.decode content = .ok text →
        (∀ excess, ¬Exceeds content excess) → Reported content) ∧
      (∀ error, Utf8.decode content = .error error →
        Escapes content (.undecodable error) (.undecodable error) (.undecodable error)) ∧
      ∀ excess, Exceeds content excess →
        Escapes content (.config (.excessive excess)) (.excessive excess) (.excessive excess) :=
  ⟨fun _ decoded within => reported_of_decoded decoded within useless,
    fun _ undecodable => escapes_of_undecodable undecodable,
    fun _ exceeds => escapes_of_exceeds exceeds⟩

/-- A configuration whose strictness is no truth value. -/
def wordyText : List Char := "[lexer]\nstrict = \"yes\"\n".toList

/-- The content of a file with this configuration. -/
def wordyContent : List UInt8 := Utf8.encode wordyText

open scoped Text.CharacterNames

theorem useless_configuration_is_reported_or_escapes_wordy :
    (¬∃ config, Yields wordyContent config) ∧
      ∃ error diagnostic,
        run (folder wordyContent) ["sum"] =
            { ending := .returned 2
              stderr := errorLine (ConfigError.message error)
              files := folder wordyContent } ∧
          ((Editor.session (folder wordyContent) []).perform
              (.opened draft sumText)).1.published =
            [{ uri := "file:///sum", diagnostics := [diagnostic] }] ∧
          diagnostic.startLine = 0 ∧
          "nestlex.toml:".toList <+: diagnostic.message.toList := by
  have decoded : Utf8.decode wordyContent = .ok wordyText := Utf8.decode_encode _
  -- The document is refused, and it has nothing that could go beyond a limit.
  have reads :
      ((Toml.read wordyText).toOption.any fun document =>
        !(ofDocument document).isOk && (Document.tablesAt document "patterns").isEmpty &&
          (Document.tablesAt document "precedence").isEmpty) = true := by
    decide +kernel
  have useless : ¬∃ config, Yields wordyContent config := by
    rintro ⟨config, ⟨again, written, described⟩⟩
    rw [decoded] at again
    cases again
    rw [written] at reads
    simp [Except.toOption, described, Except.isOk, Except.toBool] at reads
  have within (excess : Excess) : ¬Exceeds wordyContent excess := by
    rintro (⟨again, beyond⟩ | ⟨again, written, first⟩)
    · rw [decoded] at again
      cases again
      rw [beyond] at reads
      cases reads
    · rw [decoded] at again
      cases again
      rw [written] at reads
      simp only [Except.toOption, Option.any_some, Bool.and_eq_true, List.isEmpty_iff] at reads
      rcases reads with ⟨⟨_, noPatterns⟩, noPrecedence⟩
      rcases Document.beyond_of_excessive_mem_offences (List.mem_of_head? first) with
        ⟨entry, declared, _⟩ | ⟨entry, declared, _⟩
      · rw [noPatterns] at declared
        cases declared
      · rw [noPrecedence] at declared
        cases declared
  have reported :=
    (useless_configuration_is_reported_or_escapes wordyContent useless).1 _ decoded within
  have accepted : Command.Arguments.ofList ["sum"] = .ok { input := "sum" } := by
    decide +kernel
  rcases reported.running _ "sum" _ accepted (read_folder wordyContent) with ⟨error, _, ran⟩
  rcases reported.checking (folder wordyContent) [] _ draft sumText _ (.opened draft sumText) rfl
      (read_folder wordyContent) with
    ⟨diagnostic, published, _, first, _, named⟩
  exact ⟨useless, error, diagnostic, ran, published, first, named⟩

/-- A byte that begins no character is no configuration, but nothing reports it. -/
theorem undecodable_configuration_is_not_reported :
    let content : List UInt8 := [0xff]
    ModerateContent content ∧
      (¬∃ config, Yields content config) ∧
      (folder content).read ((Path.ofString "sum").parent.child filename) = .ok content ∧
      (¬∃ error,
        load (folder content) none (Path.ofString "sum").parent =
          .error (.config (.invalid error))) ∧
      (∀ code, (run (folder content) ["sum"]).ending ≠ .returned code) ∧
      (run (folder content) ["sum"]).stderr = "" ∧
      ((Editor.session (folder content) []).perform (.opened draft sumText)).1.published = [] := by
  intro content
  have undecodable :
      Utf8.decode content = .error { lead := 0xff, flaw := .badStart, start := 0, count := 1 } := by
    decide +kernel
  have accepted : Command.Arguments.ofList ["sum"] = .ok { input := "sum" } := by
    decide +kernel
  have failed := load_of_undecodable (read_folder content) undecodable
  have ran := Command.run_input_of_load_error accepted failed
  refine ⟨?_, ?_, read_folder content, ?_, ?_, ?_, ?_⟩
  · intro text document decoded
    rw [undecodable] at decoded
    cases decoded
  · rintro ⟨config, ⟨decoded, _, _⟩⟩
    rw [undecodable] at decoded
    cases decoded
  · rintro ⟨error, reported⟩
    rw [failed] at reported
    cases reported
  · intro code
    rw [ran, Command.Outcome.ofLoadFault]
    simp
  · rw [ran, Command.Outcome.ofLoadFault]
  · decide +kernel

end Config

end TokenForest
