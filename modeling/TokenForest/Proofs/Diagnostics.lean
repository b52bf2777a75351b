import TokenForest.Editor
import TokenForest.Proofs.Lexer.Offender

/-!
# What an editor is told

A check of a document publishes once.  It publishes what grouping says: nothing if there is a
forest, and otherwise one diagnostic with the message of the error, at its place counted from zero.
What has happened in the session before makes no difference, except that it decides which files
there are and which text the document has.
-/

namespace TokenForest

open Text (Source)

/-! ## Diagnostics of a source -/

theorem forest_not_broken
    (source : Source)
    (config : Config)
    (breakdown : Breakdown) :
    forest source config ≠ .error (.broken breakdown) :=
  (Lexer.atBoundary_ofSource source config "<input>").group_not_broken breakdown

theorem exists_pointsTo_of_forest
    {source : Source} {config : Config} {error : GroupError}
    (failed : forest source config = .error (.reported error)) :
    ∃ index, error.PointsTo source index :=
  (Lexer.atBoundary_ofSource source config "<input>").pointsTo_of_group failed

/-- A diagnostic shows an error: its message, its place counted from zero, and how far it goes. -/
structure GroupError.ShownBy
    (error : GroupError)
    (source : Source)
    (diagnostic : Diagnostic) :
    Prop where
  severity : diagnostic.severity = .error
  message : diagnostic.message = error.message
  line : diagnostic.startLine + 1 = (error.position source).line
  column : diagnostic.startColumn + 1 = (error.position source).column
  endLine : diagnostic.endLine = diagnostic.startLine
  endColumn : diagnostic.endColumn = diagnostic.startColumn + error.width

/-- The diagnostics that grouping a source comes to. -/
inductive Diagnoses (source : Source) (config : Config) : List Diagnostic → Prop where
  | clean
      {roots : List (Tree Token)}
      (grouped : forest source config = .ok roots) :
      Diagnoses source config []
  | faulty
      {error : GroupError} {diagnostic : Diagnostic}
      (failed : forest source config = .error (.reported error))
      (shown : error.ShownBy source diagnostic) :
      Diagnoses source config [diagnostic]

/-- Places are counted from one, so that one less is no less than zero. -/
theorem shownBy_ofGroupError
    {source : Source} {config : Config} {error : GroupError}
    (failed : forest source config = .error (.reported error)) :
    error.ShownBy source (Diagnostic.ofGroupError source error) := by
  rcases exists_pointsTo_of_forest failed with ⟨index, points⟩
  have place := points.position_eq
  exact
    { severity := rfl
      message := rfl
      line := by
        rw [Diagnostic.ofGroupError, place]
        rfl
      column := by
        rw [Diagnostic.ofGroupError, place]
        rfl
      endLine := rfl
      endColumn := rfl }

theorem exists_diagnoses
    (source : Source)
    (config : Config) :
    ∃ diagnostics,
      diagnose source config = .ok diagnostics ∧ Diagnoses source config diagnostics := by
  unfold diagnose
  cases outcome : forest source config with
  | ok roots =>
      exact ⟨_, rfl, .clean outcome⟩
  | error fault =>
      cases fault with
      | reported error =>
          exact ⟨_, rfl, .faulty outcome (shownBy_ofGroupError outcome)⟩
      | broken breakdown =>
          exact absurd outcome (forest_not_broken source config breakdown)

/-! ## Documents -/

namespace Document

variable
    {files : FileTree}
    {document : Document}

/-- The configuration that a document is checked under. -/
inductive InForce [Text.CharacterNames] (files : FileTree) (document : Document) :
    Option Config → Config → Prop where
  | given (config : Config) :
      InForce files document (some config) config
  | beside
      {path : Path} {config : Config}
      (named : document.path = some path)
      (loaded : Config.load files none path.parent = .ok config) :
      InForce files document none config
  | standard
      (pathless : document.path = none) :
      InForce files document none Config.standard

theorem InForce.settings_eq
    [Text.CharacterNames]
    {given : Option Config} {config : Config}
    (inForce : document.InForce files given config) :
    document.settings files given = .ok (.ok config) := by
  cases inForce with
  | given =>
      rfl
  | beside named loaded =>
      simp only [settings, Document.config, named, loaded]
  | standard pathless =>
      simp only [settings, Document.config, pathless]

/-- Under a configuration, what is published is what grouping comes to. -/
theorem InForce.exists_check
    [Text.CharacterNames]
    {given : Option Config} {config : Config}
    (inForce : document.InForce files given config)
    (text : String) :
    ∃ diagnostics,
      document.check files text given = .ok { uri := document.uri, diagnostics } ∧
        Diagnoses (Source.ofString text) config diagnostics := by
  rcases exists_diagnoses (Source.ofString text) config with ⟨diagnostics, found, diagnoses⟩
  refine ⟨diagnostics, ?_, diagnoses⟩
  rw [check, inForce.settings_eq]
  simp only [bind, Except.bind, found]
  rfl

theorem path_ofUri_of_not_file
    {uri : String}
    (elsewhere : ¬"file:".toList <+: uri.toList) :
    (ofUri uri).path = none := by
  have schemeless : Path.afterScheme? uri.toList = none := by
    unfold Path.afterScheme?
    split
    · rename_i rest written
      rw [written] at elsewhere
      exact absurd ⟨rest, rfl⟩ elsewhere
    · rfl
  rw [ofUri, Path.ofUri?, schemeless]

end Document

/-! ## Sessions of an editor -/

namespace EditorEvent

/-- The text that an event gives to the document of a URI. -/
def textFor? (uri : String) : EditorEvent → Option String
  | .opened document text => if document.uri = uri then some text else none
  | .changed document text => if document.uri = uri then some text else none
  | _ => none

/-- The text that the document of a URI was last opened with or changed to. -/
def lastText? (uri : String) (history : List EditorEvent) : Option String :=
  history.reverse.findSome? (·.textFor? uri)

/-- An event is a check of a document with some text, after other events. -/
inductive Checks (history : List EditorEvent) :
    EditorEvent → Document → String → Option Config → Prop where
  | opened (document : Document) (text : String) :
      Checks history (.opened document text) document text none
  | changed (document : Document) (text : String) :
      Checks history (.changed document text) document text none
  | checked
      {text : String}
      (document : Document)
      (given : Option Config)
      (held : lastText? document.uri history = some text) :
      Checks history (.checked document given) document text given

end EditorEvent

namespace Editor

open EditorEvent

variable {editor : Editor}

/-- An editor with some files, after some events. -/
def session [Text.CharacterNames] (files : FileTree) (history : List EditorEvent) : Editor :=
  performAll { files } history

theorem lookup_hold
    (document : Document)
    (text uri : String) :
    (editor.hold document text).texts.lookup uri =
      if document.uri = uri then some text else editor.texts.lookup uri := by
  rw [hold]
  split
  · rename_i same
    subst same
    exact Entries.lookup_put_self _ _ _
  · rename_i differs
    exact Entries.lookup_put_of_ne (Ne.symm differs) _ _

theorem lookup_hold_self
    (document : Document)
    (text : String) :
    (editor.hold document text).texts.lookup document.uri = some text := by
  rw [lookup_hold, if_pos rfl]

/-- A check changes nothing but what has been published. -/
theorem check_texts
    [Text.CharacterNames]
    (document : Document)
    (given : Option Config) :
    (editor.check document given).1.texts = editor.texts := by
  unfold check
  split
  · rfl
  · split
    · rfl
    · rfl

theorem lookup_perform
    [Text.CharacterNames]
    (event : EditorEvent)
    (uri : String) :
    (editor.perform event).1.texts.lookup uri =
      (event.textFor? uri).or (editor.texts.lookup uri) := by
  cases event with
  | opened document text =>
      rw [perform, check_texts, lookup_hold, textFor?]
      split
      · rfl
      · rfl
  | changed document text =>
      rw [perform, check_texts, lookup_hold, textFor?]
      split
      · rfl
      · rfl
  | checked document given =>
      rw [perform, check_texts]
      rfl
  | written place entry =>
      rfl
  | removed place =>
      rfl

/-- A document has the text that it was last opened with or changed to. -/
theorem lookup_session
    [Text.CharacterNames]
    (files : FileTree)
    (history : List EditorEvent)
    (uri : String) :
    (session files history).texts.lookup uri = lastText? uri history := by
  -- A session grows at its end, and the last text is looked for from there.
  induction history using List.reverseRecOn with
  | nil =>
      rfl
  | append_singleton earlier event ih =>
      rw [session, performAll, List.foldl_append, List.foldl_cons, List.foldl_nil, lookup_perform,
        lastText?, List.reverse_concat, List.findSome?_cons]
      rw [session, performAll, lastText?] at ih
      rw [ih]
      cases event.textFor? uri with
      | some text =>
          rfl
      | none =>
          rfl

/-- What is published on a check, unless it breaks off. -/
theorem check_eq
    [Text.CharacterNames]
    {document : Document} {text : String}
    (held : editor.texts.lookup document.uri = some text)
    (given : Option Config) :
    editor.check document given =
      match document.check editor.files text given with
      | .ok publication => (editor.publish publication, none)
      | .error fault => (editor, some fault) := by
  unfold check
  split
  · rename_i absent
    rw [held] at absent
    cases absent
  · rename_i own present
    rw [held] at present
    cases present
    rfl

section Checking

variable
    {files : FileTree} {history : List EditorEvent} {event : EditorEvent}
    {document : Document} {text : String} {given : Option Config}

/-- A checking event checks the text that the document has then, with the files as they were. -/
theorem exists_held
    [Text.CharacterNames]
    (files : FileTree)
    (checks : event.Checks history document text given) :
    ∃ holding : Editor,
      holding.files = (session files history).files ∧
        holding.published = (session files history).published ∧
        holding.texts.lookup document.uri = some text ∧
        (session files history).perform event = holding.check document given := by
  cases checks with
  | opened =>
      exact ⟨(session files history).hold document text, rfl, rfl,
        lookup_hold_self document text, rfl⟩
  | changed =>
      exact ⟨(session files history).hold document text, rfl, rfl,
        lookup_hold_self document text, rfl⟩
  | checked _ _ held =>
      refine ⟨session files history, rfl, rfl, ?_, rfl⟩
      rw [lookup_session, held]

theorem perform_of_check_ok
    [Text.CharacterNames]
    {publication : Publication}
    (checks : event.Checks history document text given)
    (checked : document.check (session files history).files text given = .ok publication) :
    ((session files history).perform event).1.published =
        (session files history).published ++ [publication] ∧
      ((session files history).perform event).2 = none := by
  rcases exists_held files checks with ⟨holding, sameFiles, samePublished, held, performed⟩
  rw [← sameFiles] at checked
  rw [performed, check_eq held, checked, ← samePublished]
  exact ⟨rfl, rfl⟩

theorem perform_of_check_error
    [Text.CharacterNames]
    {fault : Document.CheckFault}
    (checks : event.Checks history document text given)
    (checked : document.check (session files history).files text given = .error fault) :
    ((session files history).perform event).1.published = (session files history).published ∧
      ((session files history).perform event).2 = some fault := by
  rcases exists_held files checks with ⟨holding, sameFiles, samePublished, held, performed⟩
  rw [← sameFiles] at checked
  rw [performed, check_eq held, checked, ← samePublished]
  exact ⟨rfl, rfl⟩

/-- A checking event publishes once, under whichever configuration is in force. -/
theorem publishes_diagnoses
    [Text.CharacterNames]
    {config : Config}
    (checks : event.Checks history document text given)
    (inForce : document.InForce (session files history).files given config) :
    ∃ diagnostics,
      ((session files history).perform event).1.published =
          (session files history).published ++ [{ uri := document.uri, diagnostics }] ∧
        ((session files history).perform event).2 = none ∧
        Diagnoses (Source.ofString text) config diagnostics := by
  rcases inForce.exists_check text with ⟨diagnostics, checked, diagnoses⟩
  rcases perform_of_check_ok checks checked with ⟨published, noFault⟩
  exact ⟨diagnostics, published, noFault, diagnoses⟩

/-- What is published depends on the files and the text, and on nothing else in the history. -/
theorem publishes_alike
    [Text.CharacterNames]
    {files' : FileTree} {history' : List EditorEvent} {event' : EditorEvent}
    (checks : event.Checks history document text given)
    (checks' : event'.Checks history' document text given)
    (sameFiles : (session files' history').files = (session files history).files) :
    ∃ publications fault?,
      ((session files history).perform event).1.published =
          (session files history).published ++ publications ∧
        ((session files history).perform event).2 = fault? ∧
        ((session files' history').perform event').1.published =
          (session files' history').published ++ publications ∧
        ((session files' history').perform event').2 = fault? := by
  cases checked : document.check (session files history).files text given with
  | ok publication =>
      have checked' :
          document.check (session files' history').files text given = .ok publication := by
        rw [sameFiles, checked]
      rcases perform_of_check_ok checks checked with ⟨published, noFault⟩
      rcases perform_of_check_ok checks' checked' with ⟨published', noFault'⟩
      exact ⟨[publication], none, published, noFault, published', noFault'⟩
  | error fault =>
      have checked' : document.check (session files' history').files text given = .error fault := by
        rw [sameFiles, checked]
      rcases perform_of_check_error checks checked with ⟨published, faulted⟩
      rcases perform_of_check_error checks' checked' with ⟨published', faulted'⟩
      refine ⟨[], some fault, ?_, faulted, ?_, faulted'⟩
      · rw [published, List.append_nil]
      · rw [published', List.append_nil]

/--
A document that is opened, changed or checked is published once, under its own URI, with nothing if
its text has a forest and with the one error that grouping reports otherwise.  Sessions with the
same files publish the same, and a URI of another scheme than that of files has the standard
configuration.
-/
theorem diagnostics_mirror_grouping
    [Text.CharacterNames]
    (files : FileTree)
    (checks : event.Checks history document text given) :
    (∀ config, document.InForce (session files history).files given config →
        ∃ diagnostics,
          ((session files history).perform event).1.published =
              (session files history).published ++ [{ uri := document.uri, diagnostics }] ∧
            ((session files history).perform event).2 = none ∧
            Diagnoses (Source.ofString text) config diagnostics) ∧
      (∀ files' history' event',
        event'.Checks history' document text given →
        (session files' history').files = (session files history).files →
          ∃ publications fault?,
            ((session files history).perform event).1.published =
                (session files history).published ++ publications ∧
              ((session files history).perform event).2 = fault? ∧
              ((session files' history').perform event').1.published =
                (session files' history').published ++ publications ∧
              ((session files' history').perform event').2 = fault?) ∧
      (∀ uri, ¬"file:".toList <+: uri.toList →
        (Document.ofUri uri).InForce (session files history).files none Config.standard) := by
  refine ⟨?_, ?_, ?_⟩
  · intro config inForce
    exact publishes_diagnoses checks inForce
  · intro files' history' event' checks' sameFiles
    exact publishes_alike checks checks' sameFiles
  · intro uri elsewhere
    exact .standard (Document.path_ofUri_of_not_file elsewhere)

end Checking

/-- A document that is no file. -/
def draft : Document := { uri := "untitled:draft", path := none }

/-- The diagnostic of an opener that stands alone behind a blank. -/
def loneOpener : Diagnostic where
  startLine := 0
  startColumn := 1
  endLine := 0
  endColumn := 2
  message := "unclosed '(' (expected ')')"
  severity := .error
  origin := "nestlex"

open scoped Text.CharacterNames

theorem diagnostics_mirror_grouping_draft :
    ∃ diagnostic,
      ((session {} [.opened draft "()"]).perform (.changed draft " (")).1.published =
          [{ uri := "untitled:draft", diagnostics := [] },
            { uri := "untitled:draft", diagnostics := [diagnostic] }] ∧
        diagnostic.severity = .error ∧
        diagnostic.message = "unclosed '(' (expected ')')" ∧
        diagnostic.startLine = 0 ∧
        diagnostic.startColumn = 1 := by
  have opening : (EditorEvent.opened draft "()").Checks [] draft "()" none :=
    .opened draft "()"
  have changing : (EditorEvent.changed draft " (").Checks [.opened draft "()"] draft " (" none :=
    .changed draft " ("
  rcases (diagnostics_mirror_grouping {} opening).1 _ (.standard rfl) with
    ⟨before, published, _, clean⟩
  rcases (diagnostics_mirror_grouping {} changing).1 _ (.standard rfl) with
    ⟨after, publishedAlso, _, faulty⟩
  have grouped : diagnose (Source.ofString "()") Config.standard = .ok [] := by
    decide +kernel
  have ungrouped : diagnose (Source.ofString " (") Config.standard = .ok [loneOpener] := by
    decide +kernel
  cases clean with
  | faulty failed =>
      rw [diagnose, failed] at grouped
      cases grouped
  | clean =>
      cases faulty with
      | clean nothing =>
          rw [diagnose, nothing] at ungrouped
          cases ungrouped
      | faulty failed shown =>
          rw [diagnose, failed] at ungrouped
          have same := (List.cons.inj (Except.ok.inj ungrouped)).1
          have own := shownBy_ofGroupError failed
          rw [same] at own
          refine ⟨_, ?_, shown.severity, shown.message.trans own.message.symm,
            Nat.succ.inj (shown.line.trans own.line.symm),
            Nat.succ.inj (shown.column.trans own.column.symm)⟩
          rw [publishedAlso]
          exact congrArg (· ++ _) published

end Editor

end TokenForest
