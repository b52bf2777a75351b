import TokenForest.Proofs.Command.Agreement

/-!
# Command lines that spell settings

A command line names an input and makes settings, in any order.  A setting is spelled by an option,
under any of its names, with its values behind it or attached to it.  Reading the command line gives
back the input and the settings: those that add something are gathered in their order, and of those
that name a path the last one counts.
-/

namespace TokenForest

namespace Command

/-- What an option asks for with its values.  A call for help is no setting. -/
inductive Setting where
  | output (path : String)
  | config (path : String)
  | pattern (argument : String)
  | pair (opener closer : String)
  | strict
  | flat
  | verbose
  deriving DecidableEq, Repr

namespace Setting

/-- The option of a setting. -/
def option : Setting → Switch
  | .output _ => .output
  | .config _ => .config
  | .pattern _ => .pattern
  | .pair .. => .pair
  | .strict => .strict
  | .flat => .flat
  | .verbose => .verbose

/-- The values of a setting. -/
def values : Setting → List String
  | .output value | .config value | .pattern value => [value]
  | .pair opener closer => [opener, closer]
  | .strict | .flat | .verbose => []

/-- The arguments after a setting. -/
def apply (arguments : Arguments) : Setting → Arguments
  | .output path => { arguments with output := some path }
  | .config path => { arguments with config := some path }
  | .pattern argument => { arguments with patterns := arguments.patterns ++ [argument] }
  | .pair opener closer => { arguments with pairs := arguments.pairs ++ [(opener, closer)] }
  | .strict => { arguments with strict := true }
  | .flat => { arguments with flat := true }
  | .verbose => { arguments with verbose := true }

/-- The rules that a setting adds, as they are written. -/
def patterns : Setting → List String
  | .pattern argument => [argument]
  | _ => []

/-- The lexemes of the pairs that a setting adds. -/
def pairs : Setting → List (String × String)
  | .pair opener closer => [(opener, closer)]
  | _ => []

theorem length_values (setting : Setting) : setting.values.length = setting.option.arity := by
  cases setting with
  | _ =>
      rfl

theorem patterns_apply
    (setting : Setting)
    (arguments : Arguments) :
    (setting.apply arguments).patterns = arguments.patterns ++ setting.patterns := by
  cases setting with
  | _ =>
      simp [apply, patterns]

theorem pairs_apply
    (setting : Setting)
    (arguments : Arguments) :
    (setting.apply arguments).pairs = arguments.pairs ++ setting.pairs := by
  cases setting with
  | _ =>
      simp [apply, pairs]

theorem strict_apply
    (setting : Setting)
    (arguments : Arguments) :
    (setting.apply arguments).strict = (arguments.strict || (setting == .strict)) := by
  cases setting with
  | _ =>
      simp [apply]

theorem applyAll_eq
    (setting : Setting)
    (arguments : Arguments) :
    arguments.applyAll [(setting.option, setting.values)] = .ok (setting.apply arguments) := by
  cases setting with
  | _ =>
      rfl

theorem apply_input
    (setting : Setting)
    (arguments : Arguments)
    (input : String) :
    setting.apply { arguments with input } = { setting.apply arguments with input } := by
  cases setting with
  | _ =>
      rfl

end Setting

variable
    {setting : Setting}
    {settings : List Setting}
    {argument name value : String}
    {option : Switch}

/-! ## What settings come to -/

/-- The arguments that settings come to, one after another. -/
def Arguments.ofSettings (arguments : Arguments) (settings : List Setting) : Arguments :=
  settings.foldl (fun arguments setting => setting.apply arguments) arguments

theorem ofSettings_input
    (arguments : Arguments)
    (input : String) :
    { arguments with input }.ofSettings settings =
      { arguments.ofSettings settings with input } := by
  induction settings generalizing arguments with
  | nil =>
      rfl
  | cons setting rest ih =>
      simp only [Arguments.ofSettings, List.foldl_cons, Setting.apply_input]
      exact ih (setting.apply arguments)

theorem patterns_ofSettings (arguments : Arguments) :
    (arguments.ofSettings settings).patterns =
      arguments.patterns ++ settings.flatMap Setting.patterns := by
  induction settings generalizing arguments with
  | nil =>
      exact (List.append_nil _).symm
  | cons setting rest ih =>
      rw [List.flatMap_cons, ← List.append_assoc, ← setting.patterns_apply]
      exact ih (setting.apply arguments)

theorem pairs_ofSettings (arguments : Arguments) :
    (arguments.ofSettings settings).pairs = arguments.pairs ++ settings.flatMap Setting.pairs := by
  induction settings generalizing arguments with
  | nil =>
      exact (List.append_nil _).symm
  | cons setting rest ih =>
      rw [List.flatMap_cons, ← List.append_assoc, ← setting.pairs_apply]
      exact ih (setting.apply arguments)

theorem strict_ofSettings (arguments : Arguments) :
    (arguments.ofSettings settings).strict = (arguments.strict || settings.contains .strict) := by
  induction settings generalizing arguments with
  | nil =>
      exact (Bool.or_false _).symm
  | cons setting rest ih =>
      refine (ih (setting.apply arguments)).trans ?_
      rw [setting.strict_apply, List.contains_cons, Bool.or_assoc, Bool.beq_comm]

/-! ## Single arguments -/

/-- A text that stands for itself on a command line. -/
def IsWord (text : String) : Prop := classify text = .ok (.word text)

theorem isWord_of_head?
    (plain : value.toList.head? ≠ some '-') :
    IsWord value := by
  simp only [IsWord, classify, plain, ne_eq, not_false_eq_true, if_true]

/-- A single character stands for itself, even a dash. -/
theorem isWord_of_length_one
    (single : value.length = 1) :
    IsWord value := by
  by_cases dash : value.toList.head? = some '-'
  · rcases List.length_eq_one_iff.mp single with ⟨character, spelled⟩
    have same : value = "-" := by
      rw [spelled] at dash
      rw [← String.toList_inj, spelled, Option.some.inj dash]
      rfl
    subst same
    have word : classify "-" = .ok (.word "-") := by
      decide +kernel
    exact word
  · exact isWord_of_head? dash

/-- An option stands under each of its names. -/
theorem classify_name
    (listed : (name, option) ∈ Switch.named) :
    classify name = .ok (.option option name none) := by
  have each : ∀ entry ∈ Switch.named, classify entry.1 = .ok (.option entry.2 entry.1 none) := by
    decide +kernel
  exact each _ listed

/-- Names begin with a dash, have no equals sign, and stand for one option each. -/
theorem name_shape
    (listed : (name, option) ∈ Switch.named) :
    name.toList.head? = some '-' ∧ '=' ∉ name.toList ∧ Switch.named.lookup name = some option := by
  have each : ∀ entry ∈ Switch.named,
      entry.1.toList.head? = some '-' ∧ '=' ∉ entry.1.toList ∧
        Switch.named.lookup entry.1 = some entry.2 := by
    decide +kernel
  exact each _ listed

theorem lookup_named_of_equals
    (sign : '=' ∈ argument.toList) :
    Switch.named.lookup argument = none := by
  rw [List.lookup_eq_none_iff]
  rintro ⟨name, option⟩ listed
  rw [bne_iff_ne]
  rintro rfl
  exact (name_shape listed).2.1 sign

/-- A value may follow any name of an option behind an equals sign. -/
theorem classify_equals
    (listed : (name, option) ∈ Switch.named)
    (value : String) :
    classify (name ++ "=" ++ value) =
      .ok (.option option name (some { text := value.toList, equals := true })) := by
  rcases name_shape listed with ⟨dash, plain, named⟩
  have spelled : (name ++ "=" ++ value).toList = name.toList ++ '=' :: value.toList := by
    simp
  have begins : (name.toList ++ '=' :: value.toList).head? = some '-' := by
    rw [List.head?_append, dash]
    rfl
  have unnamed : Switch.named.lookup (name ++ "=" ++ value) = none := by
    apply lookup_named_of_equals
    simp
  have long : (name.toList ++ '=' :: value.toList).length ≠ 1 := by
    cases letters : name.toList with
    | nil =>
        rw [letters] at dash
        cases dash
    | cons letter rest =>
        simp
  have split : splitAtEquals? (name.toList ++ '=' :: value.toList) = some (name, value) :=
    splitAtEquals?_eq_some_iff.mpr ⟨rfl, plain⟩
  simp only [classify, spelled, begins, unnamed, long, split, named, ne_eq, not_true_eq_false,
    if_false, Option.bind_some, Option.map_some]

/-- Names have two letters or begin with two dashes. -/
theorem long_name_shape
    (listed : (name, option) ∈ Switch.named) :
    name.length = 2 ∨ name.toList[1]? = some '-' := by
  have each : ∀ entry ∈ Switch.named, entry.1.length = 2 ∨ entry.1.toList[1]? = some '-' := by
    decide +kernel
  exact each _ listed

theorem lookup_named_of_joined
    {letter first : Char} {rest : List Char}
    (spelled : argument.toList = '-' :: letter :: first :: rest)
    (single : letter ≠ '-') :
    Switch.named.lookup argument = none := by
  rw [List.lookup_eq_none_iff]
  rintro ⟨name, option⟩ listed
  rw [bne_iff_ne]
  rintro rfl
  rcases long_name_shape listed with short | dashes
  · rw [← String.length_toList, spelled] at short
    simp at short
  · rw [spelled] at dashes
    exact single (Option.some.inj dashes)

/-- An argument of one dash, a letter, and more begins no name. -/
theorem not_begins_name
    {letter : Char}
    (listed : (name, option) ∈ Switch.named)
    (single : letter ≠ '-')
    (first : Char)
    (rest : List Char) :
    ('-' :: letter :: first :: rest).isPrefixOf name.toList = false := by
  rw [Bool.eq_false_iff, ne_eq, List.isPrefixOf_iff_prefix]
  rintro ⟨more, spelled⟩
  rcases long_name_shape listed with short | dashes
  · rw [← String.length_toList, ← spelled] at short
    simp at short
  · rw [← spelled] at dashes
    exact single (Option.some.inj dashes)

/-- Where names are distinct, a name picks one entry. -/
theorem filterMap_of_nodup
    {Result : Type} {entries : List (String × Switch)} {entry : String × Switch}
    (distinct : (entries.map Prod.fst).Nodup)
    (listed : entry ∈ entries)
    (make : String × Switch → Result) :
    (entries.filterMap fun other => if other.1 = entry.1 then some (make other) else none) =
      [make entry] := by
  induction entries with
  | nil =>
      cases listed
  | cons head tail ih =>
      rw [List.map_cons, List.nodup_cons] at distinct
      rcases distinct with ⟨apart, distinct⟩
      rcases List.mem_cons.mp listed with rfl | later
      · have others :
            (tail.filterMap fun other => if other.1 = entry.1 then some (make other) else none) =
              [] := by
          rw [List.filterMap_eq_nil_iff]
          intro other among
          refine if_neg fun same => ?_
          exact apart (same ▸ List.mem_map_of_mem among)
        rw [List.filterMap_cons, if_pos rfl, others]
      · have unlike : head.1 ≠ entry.1 := fun same => apart (same ▸ List.mem_map_of_mem later)
        rw [List.filterMap_cons, if_neg unlike]
        exact ih distinct later

/-- An argument of one dash, a letter, and more can only stand for the option of this letter. -/
theorem candidates_joined
    {letter : Char}
    (listed : (name, option) ∈ Switch.named)
    (short : name.toList = ['-', letter])
    (single : letter ≠ '-')
    (first : Char)
    (rest : List Char) :
    candidates ('-' :: letter :: first :: rest) =
      [.option option name (some { text := first :: rest, equals := false })] := by
  have distinct : (Switch.named.map Prod.fst).Nodup := by
    decide +kernel
  unfold candidates
  split
  · rename_i dashes
    exact absurd (List.cons.inj (List.cons.inj dashes).2).1 single
  · refine Eq.trans (List.filterMap_congr ?_) (filterMap_of_nodup distinct listed fun entry =>
      Argument.option entry.2 entry.1 (some { text := first :: rest, equals := false }))
    intro entry among
    have same : entry.1.toList = ['-', letter] ↔ entry.1 = name := by
      rw [← short, String.toList_inj]
    rw [not_begins_name among single first rest]
    simp [same]

/--
Where an argument of one dash, a letter, and more has an equals sign, no option stands before it.
-/
theorem lookup_before_equals
    {letter first : Char} {rest : List Char} {start : String}
    (single : letter ≠ '-')
    (signless : letter ≠ '=')
    (plain : first ≠ '=')
    (split : splitAtEquals? ('-' :: letter :: first :: rest) = some (start, value)) :
    Switch.named.lookup start = none := by
  have parts := (splitAtEquals?_eq_some_iff.mp split).1
  -- The sign comes after the third character, so the part before it begins with the three.
  match spelled : start.toList with
  | [] =>
      rw [spelled] at parts
      cases parts
  | [_] =>
      rw [spelled] at parts
      exact absurd (List.cons.inj (List.cons.inj parts).2).1 signless
  | [_, _] =>
      rw [spelled] at parts
      exact absurd (List.cons.inj (List.cons.inj (List.cons.inj parts).2).2).1 plain
  | dash :: second :: third :: more =>
      rw [spelled] at parts
      cases parts
      exact lookup_named_of_joined spelled single

/-- A value may follow a name of one letter at once, unless it begins with an equals sign. -/
theorem classify_joined
    {letter first : Char} {rest : List Char}
    (listed : (name, option) ∈ Switch.named)
    (short : name.toList = ['-', letter])
    (spelled : value.toList = first :: rest)
    (plain : first ≠ '=') :
    classify (name ++ value) =
      .ok (.option option name (some { text := value.toList, equals := false })) := by
  rcases name_shape listed with ⟨_, signless, named⟩
  have single : letter ≠ '-' := by
    rintro rfl
    have same : name = "--" := String.toList_inj.mp short
    have unnamed : Switch.named.lookup "--" = none := by
      decide +kernel
    rw [same, unnamed] at named
    cases named
  have whole : (name ++ value).toList = '-' :: letter :: first :: rest := by
    rw [String.toList_append, short, spelled]
    rfl
  have noSign : letter ≠ '=' := by
    rintro rfl
    rw [short] at signless
    simp at signless
  have long : ('-' :: letter :: first :: rest).length ≠ 1 := by
    simp
  have candidate := candidates_joined listed short single first rest
  simp only [classify, whole, lookup_named_of_joined whole single, long, List.head?_cons, ne_eq,
    not_true_eq_false, if_false, spelled]
  cases split : splitAtEquals? ('-' :: letter :: first :: rest) with
  | none =>
      simp only [Option.bind_none, candidate]
  | some parts =>
      rcases parts with ⟨start, value⟩
      simp only [Option.bind_some, lookup_before_equals single noSign plain split, Option.map_none,
        candidate]

/-! ## Settings on the command line -/

/-- An argument before any lone double dash is classified. -/
def Classifies (argument : String) (found : Argument) : Prop := classify argument = .ok found

theorem Classifies.ne_dashes
    {found : Argument}
    (classifies : Classifies argument found) :
    argument ≠ "--" := by
  rintro rfl
  have refused : (classify "--").isOk = false := by
    decide +kernel
  rw [show classify "--" = .ok found from classifies] at refused
  cases refused

theorem classifyAll_of_classifies
    {line : List String} {classed : List Argument}
    (each : List.Forall₂ Classifies line classed) :
    classifyAll line = .ok classed := by
  induction each with
  | nil =>
      rfl
  | cons first rest ih =>
      rw [classifyAll, if_neg first.ne_dashes, ih, show classify _ = _ from first]
      rfl

/-- Words of a command line that make a setting. -/
inductive Spells : Setting → List String → Prop where
  /-- The option stands alone, and its values are the words behind it. -/
  | apart
      {setting : Setting} {argument name : String}
      (named : Classifies argument (.option setting.option name none))
      (words : ∀ value ∈ setting.values, IsWord value) :
      Spells setting (argument :: setting.values)
  /-- The value stands in one argument with the option. -/
  | attached
      {setting : Setting} {argument name : String} {attachment : Attachment}
      (named : Classifies argument (.option setting.option name (some attachment)))
      (only : setting.values = [String.ofList attachment.text]) :
      Spells setting [argument]

namespace Spells

theorem of_name
    (listed : (name, setting.option) ∈ Switch.named)
    (words : ∀ value ∈ setting.values, IsWord value) :
    Spells setting (name :: setting.values) :=
  .apart (classify_name listed) words

theorem of_equals
    (listed : (name, setting.option) ∈ Switch.named)
    (only : setting.values = [value]) :
    Spells setting [name ++ "=" ++ value] :=
  .attached (classify_equals listed value) (by rw [only, String.ofList_toList])

theorem of_joined
    {letter first : Char} {rest : List Char}
    (listed : (name, setting.option) ∈ Switch.named)
    (short : name.toList = ['-', letter])
    (only : setting.values = [value])
    (spelled : value.toList = first :: rest)
    (plain : first ≠ '=') :
    Spells setting [name ++ value] :=
  .attached (classify_joined listed short spelled plain) (by rw [only, String.ofList_toList])

end Spells

/-- Classified arguments that make a setting. -/
inductive Makes : Setting → List Argument → Prop where
  | apart
      {setting : Setting}
      (name : String) :
      Makes setting (.option setting.option name none :: setting.values.map .word)
  | attached
      {setting : Setting} {attachment : Attachment}
      (name : String)
      (only : setting.values = [String.ofList attachment.text]) :
      Makes setting [.option setting.option name (some attachment)]

theorem Spells.exists_makes
    {words : List String}
    (spells : Spells setting words) :
    ∃ classed, List.Forall₂ Classifies words classed ∧ Makes setting classed := by
  cases spells with
  | @apart argument name named words =>
      refine ⟨_, .cons named ?_, .apart name⟩
      rw [List.forall₂_map_right_iff, List.forall₂_same]
      exact words
  | @attached argument name attachment named only =>
      exact ⟨_, .cons named .nil, .attached name only⟩

theorem exists_makes_of_forall₂
    {lines : List (List String)}
    (spelled : List.Forall₂ Spells settings lines) :
    ∃ classes,
      List.Forall₂ (List.Forall₂ Classifies) lines classes ∧
        List.Forall₂ Makes settings classes := by
  induction spelled with
  | nil =>
      exact ⟨[], .nil, .nil⟩
  | cons first _ ih =>
      rcases first.exists_makes with ⟨classed, classifies, makes⟩
      rcases ih with ⟨classes, all, made⟩
      exact ⟨classed :: classes, .cons classifies all, .cons makes made⟩

/-! ## Reading settings -/

theorem takeWords_words
    (words : List String)
    (rest : List Argument) :
    takeWords words.length (words.map .word ++ rest) = some (words, rest) := by
  induction words with
  | nil =>
      rfl
  | cons word words ih =>
      rw [List.length_cons, List.map_cons, List.cons_append, takeWords, ih]
      rfl

/-- What stands for a setting begins with its option, and the option takes just the values. -/
theorem Makes.unfold_eq
    {classed : List Argument}
    (makes : Makes setting classed)
    (rest : List Argument) :
    ∃ name value tail,
      classed ++ rest = .option setting.option name value :: tail ∧
        ∀ short, unfold setting.option short tail value =
          .ok { options := [(setting.option, setting.values)], left := rest } := by
  cases makes with
  | apart name =>
      refine ⟨name, none, setting.values.map .word ++ rest, rfl, ?_⟩
      intro short
      rw [unfold, ← setting.length_values, takeWords_words]
  | @attached attachment name only =>
      refine ⟨name, some attachment, rest, rfl, ?_⟩
      intro short
      have single : setting.option.arity = 1 := by
        rw [← setting.length_values, only]
        rfl
      rw [unfold.eq_def]
      simp only [single, if_true, only]

theorem takeInput_nil (progress : Progress) : progress.takeInput [] = progress := by
  rcases progress with ⟨arguments, _ | _, extras⟩
  · simp [Progress.takeInput]
  · simp [Progress.takeInput]

theorem Makes.readArguments_append
    {classed : List Argument}
    (makes : Makes setting classed)
    (count : Nat)
    (progress : Progress)
    (rest : List Argument) :
    readArguments (count + 1) progress (classed ++ rest) =
      readArguments count { progress with arguments := setting.apply progress.arguments } rest := by
  rcases makes.unfold_eq rest with ⟨name, value, tail, begins, unfolds⟩
  rw [begins]
  simp only [readArguments, List.takeWhile_cons, List.dropWhile_cons, Argument.isOption,
    Bool.not_true, Bool.false_eq_true, if_false, trailing, List.map_nil, takeInput_nil, unfolds,
    bind, Except.bind, setting.applyAll_eq, List.append_nil]

/-- Settings take effect one after another. -/
theorem readArguments_flatten
    {classes : List (List Argument)}
    (makes : List.Forall₂ Makes settings classes)
    (count : Nat)
    (progress : Progress)
    (rest : List Argument) :
    readArguments (settings.length + count) progress (classes.flatten ++ rest) =
      readArguments count { progress with arguments := progress.arguments.ofSettings settings }
        rest := by
  induction makes generalizing progress with
  | nil =>
      simp [Arguments.ofSettings]
  | @cons setting classed settings classes first _ ih =>
      rw [List.length_cons, Nat.add_right_comm, List.flatten_cons, List.append_assoc,
        first.readArguments_append]
      exact ih _

theorem takeTrailing_nil (progress : Progress) : progress.takeTrailing [] = progress := by
  rcases progress with ⟨arguments, _ | _, extras⟩
  · simp [Progress.takeTrailing, trailing, Progress.takeInput]
  · simp [Progress.takeTrailing, trailing, Progress.takeInput]

/-- Where there is no input yet, a word before an option or at the end is the input. -/
theorem readArguments_word
    {progress : Progress} {rest : List Argument}
    (vacant : progress.hasInput = false)
    (last : rest.takeWhile (!·.isOption) = [])
    (count : Nat)
    (input : String) :
    readArguments (count + 1) progress (.word input :: rest) =
      readArguments (count + 1)
        { progress with arguments := { progress.arguments with input }, hasInput := true }
        rest := by
  have taken : progress.takeInput [input] =
      { progress with arguments := { progress.arguments with input }, hasInput := true } := by
    simp [Progress.takeInput, vacant]
  have trailed : progress.takeTrailing [.word input] = progress.takeInput [input] := by
    simp [Progress.takeTrailing, vacant, trailing, Argument.name]
  have words : (Argument.word input :: rest).takeWhile (!·.isOption) = [.word input] := by
    rw [List.takeWhile_cons_of_pos rfl, last]
  have left :
      (Argument.word input :: rest).dropWhile (!·.isOption) = rest.dropWhile (!·.isOption) :=
    List.dropWhile_cons_of_pos rfl
  have onwards : progress.takeInput (trailing [.word input]) =
      (progress.takeInput [input]).takeInput (trailing []) :=
    (takeInput_nil _).symm
  rw [← taken, readArguments, readArguments]
  simp only [words, left, last, trailed, takeTrailing_nil, onwards]

theorem takeWhile_flatten_of_makes
    {classes : List (List Argument)}
    (makes : List.Forall₂ Makes settings classes) :
    classes.flatten.takeWhile (!·.isOption) = [] := by
  cases makes with
  | nil =>
      rfl
  | cons first _ =>
      rcases first.unfold_eq [] with ⟨name, value, tail, begins, _⟩
      rw [List.append_nil] at begins
      rw [List.flatten_cons, begins, List.cons_append, List.takeWhile_cons]
      rfl

theorem length_le_of_makes
    {classes : List (List Argument)}
    (makes : List.Forall₂ Makes settings classes) :
    settings.length ≤ classes.flatten.length := by
  induction makes with
  | nil =>
      exact Nat.le_refl _
  | cons first _ ih =>
      rcases first.unfold_eq [] with ⟨name, value, tail, begins, _⟩
      rw [List.append_nil] at begins
      rw [List.flatten_cons, List.length_append, begins, List.length_cons, List.length_cons]
      omega

/-- Settings, an input, and more settings are read to the end. -/
theorem readArguments_line
    {before after : List Setting} {classes others : List (List Argument)} {count : Nat}
    (makes : List.Forall₂ Makes before classes)
    (alsoMakes : List.Forall₂ Makes after others)
    (enough : before.length + after.length + 2 ≤ count)
    (input : String) :
    readArguments count {} (classes.flatten ++ .word input :: others.flatten) =
      .ok
        { arguments := { input : Arguments }.ofSettings (before ++ after), hasInput := true } := by
  rcases Nat.exists_eq_add_of_le enough with ⟨spare, rfl⟩
  have begins := takeWhile_flatten_of_makes alsoMakes
  calc
    _ = readArguments (before.length + (after.length + (spare + 1) + 1)) {}
          (classes.flatten ++ .word input :: others.flatten) := by
      congr 1
      omega
    _ = readArguments (after.length + (spare + 1) + 1)
          { arguments := ({} : Arguments).ofSettings before } (.word input :: others.flatten) :=
      readArguments_flatten makes _ _ _
    _ = readArguments (after.length + (spare + 2))
          { arguments := { ({} : Arguments).ofSettings before with input }, hasInput := true }
          (others.flatten ++ []) := by
      rw [readArguments_word rfl begins, List.append_nil]
      rfl
    _ = readArguments (spare + 2)
          { arguments := { ({} : Arguments).ofSettings before with input }.ofSettings after
            hasInput := true } [] :=
      readArguments_flatten alsoMakes _ _ _
    _ = .ok { arguments := { ({} : Arguments).ofSettings before with input }.ofSettings after
              hasInput := true } := by
      rw [readArguments]
      exact congrArg Except.ok (takeTrailing_nil _)
    _ = _ := by
      rw [← ofSettings_input, Arguments.ofSettings, Arguments.ofSettings, Arguments.ofSettings,
        List.foldl_append]

/-- A command line: settings, an input, and more settings. -/
inductive Line : List String → String → List Setting → Prop where
  | intro
      {before after : List Setting} {lines more : List (List String)} {input : String}
      (first : List.Forall₂ Spells before lines)
      (word : IsWord input)
      (second : List.Forall₂ Spells after more) :
      Line (lines.flatten ++ input :: more.flatten) input (before ++ after)

/-- A command line is read as its input with its settings. -/
theorem Line.ofList_eq
    {line : List String} {input : String}
    (spells : Line line input settings) :
    Arguments.ofList line = .ok ({ input : Arguments }.ofSettings settings) := by
  rcases spells with ⟨first, word, second⟩
  rcases exists_makes_of_forall₂ first with ⟨classes, classified, makes⟩
  rcases exists_makes_of_forall₂ second with ⟨others, alsoClassified, alsoMakes⟩
  have together := List.rel_append (List.rel_flatten classified)
    (.cons word (List.rel_flatten alsoClassified))
  have long := length_le_of_makes makes
  have alsoLong := length_le_of_makes alsoMakes
  have read := readArguments_line makes alsoMakes
    (show _ ≤ (classes.flatten ++ .word input :: others.flatten).length + 1 by
      rw [List.length_append, List.length_cons]
      omega)
    input
  simp only [Arguments.ofList, classifyAll_of_classifies together, bind, Except.bind, read]
  rfl

end Command

end TokenForest
