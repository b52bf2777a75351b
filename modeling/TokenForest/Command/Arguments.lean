import TokenForest.Pattern.CharClass
import TokenForest.Text.Quoted

/-!
# Command-line arguments

Arguments are words and options.  Options may be shortened as long as they stay unique, may carry
their value after an equals sign or, with one dash, right after the letter, and flags of one letter
may be joined.  After a lone double dash everything is a word.  Options take effect in order; asking
for help ends the reading at once.
-/

namespace TokenForest.Command

/-- The options of the command. -/
inductive Switch where
  | help
  | output
  | config
  | pattern
  | pair
  | strict
  | flat
  | verbose
  deriving DecidableEq, Repr

namespace Switch

/-- The names of an option. -/
def names : Switch → List String
  | .help => ["-h", "--help"]
  | .output => ["-o", "--output"]
  | .config => ["--config"]
  | .pattern => ["-p", "--pattern"]
  | .pair => ["--pair"]
  | .strict => ["--strict"]
  | .flat => ["--flat"]
  | .verbose => ["-v", "--verbose"]

/-- The number of values that an option takes. -/
def arity : Switch → Nat
  | .output | .config | .pattern => 1
  | .pair => 2
  | .help | .strict | .flat | .verbose => 0

/-- All options, in the order in which the help lists them. -/
def all : List Switch :=
  [.help, .output, .config, .pattern, .pair, .strict, .flat, .verbose]

/-- All names of options with what they name. -/
def named : List (String × Switch) :=
  all.flatMap fun option => option.names.map fun name => (name, option)

/-- The names of an option in messages. -/
def label (option : Switch) : String := "/".intercalate option.names

end Switch

/-- What is wrong with the arguments. -/
inductive ArgumentError where
  | missingInput
  | unrecognized (words : List String)
  | missingValues (option : Switch)
  | needlessValue (option : Switch) (value : String)
  | ambiguous (argument : String) (names : List String)
  deriving DecidableEq, Repr

/-- The wording of an argument error. -/
def ArgumentError.message : ArgumentError → String
  | .missingInput => "the following arguments are required: input"
  | .unrecognized words => "unrecognized arguments: " ++ " ".intercalate words
  | .missingValues option =>
    "argument " ++ option.label ++
      (if option.arity = 1 then ": expected one argument"
        else s!": expected {option.arity} arguments")
  | .needlessValue option value =>
    "argument " ++ option.label ++ ": ignored explicit argument " ++ Text.Quoted.ofString value
  | .ambiguous argument names =>
    "ambiguous option: " ++ argument ++ " could match " ++ ", ".intercalate names

/-- Why the arguments ask for no run. -/
inductive Stop where
  | help
  | invalid (error : ArgumentError)
  deriving DecidableEq, Repr

/-- What the arguments say. -/
structure Arguments where
  input : String := ""
  output : Option String := none
  config : Option String := none
  patterns : List String := []
  pairs : List (String × String) := []
  strict : Bool := false
  flat : Bool := false
  verbose : Bool := false
  deriving DecidableEq, Repr

/-- A value in the same argument as its option. -/
structure Attachment where
  text : List Char
  /-- Whether an equals sign stands before the value. -/
  equals : Bool
  deriving DecidableEq, Repr

/-- What is attached to a letter that the given characters follow. -/
def Attachment.behind? : List Char → Option Attachment
  | [] => none
  | first :: rest =>
    if first = '=' then some { text := rest, equals := true }
    else some { text := first :: rest, equals := false }

/-- What is attached is no longer than what follows. -/
theorem Attachment.length_behind?
    {following : List Char}
    {attachment : Attachment}
    (found : behind? following = some attachment) :
    attachment.text.length ≤ following.length := by
  cases following with
  | nil =>
      cases found
  | cons first rest =>
      simp only [behind?] at found
      split at found
      · cases found
        exact Nat.le_succ _
      · cases found
        exact Nat.le_refl _

/-- An argument as it stands in line. -/
inductive Argument where
  | word (text : String)
  /-- The double dash after which everything is a word. -/
  | dashes
  | option (option : Switch) (name : String) (value : Option Attachment)
  /-- What looks like an option but is none. -/
  | unknown (text : String)
  deriving DecidableEq, Repr

/-- Splits a text at the first equals sign, if there is one. -/
def splitAtEquals? (text : List Char) : Option (String × String) :=
  match text.dropWhile (· ≠ '=') with
  | [] => none
  | _ :: value => some (String.ofList (text.takeWhile (· ≠ '=')), String.ofList value)

/-- Whether a text is a negative number: digits, or a point with digits after it. -/
def isNegativeNumber (text : List Char) : Bool :=
  match text with
  | '-' :: body =>
    let body := if body.getLast? = some '\n' then body.dropLast else body
    let isDigit (character : Char) : Bool := Pattern.CharClass.digit.covers false character.toNat
    let rest := body.dropWhile isDigit
    match rest with
    | [] => !body.isEmpty
    | '.' :: fraction => !fraction.isEmpty && fraction.all isDigit
    | _ => false
  | _ => false

/-- The options that a shortened name may mean, with their names and values. -/
def candidates (text : List Char) : List Argument :=
  match text with
  | '-' :: '-' :: _ =>
    let (start, value) : List Char × Option Attachment :=
      match splitAtEquals? text with
      | some (start, value) => (start.toList, some { text := value.toList, equals := true })
      | none => (text, none)
    (Switch.named.filter fun entry => start.isPrefixOf entry.1.toList).map fun entry =>
      .option entry.2 entry.1 value
  | _ =>
    Switch.named.filterMap fun entry =>
      if entry.1.toList = text.take 2 then
        some (.option entry.2 entry.1 (some { text := text.drop 2, equals := false }))
      else if text.isPrefixOf entry.1.toList then some (.option entry.2 entry.1 none)
      else none

/-- The name of the option that an argument stands for. -/
def Argument.name : Argument → String
  | .option _ name _ => name
  | .word text | .unknown text => text
  | .dashes => "--"

/-- What an argument before the double dash is. -/
def classify (argument : String) : Except Stop Argument :=
  let text := argument.toList
  if text.head? ≠ some '-' then .ok (.word argument)
  else
    match Switch.named.lookup argument with
    | some option => .ok (.option option argument none)
    | none =>
      if text.length = 1 then .ok (.word argument)
      else
        let exact :=
          (splitAtEquals? text).bind fun (name, value) =>
            (Switch.named.lookup name).map fun option =>
              Argument.option option name (some { text := value.toList, equals := true })
        match exact with
        | some found => .ok found
        | none =>
          match candidates text with
          | [found] => .ok found
          | [] =>
            if isNegativeNumber text || text.contains ' ' then .ok (.word argument)
            else .ok (.unknown argument)
          | several => .error (.invalid (.ambiguous argument (several.map Argument.name)))

/-- What the arguments are, one by one. -/
def classifyAll : List String → Except Stop (List Argument)
  | [] => .ok []
  | argument :: rest =>
    if argument = "--" then .ok (.dashes :: rest.map .word)
    else do
      let first ← classify argument
      return first :: (← classifyAll rest)

/-- The effect of an option with its values. -/
def Arguments.apply (arguments : Arguments) : Switch → List String → Except Stop Arguments
  | .help, _ => .error .help
  | .output, [value] => .ok { arguments with output := some value }
  | .config, [value] => .ok { arguments with config := some value }
  | .pattern, [value] => .ok { arguments with patterns := arguments.patterns ++ [value] }
  | .pair, [opener, closer] =>
    .ok { arguments with pairs := arguments.pairs ++ [(opener, closer)] }
  | .strict, _ => .ok { arguments with strict := true }
  | .flat, _ => .ok { arguments with flat := true }
  | .verbose, _ => .ok { arguments with verbose := true }
  | _, _ => .ok arguments

/-- Lets options take effect one after another. -/
def Arguments.applyAll (arguments : Arguments) :
    List (Switch × List String) → Except Stop Arguments
  | [] => .ok arguments
  | (option, values) :: rest => do
    let next ← arguments.apply option values
    next.applyAll rest

/-- The words at the head of the arguments, as many as an option takes. -/
def takeWords : (count : Nat) → List Argument → Option (List String × List Argument)
  | 0, rest => some ([], rest)
  | count + 1, .word text :: rest =>
    (takeWords count rest).map fun (words, left) => (text :: words, left)
  | _ + 1, _ => none

/-- What an argument that begins with an option unfolds to. -/
structure Unfolded where
  /-- The options with their values. -/
  options : List (Switch × List String)
  /-- What belongs to nothing. -/
  extras : List String := []
  /-- The arguments that are left. -/
  left : List Argument
  deriving DecidableEq, Repr

/--
Unfolds an option with what is attached to it.  A flag of one letter may be followed by the letters
of further options, of which the last may take a value; from a letter that is none on, everything
belongs to nothing.
-/
def unfold
    (option : Switch)
    (short : Bool)
    (rest : List Argument) :
    (value : Option Attachment) → Except Stop Unfolded
  | none =>
    match takeWords option.arity rest with
    | some (words, left) => .ok { options := [(option, words)], left }
    | none => .error (.invalid (.missingValues option))
  | some { text, equals } =>
    if option.arity = 1 then .ok { options := [(option, [String.ofList text])], left := rest }
    else if option.arity = 2 then .error (.invalid (.missingValues option))
    else
      match text with
      | [] => .error (.invalid (.needlessValue option ""))
      | letter :: more =>
        if !short || equals || letter = '-' then
          .error (.invalid (.needlessValue option (String.ofList (letter :: more))))
        else
          match Switch.named.lookup (String.ofList ['-', letter]) with
          | none =>
            .ok {
              options := [(option, [])]
              extras := [String.ofList ('-' :: letter :: more)]
              left := rest }
          | some further =>
            match unfold further true rest (Attachment.behind? more) with
            | .ok found => .ok { found with options := (option, []) :: found.options }
            | .error stop => .error stop
termination_by value => (value.map fun attachment => attachment.text.length).elim 0 (· + 1)
decreasing_by
  cases found : Attachment.behind? more with
  | none =>
      simp
  | some attachment =>
      simpa [Nat.lt_succ_iff] using Attachment.length_behind? found

/-- The words and double dashes at the end of the arguments. -/
def trailing (arguments : List Argument) : List String := arguments.map Argument.name

/-- How far the reading of arguments has come. -/
structure Progress where
  arguments : Arguments := {}
  /-- The input has been named. -/
  hasInput : Bool := false
  /-- Words that belong to nothing. -/
  extras : List String := []

namespace Progress

/-- Takes the first of some words as the input, if it is still open; the others are left over. -/
def takeInput (progress : Progress) (words : List String) : Progress :=
  match progress.hasInput, words with
  | false, first :: rest =>
    { arguments := { progress.arguments with input := first }
      hasInput := true
      extras := progress.extras ++ rest }
  | _, _ => { progress with extras := progress.extras ++ words }

/-- Takes the words after the last option, among which a double dash may stand. -/
def takeTrailing (progress : Progress) (arguments : List Argument) : Progress :=
  match progress.hasInput, arguments with
  | false, .dashes :: .word first :: rest =>
    (progress.takeInput [first]).takeInput (trailing rest)
  | false, .word first :: .dashes :: rest =>
    (progress.takeInput [first]).takeInput (trailing rest)
  | false, .dashes :: rest =>
    { progress with extras := progress.extras ++ trailing (.dashes :: rest) }
  | _, arguments => progress.takeInput (trailing arguments)

end Progress

/-- Whether an argument is an option, known or not. -/
def Argument.isOption : Argument → Bool
  | .option .. | .unknown _ => true
  | .word _ | .dashes => false

/-- Reads classified arguments from the left. -/
def readArguments : (fuel : Nat) → Progress → List Argument → Except Stop Progress
  | 0, progress, _ => .ok progress
  | fuel + 1, progress, arguments =>
    let words := arguments.takeWhile (!·.isOption)
    match arguments.dropWhile (!·.isOption) with
    | [] => .ok (progress.takeTrailing words)
    | .option option name value :: rest => do
      let progress := progress.takeInput (trailing words)
      let short := name.length = 2
      let found ← unfold option short rest value
      let arguments ← progress.arguments.applyAll found.options
      readArguments fuel { progress with arguments, extras := progress.extras ++ found.extras }
        found.left
    | other :: rest =>
      let progress := progress.takeInput (trailing words)
      readArguments fuel { progress with extras := progress.extras ++ [other.name] } rest

/-- What the arguments ask for. -/
def Arguments.ofList (arguments : List String) : Except Stop Arguments := do
  let classified ← classifyAll arguments
  let progress ← readArguments (classified.length + 1) {} classified
  if !progress.hasInput then .error (.invalid .missingInput)
  else if !progress.extras.isEmpty then .error (.invalid (.unrecognized progress.extras))
  else .ok progress.arguments

end TokenForest.Command
