import TokenForest.Pattern.CharClass
import TokenForest.Pattern.Basic
import TokenForest.Pattern.Fault
import TokenForest.Text.CharacterNames

/-!
# Reading patterns

The written form is first cut into symbols: single characters, and backslashes with the character
that follows.  The reader then descends through alternatives, sequences and groups with one symbol
of look-ahead.  Every step of the descent takes a symbol or enters a group, so the number of
symbols bounds its depth.  Which of several faults is reported depends on where the reader stands
when it meets them; a backslash at the very end is met as soon as it becomes the next symbol.
-/

namespace TokenForest.Pattern

/-- A unit of a written pattern. -/
inductive Symbol where
  | plain (character : Char)
  | escaped (character : Char)
  deriving DecidableEq, Repr

namespace Symbol

/-- The characters that a symbol is written with. -/
def written : Symbol → List Char
  | .plain character => [character]
  | .escaped character => ['\\', character]

/-- The number of characters of a symbol. -/
def width (symbol : Symbol) : Nat := symbol.written.length

/-- A symbol as text. -/
def text (symbol : Symbol) : String := String.ofList symbol.written

/-- The symbols of a written pattern, and whether a lone backslash is left over at the end. -/
def ofText : List Char → List Symbol × Bool
  | [] => ([], false)
  | ['\\'] => ([], true)
  | '\\' :: character :: rest =>
    let (symbols, dangling) := ofText rest
    (.escaped character :: symbols, dangling)
  | character :: rest =>
    let (symbols, dangling) := ofText rest
    (.plain character :: symbols, dangling)

end Symbol

/-- What the reader has in front of it and what it has seen. -/
structure ReaderState where
  /-- The whole pattern. -/
  written : List Char
  /-- The symbols not yet taken. -/
  rest : List Symbol
  /-- The character index of the next symbol. -/
  position : Nat := 0
  /-- A lone backslash follows the last symbol. -/
  dangling : Bool
  /-- The modes that hold for the whole pattern. -/
  mode : Mode
  /--
  The widths of the groups so far, the whole pattern being group 0; none while a group is open.
  -/
  groups : List (Option (Nat × Nat)) := [none]
  names : List (String × Nat) := []
  /-- The number of groups when the outermost enclosing look-behind began. -/
  behindGroups : Option Nat := none
  /-- Groups that conditions name by number, with the place of the number. -/
  conditions : List (Nat × Nat) := []

/-- A step of reading, which may fail. -/
abbrev Reader := StateT ReaderState (Except Fault)

namespace Reader

/-- Fails with a flaw the given number of characters before the next symbol. -/
def fail {α : Type} (flaw : Flaw) (back : Nat := 0) : Reader α := do
  let state ← get
  throw (.malformed {
    flaw
    position := some (state.position - back)
    written := state.written })

/-- The next symbol. -/
def peek : Reader (Option Symbol) := do
  return (← get).rest.head?

/-- Whether the next symbol is a given character. -/
def sees (character : Char) : Reader Bool := do
  return (← peek) == some (.plain character)

/-- Fails if a lone backslash is what comes next. -/
def refuseDangling : Reader Unit := do
  let state ← get
  if state.rest.isEmpty && state.dangling then
    throw (.malformed {
      flaw := .danglingEscape
      position := some (state.written.length - 1)
      written := state.written })

/-- Takes the next symbol. -/
def take : Reader (Option Symbol) := do
  let state ← get
  match state.rest with
  | [] => return none
  | symbol :: rest =>
    set { state with rest, position := state.position + symbol.width }
    refuseDangling
    return some symbol

/-- Takes the next symbol if it is a given character. -/
def accept (character : Char) : Reader Bool := do
  if ← sees character then
    let _ ← take
    return true
  else return false

/-- Takes at most the given number of plain characters that pass a test. -/
def takeWhile (test : Char → Bool) : (count : Nat) → Reader (List Char)
  | 0 => return []
  | count + 1 => do
    match ← peek with
    | some (.plain character) =>
      if test character then
        let _ ← take
        return character :: (← takeWhile test count)
      else return []
    | _ => return []

/-- Takes the text up to a terminator, which is taken too. -/
def takeUntil
    (terminator : Char)
    (what : String) :
    (fuel : Nat) → (taken : List Char) → Reader (List Char)
  | 0, taken => return taken
  | fuel + 1, taken => do
    match ← take with
    | none =>
      if taken.isEmpty then fail (.missingName what)
      else fail (.unterminatedName terminator) taken.length
    | some symbol =>
      if symbol = .plain terminator then
        if taken.isEmpty then fail (.missingName what) 1
        else return taken
      else takeUntil terminator what fuel (taken ++ symbol.written)

/-- Takes a name up to a terminator. -/
def takeName (terminator : Char) (what : String) : Reader String := do
  let name ← takeUntil terminator what ((← get).rest.length + 1) []
  return String.ofList name

/-- Fails unless a text that was just taken with its terminator is a group name. -/
def requireName (name : String) : Reader Unit := do
  unless isName name.toList do
    fail (.badName name) (name.length + 1)

/-- The number of groups so far, the whole pattern included. -/
def groupCount : Reader Nat := do
  return (← get).groups.length

/-- Whether a group exists and is closed. -/
def isClosed (group : Nat) : Reader Bool := do
  return ((← get).groups[group]?.bind id).isSome

/-- Fails if a reference inside a look-behind is to a group that this look-behind opened. -/
def requireOutsideBehind (group : Nat) : Reader Unit := do
  match (← get).behindGroups with
  | none => return ()
  | some count =>
    unless ← isClosed group do
      fail .openGroup
    if count ≤ group then
      fail .groupBehindItself

/-- The width of a closed group. -/
def widthOf (groups : List (Option (Nat × Nat))) (group : Nat) : Nat × Nat :=
  (groups[group]?.bind id).getD (0, 0)

/-- Opens a new group, under a name if there is one. -/
def openGroup (name : Option String) : Reader Nat := do
  let state ← get
  let group := state.groups.length
  match name with
  | none => set { state with groups := state.groups ++ [none] }
  | some name =>
    match state.names.lookup name with
    | some earlier => fail (.redefinedName name group earlier) (name.length + 1)
    | none =>
      set { state with
        groups := state.groups ++ [none]
        names := state.names ++ [(name, group)] }
  return group

/-- Closes a group, fixing its width. -/
def closeGroup (group : Nat) (body : Node) : Reader Unit :=
  modify fun state =>
    { state with
      groups := state.groups.set group (some (body.width (widthOf state.groups))) }

/-! ## Escapes -/

/-- A single character, given by its code point. -/
def literal (mode : Mode) (code : Nat) : Node :=
  .set false mode.ignoreCase mode.ascii [.char code]

/-- The code point of an escape that stands for a control character or the backslash. -/
def controlEscape? : Char → Option Nat
  | 'a' => some 7
  | 'b' => some 8
  | 'f' => some 12
  | 'n' => some 10
  | 'r' => some 13
  | 't' => some 9
  | 'v' => some 11
  | '\\' => some 92
  | _ => none

/-- The set item of an escape that names a class of characters. -/
def classEscape? : Char → Option SetItem
  | 'd' => some (.named .digit false)
  | 'D' => some (.named .digit true)
  | 's' => some (.named .space false)
  | 'S' => some (.named .space true)
  | 'w' => some (.named .word false)
  | 'W' => some (.named .word true)
  | _ => none

/-- Whether a character is an ASCII digit. -/
def isDigit (character : Char) : Bool := '0' ≤ character && character ≤ '9'

/-- Whether a character is an octal digit. -/
def isOctal (character : Char) : Bool := '0' ≤ character && character ≤ '7'

/-- Whether a character is a hexadecimal digit. -/
def isHex (character : Char) : Bool := (Text.Hex.value? character).isSome

/-- Whether a character is an ASCII letter. -/
def isAsciiLetter (character : Char) : Bool :=
  ('a' ≤ character && character ≤ 'z') || ('A' ≤ character && character ≤ 'Z')

/-- The text of an escape so far. -/
def escapeText (letter : Char) (digits : List Char) : String :=
  String.ofList ('\\' :: letter :: digits)

/-- The largest number that a character may be asked for by. -/
def largestNumber : Nat := 2147483647

/-- Reads an escape of exactly so many hexadecimal digits. -/
def hexEscape (letter : Char) (count : Nat) : Reader Nat := do
  let digits ← takeWhile isHex count
  let written := escapeText letter digits
  if digits.length ≠ count then
    fail (.incompleteEscape written) (digits.length + 2)
  let code := Text.Hex.number 16 digits
  if largestNumber < code then throw (.excessive .codePoint)
  if 0x10FFFF < code then
    fail (.badEscape written) (digits.length + 2)
  return code

/-- Reads an escape that names a character. -/
def namedEscape [Text.CharacterNames] : Reader Nat := do
  unless ← accept '\x7b' do
    fail .missingBrace
  let name ← takeName '\x7d' "character name"
  match Text.CharacterNames.code? name with
  | some code => return code
  | none => fail (.undefinedCharacter name) (name.length + 4)

/-- The escapes of a code point by number or name that are the same in and outside of sets. -/
def codeEscape? [Text.CharacterNames] (letter : Char) : Option (Reader Nat) :=
  match letter with
  | 'x' => some (hexEscape 'x' 2)
  | 'u' => some (hexEscape 'u' 4)
  | 'U' => some (hexEscape 'U' 8)
  | 'N' => some namedEscape
  | _ => none

/-- The code point of an octal escape, which has to fit a byte. -/
def octalCode (letter : Char) (digits : List Char) : Reader Nat := do
  let code := Text.Hex.number 8 (letter :: digits)
  if 0o377 < code then
    fail (.octalTooLarge (escapeText letter digits)) (digits.length + 2)
  return code

/-- An escaped character that is no letter stands for itself. -/
def selfEscape (letter : Char) : Reader Nat := do
  if isAsciiLetter letter then
    fail (.badEscape (escapeText letter [])) 2
  return letter.toNat

/-- What an escape stands for inside a set. -/
def setEscape [Text.CharacterNames] (letter : Char) : Reader SetItem := do
  match controlEscape? letter, classEscape? letter, codeEscape? letter with
  | some code, _, _ => return .char code
  | none, some item, _ => return item
  | none, none, some read => return .char (← read)
  | none, none, none =>
    if isOctal letter then
      let digits ← takeWhile isOctal 2
      return .char (← octalCode letter digits)
    else if isDigit letter then
      fail (.badEscape (escapeText letter [])) 2
    else return .char (← selfEscape letter)

/-- A reference to a group by number, which has to be closed. -/
def groupReference (mode : Mode) (letter : Char) (digits : List Char) : Reader Node := do
  let group := Text.Hex.number 10 (letter :: digits)
  if group < (← groupCount) then
    unless ← isClosed group do
      fail .openGroup (digits.length + 2)
    requireOutsideBehind group
    return .backref group mode.ignoreCase mode.ascii
  else fail (.unknownGroup group) (digits.length + 1)

/-- An escape that begins with a digit: an octal code point or a reference to a group. -/
def digitEscape (mode : Mode) (letter : Char) : Reader Node := do
  if letter = '0' then
    let digits ← takeWhile isOctal 2
    return literal mode (Text.Hex.number 8 digits)
  let second ← takeWhile isDigit 1
  if isOctal letter && !second.isEmpty && second.all isOctal then
    let third ← takeWhile isOctal 1
    if third.isEmpty then groupReference mode letter second
    else return literal mode (← octalCode letter (second ++ third))
  else groupReference mode letter second

/-- The anchor that an escape names. -/
def anchorEscape? (mode : Mode) : Char → Option Anchor
  | 'A' => some .textStart
  | 'Z' => some .textEnd
  | 'b' => some (.wordEdge mode.ascii)
  | 'B' => some (.noWordEdge mode.ascii)
  | _ => none

/-- What an escape stands for outside of sets. -/
def escape [Text.CharacterNames] (mode : Mode) (letter : Char) : Reader Node := do
  match anchorEscape? mode letter, classEscape? letter, controlEscape? letter,
      codeEscape? letter with
  | some anchor, _, _, _ => return .anchor anchor
  | none, some item, _, _ => return .set false mode.ignoreCase mode.ascii [item]
  | none, none, some code, _ => return literal mode code
  | none, none, none, some read => return literal mode (← read)
  | none, none, none, none =>
    if isDigit letter then digitEscape mode letter
    else return literal mode (← selfEscape letter)

/-! ## Sets -/

/-- What a symbol stands for inside a set. -/
def setMember [Text.CharacterNames] : Symbol → Reader SetItem
  | .escaped letter => setEscape letter
  | .plain character => return .char character.toNat

/-- Reads the items of a set whose opening bracket stood at `start`, up to the closing one. -/
def setItems
    [Text.CharacterNames]
    (start : Nat) :
    (fuel : Nat) → (items : List SetItem) → Reader (List SetItem)
  | 0, items => return items
  | fuel + 1, items => do
    let unterminated : Reader (List SetItem) := do
      fail .unterminatedSet ((← get).position - start)
    match ← take with
    | none => unterminated
    | some symbol =>
      if symbol = .plain ']' ∧ ¬ items.isEmpty then return items
      let low ← setMember symbol
      if ← accept '-' then
        match ← take with
        | none => unterminated
        | some (.plain ']') =>
          return items ++ [low, .char '-'.toNat]
        | some bound =>
          let high ← setMember bound
          let bad : Reader (List SetItem) :=
            fail (.badRange symbol.text bound.text) (symbol.width + 1 + bound.width)
          match low, high with
          | .char first, .char last =>
            if last < first then bad
            else setItems start fuel (items ++ [.range first last])
          | _, _ => bad
      else setItems start fuel (items ++ [low])

/-- Reads a set after its opening bracket. -/
def charSet [Text.CharacterNames] (mode : Mode) : Reader Node := do
  let state ← get
  let start := state.position - 1
  let negated ← accept '^'
  let items ← setItems start (state.rest.length + 1) []
  return .set negated mode.ignoreCase mode.ascii items.eraseDups

/-! ## Repetition -/

/-- What a part of a sequence is, as far as a quantifier after it cares. -/
inductive Shape where
  | ordinary
  | anchor
  | repeated
  deriving DecidableEq

/-- A part of a sequence. -/
structure Part where
  node : Node
  shape : Shape := .ordinary

/-- The bound that a run of digits writes; one beyond the limit is refused. -/
def repeatBound (digits : List Char) : Reader (Option Nat) := do
  if digits.isEmpty then return none
  if digitLimit < digits.length then throw (.excessive (.longNumeral digits.length))
  let bound := Text.Hex.number 10 digits
  if unlimited ≤ bound then throw (.excessive .repeatCount)
  return some bound

/--
Reads the bounds of a quantifier in braces after the opening brace, and answers nothing, leaving the
reader where it was, if what follows are no bounds.
-/
def braceBounds? : Reader (Option (Nat × Option Nat)) := do
  let here ← get
  if ← sees '\x7d' then return none
  let low ← takeWhile isDigit here.rest.length
  let high ← if ← accept ',' then takeWhile isDigit here.rest.length else pure low
  unless ← accept '\x7d' do
    set here
    return none
  let least ← repeatBound low
  let most ← repeatBound high
  match most with
  | some limit =>
    if limit < least.getD 0 then
      fail .leastAboveMost ((← get).position - here.position)
  | none => pure ()
  return some (least.getD 0, most)

/-- The bounds of a quantifier whose first character was taken, if it is one. -/
def quantifierBounds? (first : Char) : Reader (Option (Nat × Option Nat)) := do
  match first with
  | '?' => return some (0, some 1)
  | '*' => return some (0, none)
  | '+' => return some (1, none)
  | _ => braceBounds?

/-- Takes the mark after a quantifier, of which there is at most one. -/
def greedMark : Reader Greed := do
  let marked ← accept '?'
  if marked then return .lazy
  let marked ← accept '+'
  if marked then return .possessive
  return .greedy

/-- Applies a quantifier to the last part of a sequence. -/
def quantify
    (here : Nat)
    (bounds : Nat × Option Nat)
    (parts : List Part) :
    Reader (List Part) := do
  let back := (← get).position - here + 1
  match parts.getLast? with
  | none => fail .nothingToRepeat back
  | some part =>
    if part.shape = .anchor then fail .nothingToRepeat back
    if part.shape = .repeated then fail .multipleRepeat back
    let greed ← greedMark
    return parts.dropLast ++
      [{ node := .repeated bounds.1 bounds.2 greed part.node, shape := .repeated }]

/-! ## Flags -/

/-- The letters that set a mode inside a pattern. -/
def isFlag (character : Char) : Bool := "aiLmstux".toList.contains character

/-- Sets or clears the mode of a flag. -/
def applyFlag (value : Bool) (mode : Mode) : Char → Mode
  | 'i' => { mode with ignoreCase := value }
  | 'm' => { mode with multiline := value }
  | 's' => { mode with dotAll := value }
  | 'x' => { mode with verbose := value }
  | 'a' => { mode with ascii := value, unicode := !value && mode.unicode }
  | 'u' => { mode with ascii := !value && mode.ascii, unicode := value }
  | 't' => { mode with template := value }
  | _ => mode

/-- The flaw of a symbol that is no flag, depending on whether it is a letter. -/
def flagFlaw (symbol : Symbol) (otherwise : Flaw) : Flaw :=
  if symbol.written.all fun character => Text.Ranges.letter.covers character.toNat then
    .unknownFlag
  else otherwise

/-- The flags that are turned on, and the symbol that ends them. -/
def flagsOn :
    (fuel : Nat) → (flags : List Char) → (flag : Char) → Reader (List Char × Char)
  | 0, flags, flag => return (flags, flag)
  | fuel + 1, flags, flag => do
    if flag = 'L' then fail .bytesFlag
    let flags := flags ++ [flag]
    if flags.contains 'a' && flags.contains 'u' then fail .clashingFlags
    match ← take with
    | none => fail (.missingFlagEnd "-, : or )")
    | some symbol =>
      match symbol with
      | .plain character =>
        if character = ')' ∨ character = '-' ∨ character = ':' then
          return (flags, character)
        else if isFlag character then flagsOn fuel flags character
        else fail (flagFlaw symbol (.missingFlagEnd "-, : or )")) symbol.width
      | .escaped _ => fail (.missingFlagEnd "-, : or )") symbol.width

/-- The flags that are turned off, up to the colon. -/
def flagsOff :
    (fuel : Nat) → (flags : List Char) → (flag : Char) → Reader (List Char)
  | 0, flags, _ => return flags
  | fuel + 1, flags, flag => do
    if flag = 'a' ∨ flag = 'u' ∨ flag = 'L' then fail .typeFlagOff
    let flags := flags ++ [flag]
    match ← take with
    | none => fail (.missingFlagEnd ":")
    | some symbol =>
      match symbol with
      | .plain character =>
        if character = ':' then return flags
        else if isFlag character then flagsOff fuel flags character
        else fail (flagFlaw symbol (.missingFlagEnd ":")) symbol.width
      | .escaped _ => fail (.missingFlagEnd ":") symbol.width

/-- The outcome of reading flags: for the whole pattern, or for one group. -/
inductive Flags where
  | whole (flags : List Char)
  | group (on off : List Char)

/-- Reads flags after the first one, or after the minus sign. -/
def readFlags (first : Char) : Reader Flags := do
  let fuel := (← get).rest.length + 1
  let (on, stop) ← if first = '-' then pure ([], '-') else flagsOn fuel [] first
  if stop = ')' then return .whole on
  if on.contains 't' then fail .globalFlagOn 1
  if stop = ':' then return .group on []
  match ← take with
  | none => fail .missingFlag
  | some symbol =>
    match symbol with
    | .plain character =>
      if isFlag character then
        let off ← flagsOff fuel [] character
        if off.contains 't' then fail .globalFlagOff 1
        if on.any off.contains then fail .flagOnAndOff 1
        return .group on off
      else fail (flagFlaw symbol .missingFlag) symbol.width
    | .escaped _ => fail .missingFlag symbol.width

/-! ## Groups -/

/-- Whether a character may stand around a number: an ASCII blank, or a blank beyond ASCII. -/
def isPadding (character : Char) : Bool :=
  CharClass.space.covers (decide (character.toNat < 128)) character.toNat

/-- The number that groups of digits write, with no empty group and no more digits than are read. -/
def groupedNumber? (groups : List (List Char)) : Option Nat :=
  if groups.any List.isEmpty || digitLimit < groups.flatten.length then none
  else
    groups.flatten.foldlM (fun total digit =>
      (digitValue? digit).map fun value => total * 10 + value) 0

/--
The number that a condition writes: digits of any script with single underscores between them,
perhaps with a sign and blanks around it.  It is not negative.
-/
def conditionNumber? (name : List Char) : Option Nat :=
  let trimmed := ((name.dropWhile isPadding).reverse.dropWhile isPadding).reverse
  match trimmed with
  | '+' :: digits => groupedNumber? (digits.splitOn '_')
  | '-' :: digits => (groupedNumber? (digits.splitOn '_')).filter (· = 0)
  | digits => groupedNumber? (digits.splitOn '_')

/-- The largest number of groups that a pattern may speak of. -/
def groupLimit : Nat := 1073741823

/-- Reads the group that a condition asks for. -/
def conditionGroup : Reader Nat := do
  let name ← takeName ')' "group name"
  let back := name.length + 1
  let group ←
    if isName name.toList then
      match (← get).names.lookup name with
      | none => fail (.unknownName name) back
      | some group => pure group
    else
      match conditionNumber? name.toList with
      | none => fail (.badName name) back
      | some group =>
        if group = 0 then fail .groupZero back
        if groupLimit ≤ group then fail (.unknownGroup group) back
        modify fun state =>
          if (state.conditions.lookup group).isSome then state
          else
            { state with
              conditions := state.conditions ++ [(group, state.position - back)] }
        pure group
  requireOutsideBehind group
  return group

/-- Takes the closing parenthesis of a group that was opened at `start`. -/
def closeParenthesis (start : Nat) : Reader Unit := do
  unless ← accept ')' do
    fail .unterminatedGroup ((← get).position - start)

/-- Takes a comment in parentheses up to its end. -/
def skipComment (start : Nat) : (fuel : Nat) → Reader Unit
  | 0 => return ()
  | fuel + 1 => do
    match ← peek with
    | none => fail .unterminatedComment ((← get).position - start)
    | some symbol =>
      let _ ← take
      unless symbol = .plain ')' do skipComment start fuel

/-- Takes the rest of a line in a verbose pattern. -/
def skipLine : (fuel : Nat) → Reader Unit
  | 0 => return ()
  | fuel + 1 => do
    match ← take with
    | none | some (.plain '\n') => return ()
    | some _ => skipLine fuel

/-- The node of a sequence of parts. -/
def sequence (parts : List Part) : Node := .ofSteps (parts.flatMap (·.node.steps))

/-- The steps with which all of some sequences begin, and what is left of the sequences. -/
def sharedStart :
    (first : List Node) → (others : List (List Node)) → List Node × List (List Node)
  | step :: rest, others =>
    if step.isPlain && others.all (·.head? = some step) then
      let (shared, left) := sharedStart rest (others.map List.tail)
      (step :: shared, left)
    else ([], (step :: rest) :: others)
  | [], others => ([], [] :: others)

/-- The items of the sets that some sequences consist of, if each is a single set to be in. -/
def joinedItems? : List (List Node) → Option (List SetItem)
  | [] => some []
  | [.set false _ _ items] :: rest => (joinedItems? rest).map (items ++ ·)
  | _ :: _ => none

/--
The node of alternatives.  What all of them begin with is put in front of them, and alternatives
that are all single sets are one set.
-/
def joinAlternatives (mode : Mode) : List Node → Node
  | [] => .empty
  | [only] => only
  | first :: others =>
    let (shared, left) := sharedStart first.steps (others.map Node.steps)
    let choice :=
      match joinedItems? left with
      | some items => .set false mode.ignoreCase mode.ascii items.eraseDups
      | none => (left.dropLast.map Node.ofSteps).foldr Node.alt (.ofSteps (left.getLastD []))
    .ofSteps (shared ++ [choice])

/-- A reference to a group by name. -/
def namedReference (mode : Mode) : Reader Node := do
  let name ← takeName ')' "group name"
  requireName name
  match (← get).names.lookup name with
  | none => fail (.unknownName name) (name.length + 1)
  | some group =>
    unless ← isClosed group do
      fail .openGroup (name.length + 1)
    requireOutsideBehind group
    return .backref group mode.ignoreCase mode.ascii

/-- Where a sequence stands in its pattern. -/
structure Context where
  mode : Mode
  /-- The sequence is in no group. -/
  outermost : Bool := false
  /-- The sequence is the first alternative of the whole pattern. -/
  first : Bool := false

/-- What an opening parenthesis leads to. -/
inductive Opened where
  /-- A comment: nothing. -/
  | nothing
  /-- Modes for the rest of the pattern. -/
  | mode (mode : Mode)
  | part (node : Node)

section Descent

variable [Text.CharacterNames]

mutual

/-- Reads alternatives up to a closing parenthesis or the end. -/
def alternatives : (fuel : Nat) → Context → Reader (List Node)
  | 0, _ => return []
  | fuel + 1, context => do
    let node ← parts fuel context []
    if ← accept '|' then
      let whole := (← get).mode
      let mode := if context.outermost then whole else context.mode
      let others ← alternatives fuel { context with mode, first := false }
      return node :: others
    else return [node]

/-- Reads a sequence up to a bar, a closing parenthesis or the end. -/
def parts : (fuel : Nat) → Context → List Part → Reader Node
  | 0, _, done => return sequence done
  | fuel + 1, context, done => do
    let mode := context.mode
    let add (node : Node) (shape : Shape) : Reader Node :=
      parts fuel context (done ++ [{ node, shape }])
    match ← peek with
    | none | some (.plain '|') | some (.plain ')') => return sequence done
    | some (.escaped letter) =>
      let _ ← take
      let node ← escape mode letter
      add node (match node with | .anchor _ => .anchor | _ => .ordinary)
    | some (.plain character) =>
      let _ ← take
      if mode.verbose && " \t\n\r\x0b\x0c".toList.contains character then
        parts fuel context done
      else if mode.verbose && character = '#' then
        skipLine ((← get).rest.length + 1)
        parts fuel context done
      else
        match character with
        | '[' => add (← charSet mode) .ordinary
        | '.' => add (.any mode.dotAll) .ordinary
        | '^' => add (.anchor (if mode.multiline then .lineStart else .textStart)) .anchor
        | '$' => add (.anchor (if mode.multiline then .lineEnd else .lastLineEnd)) .anchor
        | '(' =>
          match ← group fuel context done.isEmpty with
          | .nothing => parts fuel context done
          | .mode mode => parts fuel { context with mode } done
          | .part node => add node .ordinary
        | '?' | '*' | '+' | '\x7b' =>
          let here := (← get).position
          match ← quantifierBounds? character with
          | none => add (literal mode character.toNat) .ordinary
          | some bounds => parts fuel context (← quantify here bounds done)
        | _ => add (literal mode character.toNat) .ordinary

/-- Reads a group after its opening parenthesis; `leading` if nothing comes before it. -/
def group : (fuel : Nat) → Context → (leading : Bool) → Reader Opened
  | 0, _, _ => return .nothing
  | fuel + 1, context, leading => do
    let start := (← get).position - 1
    let inner : Context := { mode := context.mode }
    let within (mode : Mode) : Reader Node := do
      return joinAlternatives mode (← alternatives fuel { mode })
    let captured (name : Option String) : Reader Opened := do
      let number ← openGroup name
      let body ← within context.mode
      closeParenthesis start
      closeGroup number body
      return .part (.capture number body)
    let plain (mode : Mode) : Reader Node := do
      let body ← within mode
      closeParenthesis start
      return body
    if !(← accept '?') then captured none
    else
      match ← take with
      | none => fail .endInGroup
      | some (.plain 'P') =>
        if ← accept '<' then
          let name ← takeName '>' "group name"
          requireName name
          captured (some name)
        else if ← accept '=' then
          return .part (← namedReference context.mode)
        else
          match ← take with
          | none => fail .endInGroup
          | some symbol =>
            fail (.unknownExtension ("?P" ++ symbol.text)) (symbol.width + 2)
      | some (.plain ':') => return .part (← plain context.mode)
      | some (.plain '#') =>
        skipComment start ((← get).rest.length + 1)
        return .nothing
      | some (.plain '=') =>
        return .part (.look none false (← plain context.mode))
      | some (.plain '!') =>
        return .part (.look none true (← plain context.mode))
      | some (.plain '<') =>
        match ← take with
        | none => fail .endInGroup
        | some symbol =>
          unless symbol = .plain '=' ∨ symbol = .plain '!' do
            fail (.unknownExtension ("?<" ++ symbol.text)) (symbol.width + 2)
          let outer := (← get).behindGroups
          if outer.isNone then
            modify fun state => { state with behindGroups := some state.groups.length }
          let body ← within context.mode
          if outer.isNone then
            modify fun state => { state with behindGroups := none }
          closeParenthesis start
          let width := body.width (widthOf (← get).groups)
          return .part (.look (some width.1) (symbol = .plain '!') body)
      | some (.plain '(') =>
        let number ← conditionGroup
        let present ← parts fuel inner []
        let absent ←
          if ← accept '|' then
            let other ← parts fuel inner []
            if ← sees '|' then fail .thirdBranch
            pure other
          else pure .empty
        closeParenthesis start
        return .part (.conditional number present absent)
      | some (.plain '>') => return .part (.atomic (← plain context.mode))
      | some symbol =>
        match symbol with
        | .plain character =>
          if isFlag character || character = '-' then
            match ← readFlags character with
            | .whole flags =>
              let mode := flags.foldl (applyFlag true) context.mode
              modify fun state =>
                { state with
                  mode := { flags.foldl (applyFlag true) state.mode with
                    ascii := state.mode.ascii || flags.contains 'a'
                    unicode := state.mode.unicode || flags.contains 'u' } }
              unless context.first && leading do
                fail .lateGlobalFlags ((← get).position - start)
              return .mode mode
            | .group on off =>
              let mode := off.foldl (applyFlag false) (on.foldl (applyFlag true) context.mode)
              return .part (.enclosed (← plain mode))
          else fail (.unknownExtension ("?" ++ symbol.text)) (symbol.width + 1)
        | .escaped _ =>
          fail (.unknownExtension ("?" ++ symbol.text)) (symbol.width + 1)

end

end Descent

/-- The name of what a repetition does. -/
def operatorName : Greed → String
  | .greedy => "MAX_REPEAT"
  | .lazy => "MIN_REPEAT"
  | .possessive => "POSSESSIVE_REPEAT"

/-- The greatest number of characters that a look-behind may look at. -/
def behindLimit : Nat := 4294967295

/--
The first flaw of a node that is only seen once the whole pattern has been read, what stands further
outside coming first.
-/
def lateFlaw? (template : Bool) (groupWidth : Nat → Nat × Nat) : Node → Option Flaw
  | .empty | .any _ | .set .. | .anchor _ | .backref .. => none
  | .seq first second | .alt first second | .conditional _ first second =>
    (lateFlaw? template groupWidth first).or (lateFlaw? template groupWidth second)
  | .capture _ body | .enclosed body | .atomic body | .look none _ body =>
    lateFlaw? template groupWidth body
  | .repeated _ _ greed body =>
    if template then some (.repeatInTemplate (operatorName greed))
    else lateFlaw? template groupWidth body
  | .look (some _) _ body =>
    let width := body.width groupWidth
    if behindLimit < width.1 then some .farLookBehind
    else if width.1 ≠ width.2 then some .variableLookBehind
    else lateFlaw? template groupWidth body

/-- Reads a whole pattern. -/
def pattern [Text.CharacterNames] : Reader Node := do
  refuseDangling
  let state ← get
  let fuel := 3 * state.rest.length + 3
  let branches ← alternatives fuel { mode := state.mode, outermost := true, first := true }
  let final ← get
  if final.mode.ascii && final.mode.unicode then throw (.excessive .bothReadings)
  unless final.rest.isEmpty do fail .unbalancedParenthesis
  match final.conditions.find? fun condition => final.groups.length ≤ condition.1 with
  | some (number, position) =>
    throw (.malformed {
      flaw := .unknownGroup number
      position := some position
      written := final.written })
  | none => pure ()
  let node := joinAlternatives final.mode branches
  match lateFlaw? final.mode.template (widthOf final.groups) node with
  | some flaw => throw (.malformed { flaw, position := none, written := final.written })
  | none => return node

end Reader

/-- Reads a written pattern under some initial modes. -/
def read
    [Text.CharacterNames]
    (written : String)
    (mode : Mode := {}) :
    Except Fault Pattern :=
  let (rest, dangling) := Symbol.ofText written.toList
  match Reader.pattern.run { written := written.toList, rest, dangling, mode } with
  | .ok (node, _) => .ok { written, mode, node }
  | .error fault => .error fault

end TokenForest.Pattern
