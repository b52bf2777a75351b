import TokenForest.Toml.Namespace
import TokenForest.Toml.Scalar

/-!
# Reading TOML

A document is read from the left, statement by statement: a key with its value, a table header, or
the header of an element of an array of tables.  The reader works on the characters that are left;
the place of an error follows from their number.  Values nest only by taking a bracket, so the
length of the document bounds the depth of the descent.
-/

namespace TokenForest.Toml

/-- Why reading stops, together with the number of characters that were left then. -/
structure Mishap where
  trouble : Trouble
  remaining : Nat

/-- A step of reading: it consumes characters or fails. -/
abbrev Reader := StateT (List Char) (Except Mishap)

namespace Reader

/-- Stops where the reader stands. -/
def stop {α : Type} (trouble : Trouble) : Reader α := do
  throw { trouble, remaining := (← get).length }

/-- Fails where the reader stands. -/
def fail {α : Type} (flaw : Flaw) : Reader α := stop (.flawed flaw)

/-- Skips characters that pass a test. -/
def skipWhile (test : Char → Bool) : Reader Unit :=
  modify (List.dropWhile test)

/-- Whether a character is a blank within a line. -/
def isBlank (character : Char) : Bool := character = ' ' || character = '\t'

/-- Whether a character is a blank or a line feed. -/
def isBlankOrBreak (character : Char) : Bool := isBlank character || character = '\n'

/-- Whether a character may stand in a bare key. -/
def isBareKey (character : Char) : Bool :=
  ('a' ≤ character && character ≤ 'z') || ('A' ≤ character && character ≤ 'Z') ||
    ('0' ≤ character && character ≤ '9') || character = '-' || character = '_'

/-- Whether a character is a control character that no comment or one-line string may hold. -/
def isControl (character : Char) : Bool :=
  (character.toNat < 32 || character.toNat = 127) && character ≠ '\t'

/-- Whether a character is a control character that no string may hold. -/
def isControlInText (character : Char) : Bool :=
  isControl character && character ≠ '\n'

/-- Whether the characters that are left begin with the given ones. -/
def sees (start : List Char) : Reader Bool := do
  return start.isPrefixOf (← get)

/-- Skips a number of characters. -/
def skip (count : Nat) : Reader Unit := modify (List.drop count)

/-- Skips the given characters if they come next. -/
def accept (start : List Char) : Reader Bool := do
  if ← sees start then
    skip start.length
    return true
  else return false

/-- The characters before the first occurrence of a delimiter, if it occurs. -/
def before? (delimiter : List Char) : List Char → Option (List Char)
  | [] => if delimiter.isEmpty then some [] else none
  | character :: rest =>
    if delimiter.isPrefixOf (character :: rest) then some []
    else (before? delimiter rest).map (character :: ·)

/-- Takes the given characters, which must be next and none of which may be forbidden. -/
def takeChecked (forbidden : Char → Bool) (content : List Char) : Reader Unit := do
  match content.find? forbidden with
  | none => skip content.length
  | some character =>
    skip (content.takeWhile (!forbidden ·)).length
    fail (.invalidCharacter character)

/-- Takes what stands before a delimiter, and the delimiter. -/
def takeUntil (delimiter : List Char) (forbidden : Char → Bool) : Reader (List Char) := do
  match before? delimiter (← get) with
  | none =>
    set ([] : List Char)
    fail (.missingQuote (String.ofList delimiter))
  | some content =>
    takeChecked forbidden content
    skip delimiter.length
    return content

/-- Skips a comment, if one starts here, up to the end of the line. -/
def skipComment : Reader Unit := do
  if ← accept ['#'] then
    takeChecked isControl ((← get).takeWhile (· ≠ '\n'))

/-- Skips blanks, line feeds and comments. -/
def skipBreaks : (fuel : Nat) → Reader Unit
  | 0 => return ()
  | fuel + 1 => do
    let start := (← get).length
    skipWhile isBlankOrBreak
    skipComment
    unless (← get).length = start do skipBreaks fuel

/-! ## Strings -/

/-- Takes a character given by so many hexadecimal digits. -/
def hexCharacter (count : Nat) : Reader (List Char) := do
  let digits := (← get).take count
  unless digits.length = count ∧ digits.all fun digit => (Text.Hex.value? digit).isSome do
    fail .badHexadecimal
  skip count
  let code := Text.Hex.number 16 digits
  if code ≤ 0xD7FF ∨ (0xE000 ≤ code ∧ code ≤ 0x10FFFF) then return [Char.ofNat code]
  else fail .notScalar

/-- What the character after a backslash stands for. -/
def escapeOf? : Char → Option Char
  | 'b' => some '\x08'
  | 't' => some '\t'
  | 'n' => some '\n'
  | 'f' => some '\x0c'
  | 'r' => some '\r'
  | '"' => some '"'
  | '\\' => some '\\'
  | _ => none

/-- Takes the blanks after a backslash that continues a line, if a line feed ends them. -/
def continueLine : Reader Unit := do
  skipWhile isBlank
  match ← get with
  | [] => return ()
  | character :: _ =>
    if character = '\n' then skipWhile isBlankOrBreak else fail .strayBackslash

/-- Takes an escape and answers the text that it stands for. -/
def escape (multiline : Bool) : Reader (List Char) := do
  let written := (← get).drop 1
  skip 2
  match written with
  | [] => fail .strayBackslash
  | character :: _ =>
    if multiline && character = '\n' then
      skipWhile isBlankOrBreak
      return []
    else if multiline && isBlank character then
      continueLine
      return []
    else if character = 'u' then hexCharacter 4
    else if character = 'U' then hexCharacter 8
    else
      match escapeOf? character with
      | some meant => return [meant]
      | none => fail .strayBackslash

/-- Takes the rest of a string between double quotes. -/
def basicString (multiline : Bool) : (fuel : Nat) → List Char → Reader (List Char)
  | 0, done => return done
  | fuel + 1, done => do
    match ← get with
    | [] => fail .unterminatedString
    | character :: _ =>
      if character = '"' then
        if !multiline then
          skip 1
          return done
        else if ← accept ['"', '"', '"'] then return done
        else
          skip 1
          basicString multiline fuel (done ++ ['"'])
      else if character = '\\' then
        let meant ← escape multiline
        basicString multiline fuel (done ++ meant)
      else if if multiline then isControlInText character else isControl character then
        fail (.illegalCharacter character)
      else
        skip 1
        basicString multiline fuel (done ++ [character])

/-- Takes a one-line string between double quotes. -/
def basicLine : Reader String := do
  skip 1
  return String.ofList (← basicString false ((← get).length + 1) [])

/-- Takes a one-line string between apostrophes. -/
def literalLine : Reader String := do
  skip 1
  return String.ofList (← takeUntil ['\''] isControl)

/-- Takes a string of several lines; up to two quotes may stand before the closing three. -/
def multilineString (quote : Char) : Reader String := do
  skip 3
  let _ ← accept ['\n']
  let content ←
    if quote = '\'' then takeUntil ['\'', '\'', '\''] isControlInText
    else basicString true ((← get).length + 1) []
  if ← accept [quote] then
    if ← accept [quote] then return String.ofList (content ++ [quote, quote])
    return String.ofList (content ++ [quote])
  return String.ofList content

/-! ## Keys -/

/-- Takes one name of a dotted key. -/
def keyPart : Reader String := do
  match ← get with
  | [] => fail .badKeyStart
  | character :: rest =>
    if isBareKey character then
      let name := (character :: rest).takeWhile isBareKey
      skip name.length
      return String.ofList name
    else if character = '\'' then literalLine
    else if character = '"' then basicLine
    else fail .badKeyStart

/-- Takes the further names of a dotted key. -/
def keyRest : (fuel : Nat) → Path → Reader Path
  | 0, done => return done
  | fuel + 1, done => do
    skipWhile isBlank
    if ← accept ['.'] then
      skipWhile isBlank
      let part ← keyPart
      keyRest fuel (done ++ [part])
    else return done

/-- Takes a dotted key. -/
def key : Reader Path := do
  let first ← keyPart
  keyRest ((← get).length + 1) [first]

/-! ## Values -/

/-- Takes a date, a time or a number. -/
def scalar : Reader Value := do
  match Scalar.read? (← get) with
  | some (.ok value, left) =>
    set left
    return value
  | some (.error trouble, _) => stop trouble
  | none => fail .badValue

mutual

/-- Takes a value. -/
def value : (fuel : Nat) → Reader Value
  | 0 => fail .badValue
  | fuel + 1 => do
    match ← get with
    | '"' :: '"' :: '"' :: _ => return .text (← multilineString '"')
    | '"' :: _ => return .text (← basicLine)
    | '\'' :: '\'' :: '\'' :: _ => return .text (← multilineString '\'')
    | '\'' :: _ => return .text (← literalLine)
    | 't' :: 'r' :: 'u' :: 'e' :: _ =>
      skip 4
      return .bool true
    | 'f' :: 'a' :: 'l' :: 's' :: 'e' :: _ =>
      skip 5
      return .bool false
    | '[' :: _ =>
      skip 1
      skipBreaks ((← get).length + 1)
      if ← accept [']'] then return .list []
      return .list (← arrayItems fuel [])
    | '\x7b' :: _ =>
      skip 1
      skipWhile isBlank
      if ← accept ['\x7d'] then return .table []
      return .table (← inlineEntries fuel [] [])
    | _ => scalar

/-- Takes the items of an array up to its closing bracket. -/
def arrayItems : (fuel : Nat) → List Value → Reader (List Value)
  | 0, _ => fail .unclosedArray
  | fuel + 1, done => do
    let item ← value fuel
    let items := done ++ [item]
    skipBreaks ((← get).length + 1)
    if ← accept [']'] then return items
    unless ← accept [','] do
      fail .unclosedArray
    skipBreaks ((← get).length + 1)
    if ← accept [']'] then return items
    arrayItems fuel items

/-- Takes the entries of an inline table up to its closing brace. -/
def inlineEntries : (fuel : Nat) → Marks → Table → Reader Table
  | 0, _, _ => fail .unclosedInlineTable
  | fuel + 1, marks, table => do
    let path ← key
    let content ← assigned fuel
    let parent := path.dropLast
    let name := path.getLast?.getD ""
    if marks.holds path .frozen then fail (.immutableNamespace path)
    match table.change false some parent with
    | none => fail .overwrittenValue
    | some _ =>
      match table.change false (·.define name content) parent with
      | none => fail (.duplicateKey name)
      | some table =>
        skipWhile isBlank
        if ← accept ['\x7d'] then return table
        unless ← sees [','] do
          fail .unclosedInlineTable
        skip 1
        skipWhile isBlank
        let marks :=
          match content with
          | .table _ | .list _ => marks.add path .frozen true
          | _ => marks
        inlineEntries fuel marks table

/-- Takes an equals sign and the value after it. -/
def assigned : (fuel : Nat) → Reader Value
  | 0 => fail .badValue
  | fuel + 1 => do
    unless ← accept ['='] do
      fail .missingEquals
    skipWhile isBlank
    value fuel

end

/-! ## Statements -/

/-- What has been read of a document. -/
structure Document where
  table : Table := []
  marks : Marks := []
  /-- Namespaces opened by dotted keys in the present section. -/
  pending : List Path := []
  /-- The header of the present section. -/
  header : Path := []

namespace Document

/-- Ends a section: what its dotted keys opened counts as declared from now on. -/
def endSection (document : Document) : Document :=
  { document with
    marks := document.pending.foldl (fun marks path => marks.add path .declared false)
      document.marks
    pending := [] }

end Document

/-- The paths from a header along a dotted key, without the whole key. -/
def dottedPaths (header path : Path) : List Path :=
  (List.range path.length).tail.map fun count => header ++ path.take count

/-- Checks the namespaces that a dotted key passes through, and notes them. -/
def passThrough : List Path → Document → Reader Document
  | [], document => return document
  | path :: rest, document => do
    if document.marks.holds path .declared then fail (.redefinedNamespace path)
    passThrough rest { document with pending := path :: document.pending }

/-- Reads a key with its value into the present section. -/
def keyStatement (document : Document) : Reader Document := do
  let path ← key
  let content ← assigned (3 * (← get).length + 3)
  let name := path.getLast?.getD ""
  let parent := document.header ++ path.dropLast
  let document ← passThrough (dottedPaths document.header path) document
  if document.marks.holds parent .frozen then fail (.immutableNamespace parent)
  match document.table.change true (·.define name content) parent with
  | none => fail .overwrittenValue
  | some table =>
    let marks :=
      match content with
      | .table _ | .list _ => document.marks.add (document.header ++ path) .frozen true
      | _ => document.marks
    return { document with table, marks }

/-- Reads the header of a table. -/
def tableHeader (document : Document) : Reader Document := do
  skip 1
  skipWhile isBlank
  let path ← key
  if document.marks.holds path .declared || document.marks.holds path .frozen then
    fail (.declaredTwice path)
  match document.table.change true some path with
  | none => fail .overwrittenValue
  | some table =>
    unless ← accept [']'] do
      fail .unclosedTableHeader
    return { document with
      table
      marks := document.marks.add path .declared false
      header := path }

/-- Reads the header of an element of an array of tables. -/
def elementHeader (document : Document) : Reader Document := do
  skip 2
  skipWhile isBlank
  let path ← key
  if document.marks.holds path .frozen then fail (.immutableNamespace path)
  let name := path.getLast?.getD ""
  match document.table.change true (·.appendTable name) path.dropLast with
  | none => fail .overwrittenValue
  | some table =>
    unless ← accept [']', ']'] do
      fail .unclosedArrayHeader
    return { document with
      table
      marks := (document.marks.clear path).add path .declared false
      header := path }

/-- Reads one statement, of which the first character is given. -/
def statement (first : Char) (document : Document) : Reader Document := do
  if isBareKey first || first = '"' || first = '\'' then
    keyStatement document
  else if first = '[' then
    if ← sees ['[', '['] then elementHeader document.endSection
    else tableHeader document.endSection
  else if first = '#' then return document
  else fail .badStatement

/-- Reads statements up to the end of the document. -/
def statements : (fuel : Nat) → Document → Reader Document
  | 0, document => return document
  | fuel + 1, document => do
    skipWhile isBlank
    match ← get with
    | [] => return document
    | first :: _ =>
      if first = '\n' then
        skip 1
        statements fuel document
      else
        let document ← statement first document
        skipWhile isBlank
        skipComment
        match ← get with
        | [] => return document
        | _ =>
          unless ← accept ['\n'] do
            fail .trailingText
          statements fuel document

end Reader

/-- Replaces each carriage return with a line feed after it by the line feed alone. -/
def normalizeBreaks : List Char → List Char
  | '\r' :: '\n' :: rest => '\n' :: normalizeBreaks rest
  | character :: rest => character :: normalizeBreaks rest
  | [] => []

/-- Reads a document into its root table. -/
def read (text : List Char) : Except Fault Table :=
  let document := normalizeBreaks text
  match (Reader.statements (document.length + 1) {}).run document with
  | .ok (result, _) => .ok result.table
  | .error { trouble := .flawed flaw, remaining } =>
    .error (.malformed { flaw, position := document.length - remaining, document })
  | .error { trouble := .excessive excess, .. } => .error (.excessive excess)

end TokenForest.Toml
