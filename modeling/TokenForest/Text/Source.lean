import TokenForest.Text.Quoted
import TokenForest.Text.Utf8

/-!
# Source texts

A source is a text together with its view as UTF-8 bytes.  Tokens refer to it by byte offsets,
people by lines and columns.  This module holds the passage between the two: character boundaries,
lines, columns, byte windows and the text of a line.  An offset may stand inside a character; a
column then counts the character that is cut.
-/

namespace TokenForest.Text

/-- A text without surrogates. -/
structure Source where
  text : List Char
  deriving DecidableEq, Repr

/-- A place in a source: line and column from one, the offset in bytes. -/
structure Position where
  line : Nat
  column : Nat
  offset : Nat
  deriving DecidableEq, Repr

/-- A stretch of a source between two places. -/
structure Span where
  start : Position
  stop : Position
  deriving DecidableEq, Repr

/-- The first run of surrogates in a sequence of code points, and the index where it begins. -/
structure SurrogateError where
  run : List Nat
  index : Nat
  deriving DecidableEq, Repr

/-- The one-line report of surrogates in a source. -/
def SurrogateError.message (error : SurrogateError) : String :=
  "source is not valid Unicode text: " ++ Quoted.ofCodePoints error.run ++
    s!" at character {error.index} cannot be encoded as UTF-8"

/-- Whether a code point is half of a surrogate pair, and so no character. -/
def isSurrogate (code : Nat) : Bool := 0xD800 ≤ code && code ≤ 0xDFFF

/-- A signed index that names no byte, counted from the start or from the end. -/
structure BadIndex where
  index : Int
  deriving DecidableEq, Repr

/-- The least number that can be an index at all. -/
def BadIndex.least : Int := -Int.pow 2 63

/-- The one-line report of an index that names no byte. -/
def BadIndex.message (error : BadIndex) : String :=
  if error.index < BadIndex.least then "cannot fit 'int' into an index-sized integer"
  else "index out of range"

namespace Source

/-- Builds a source from code points, none of which may be a surrogate. -/
def ofCodePoints (codes : List Nat) : Except SurrogateError Source :=
  match codes.dropWhile (!isSurrogate ·) with
  | [] => .ok { text := codes.map Char.ofNat }
  | first =>
    .error {
      run := first.takeWhile isSurrogate
      index := codes.length - first.length }

/-- Builds a source from a string, which holds no surrogates. -/
def ofString (text : String) : Source := { text := text.toList }

/-- The source as UTF-8. -/
def bytes (source : Source) : List UInt8 := Utf8.encode source.text

/-- The number of bytes. -/
def size (source : Source) : Nat := source.bytes.length

/-- The short description of a source. -/
def summary (source : Source) : String := s!"SourceText({source.size} bytes)"

/--
The offset after the character that starts at an offset, read off the high bits of its first byte.
There is none at or past the end, nor where the character would run past the end.
-/
def nextBoundary? (source : Source) (offset : Nat) : Option Nat :=
  match source.bytes[offset]? with
  | none => none
  | some byte =>
    let next := offset + max 1 (Utf8.leadingOnes byte)
    if next ≤ source.size then some next else none

/-- The offset after a character lies behind the offset of the character, within the source. -/
theorem nextBoundary?_bounds
    {source : Source}
    {offset next : Nat}
    (found : source.nextBoundary? offset = some next) :
    offset < next ∧ next ≤ source.size := by
  unfold nextBoundary? at found
  cases present : source.bytes[offset]? with
  | none => simp [present] at found
  | some byte =>
    simp only [present] at found
    split at found
    · simp only [Option.some.injEq] at found
      omega
    · simp at found

/-- The line of an offset: one more than the line breaks before it. -/
def lineAt (source : Source) (offset : Nat) : Nat :=
  (source.bytes.take offset).count 0x0A + 1

/-- The bytes between the last line break before an offset and the offset. -/
def lineHead (source : Source) (offset : Nat) : List UInt8 :=
  ((source.bytes.take offset).reverse.takeWhile (· != 0x0A)).reverse

/-- The column of an offset: one more than the characters before it on its line. -/
def columnAt (source : Source) (offset : Nat) : Nat :=
  (Utf8.decodeLenient (source.lineHead offset)).length + 1

/-- The place of an offset. -/
def positionAt (source : Source) (offset : Nat) : Position :=
  { line := source.lineAt offset, column := source.columnAt offset, offset }

/-- The text of the bytes from `start` up to `stop`, both clamped to the source. -/
def slice
    (source : Source)
    (start stop : Nat) :
    Except Utf8.DecodeError (List Char) :=
  Utf8.decode ((source.bytes.take stop).drop start)

/--
The character that starts at an offset, and the offset after it; there is none at or past the end.
From an offset inside a character the bytes are none, which is an error.
-/
def characterAt?
    (source : Source)
    (offset : Nat) :
    Except Utf8.DecodeError (Option (Char × Nat)) :=
  match source.nextBoundary? offset with
  | none => .ok none
  | some next =>
    match source.slice offset next with
    | .ok characters => .ok (characters.head?.map fun character => (character, next))
    | .error error => .error error

/-- A character ends behind the offset where it starts, within the source. -/
theorem characterAt?_bounds
    {source : Source}
    {offset next : Nat}
    {character : Char}
    (found : source.characterAt? offset = .ok (some (character, next))) :
    offset < next ∧ next ≤ source.size := by
  unfold characterAt? at found
  cases boundary : source.nextBoundary? offset with
  | none => simp [boundary] at found
  | some stop =>
    simp only [boundary] at found
    split at found
    · simp only [Except.ok.injEq, Option.map_eq_some_iff, Prod.mk.injEq] at found
      obtain ⟨_, _, _, rfl⟩ := found
      exact nextBoundary?_bounds boundary
    · simp at found

/-- The lines of the text, cut at line feeds only. -/
def lines (source : Source) : List (List Char) := source.text.splitOn '\n'

/-- The text of a line counted from one, without trailing carriage returns; empty outside. -/
def lineText (source : Source) (line : Int) : List Char :=
  if line ≤ 0 then []
  else
    match source.lines[line.toNat - 1]? with
    | none => []
    | some text => (text.reverse.dropWhile (· == '\r')).reverse

/-- All characters, each cut from the bytes between two neighbouring boundaries. -/
def walk (source : Source) : Except Utf8.DecodeError (List (List Char)) :=
  go source.size 0
where
  /-- Walks on from an offset for at most the given number of characters. -/
  go : Nat → Nat → Except Utf8.DecodeError (List (List Char))
    | 0, _ => .ok []
    | count + 1, offset =>
      match source.nextBoundary? offset with
      | none => .ok []
      | some next => do
        let character ← source.slice offset next
        return character :: (← go count next)

/-! ## Signed indices

A negative index counts from the end of the bytes; one that is still negative stands for the start.
-/

/-- The offset that a signed index stands for. -/
def resolve (source : Source) (index : Int) : Nat :=
  if 0 ≤ index then index.toNat else (source.size + index).toNat

/-- `lineAt` for a signed index. -/
def lineAtIndex (source : Source) (index : Int) : Nat :=
  source.lineAt (source.resolve index)

/-- `columnAt` for a signed index. -/
def columnAtIndex (source : Source) (index : Int) : Nat :=
  source.columnAt (source.resolve index)

/-- `slice` for signed indices. -/
def sliceIndices
    (source : Source)
    (start stop : Int) :
    Except Utf8.DecodeError (List Char) :=
  source.slice (source.resolve start) (source.resolve stop)

/-- `nextBoundary?` for a signed index, which moves on by the width of the character it names. -/
def nextBoundaryIndex?
    (source : Source)
    (index : Int) :
    Except BadIndex (Option Int) :=
  if 0 ≤ index then
    .ok ((source.nextBoundary? index.toNat).map Int.ofNat)
  else if index < -source.size then
    .error { index }
  else
    .ok ((source.bytes[source.resolve index]?).map fun byte =>
      index + max 1 (Utf8.leadingOnes byte))

end Source

end TokenForest.Text
