import TokenForest.Lexer.Basic
import TokenForest.Proofs.Lexer.Walk

/-!
# Drawing a token

A lexer whose two cursors stand at the same character boundary draws what the walk from there ends
with: a token, nothing, or the error about a character.  It notes what the walk skips, its cursor
goes to where the walk ends, and nothing else about it changes.
-/

namespace TokenForest

open Text (Source)

/-- What is answered when a walk ends. -/
def Ending.answer (source : Source) : Ending → Except (Fault ScanError) (Option Token)
  | .finished => .ok none
  | .token kind start stop => .ok (some (Token.between source kind start stop))
  | .unrecognized character index =>
    .error (.reported {
      character
      position := source.positionAt (source.offsetOf index) })

/-- What is noted when a walk ends. -/
def Ending.notes (source : Source) : Ending → Trace
  | .token kind start stop => [.drawn (Token.between source kind start stop)]
  | .finished | .unrecognized .. => []

namespace Lexer

/-- The lexer with both cursors before the character at an index. -/
def atIndex (lexer : Lexer) (index : Nat) : Lexer :=
  { lexer with cursor := Cursor.ofIndex lexer.source index }

@[simp]
theorem cursor_atIndex
    (lexer : Lexer)
    (index : Nat) :
    (lexer.atIndex index).cursor = Cursor.ofIndex lexer.source index :=
  rfl

/-- Both cursors stand before the same character of the source, or behind the last. -/
structure AtBoundary (lexer : Lexer) : Prop where
  index_le : lexer.cursor.index ≤ lexer.source.text.length
  offset_eq : lexer.cursor.offset = lexer.source.offsetOf lexer.cursor.index

variable {lexer : Lexer}

theorem AtBoundary.cursor_eq
    (boundary : lexer.AtBoundary) :
    lexer.cursor = Cursor.ofIndex lexer.source lexer.cursor.index := by
  rw [Cursor.ofIndex, ← boundary.offset_eq]

theorem AtBoundary.atIndex_eq
    (boundary : lexer.AtBoundary) :
    lexer.atIndex lexer.cursor.index = lexer := by
  rw [atIndex, ← boundary.cursor_eq]

theorem AtBoundary.of_eq
    {other : Lexer}
    (boundary : lexer.AtBoundary)
    (source_eq : other.source = lexer.source)
    (cursor_eq : other.cursor = lexer.cursor) :
    other.AtBoundary := by
  constructor
  · rw [source_eq, cursor_eq]
    exact boundary.index_le
  · rw [source_eq, cursor_eq]
    exact boundary.offset_eq

theorem atBoundary_atIndex
    {index : Nat}
    (within : index ≤ lexer.source.text.length) :
    (lexer.atIndex index).AtBoundary where
  index_le := within
  offset_eq := rfl

/-- A lexer at a boundary draws what the walk from there ends with. -/
theorem AtBoundary.next_eq
    {skips : List Skip} {ending : Ending}
    (boundary : lexer.AtBoundary)
    (walks : lexer.rules.Walks lexer.source lexer.cursor.index skips ending) :
    lexer.next =
      { result := ending.answer lexer.source
        trace := skips.map .skipped ++ ending.notes lexer.source
        lexer := lexer.atIndex (ending.place lexer.source) } := by
  have scan := walks.scan_eq
  rw [← boundary.cursor_eq] at scan
  rw [next, scan]
  cases ending with
  | finished =>
      simp [Ending.found, Ending.answer, Ending.notes, Ending.place, atIndex]
  | token kind start stop =>
      rfl
  | unrecognized character index =>
      simp only [Ending.found, Ending.answer, Ending.notes, Ending.place, atIndex,
        List.append_nil]
      rfl

end Lexer

end TokenForest
