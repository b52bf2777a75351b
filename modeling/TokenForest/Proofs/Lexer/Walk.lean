import TokenForest.Proofs.Lexer.Recognition
import TokenForest.Proofs.Text.Boundary

/-!
# The walk behind a scan

What a scan has to answer can be said without bytes and without cursors: walk over the characters of
the text, pass over those that the rules pass over, and stop at the first token, at a character that
nothing recognizes, or at the end.  `Walks` is this definition.  From every index there is exactly
one walk, and a scan whose cursor stands at a character boundary answers what the walk says, with
every offset, line and lexeme that it reports.  In particular such a scan never fails to decode its
own bytes.
-/

namespace TokenForest

open Text (Source)

/-- How a walk over the characters of a text ends. -/
inductive Ending where
  | finished
  | token (kind : String) (start stop : Nat)
  | unrecognized (character : Char) (index : Nat)
  deriving DecidableEq, Repr

/-- The index up to which a walk passes over characters. -/
def Ending.reach (source : Source) : Ending → Nat
  | .finished => source.text.length
  | .token _ start _ => start
  | .unrecognized _ index => index

/-- The index where a walk leaves the cursor. -/
def Ending.place (source : Source) : Ending → Nat
  | .finished => source.text.length
  | .token _ _ stop => stop
  | .unrecognized _ index => index

namespace ScanRules

/-- The note about a character that the rules pass over. -/
def skipAt (rules : ScanRules) (source : Source) (index : Nat) (character : Char) : Skip :=
  { character, offset := source.offsetOf index, ignored := rules.ignore.contains character }

/-- The walk from an index for the next token: the characters that it skips, and how it ends. -/
inductive Walks (rules : ScanRules) (source : Source) : Nat → List Skip → Ending → Prop where
  | finished :
      Walks rules source source.text.length [] .finished
  | passes
      {index : Nat} {character : Char} {skips : List Skip} {ending : Ending}
      (present : source.text[index]? = some character)
      (passes : rules.Passes source.text index character)
      (rest : Walks rules source (index + 1) skips ending) :
      Walks rules source index (rules.skipAt source index character :: skips) ending
  | lexes
      {kind : String} {index stop : Nat}
      (lexes : rules.Lexes source.text kind index stop) :
      Walks rules source index [] (.token kind index stop)
  | stops
      {index : Nat} {character : Char}
      (present : source.text[index]? = some character)
      (unrecognized : rules.Unrecognized source.text index character)
      (strict : rules.strict = true) :
      Walks rules source index [] (.unrecognized character index)

variable
    {rules : ScanRules}
    {source : Source}

/-- What is skipped without being ignored is not recognized. -/
theorem Passes.unrecognized
    {index : Nat} {character : Char}
    (passes : rules.Passes source.text index character)
    (kept : (rules.skipAt source index character).ignored = false) :
    rules.Unrecognized source.text index character := by
  cases passes with
  | ignored ignored =>
      rw [skipAt, ignored] at kept
      cases kept
  | lenient unrecognized lenient =>
      exact unrecognized

/-- From every index there is a walk. -/
theorem exists_walks
    (rules : ScanRules)
    {index : Nat}
    (within : index ≤ source.text.length) :
    ∃ skips ending, Walks rules source index skips ending := by
  induction left_eq : source.text.length - index generalizing index with
  | zero =>
      have atEnd : index = source.text.length := by omega
      rw [atEnd]
      exact ⟨[], .finished, .finished⟩
  | succ left ih =>
      have inside : index < source.text.length := by omega
      have fewer : source.text.length - (index + 1) = left := by omega
      have present := List.getElem?_eq_getElem inside
      rcases rules.passes_or_lexes_or_stops present with
        passes | ⟨kind, stop, lexes⟩ | ⟨unrecognized, strict⟩
      · obtain ⟨skips, ending, rest⟩ := ih inside fewer
        exact ⟨_, ending, .passes present passes rest⟩
      · exact ⟨[], _, .lexes lexes⟩
      · exact ⟨[], _, .stops present unrecognized strict⟩

namespace Walks

variable
    {index : Nat}
    {skips : List Skip}
    {ending : Ending}

/-- A walk never goes back, and it ends within the text. -/
theorem bounds
    (walks : Walks rules source index skips ending) :
    index ≤ ending.reach source ∧
      ending.reach source ≤ ending.place source ∧
        ending.place source ≤ source.text.length := by
  induction walks with
  | finished =>
      exact ⟨Nat.le_refl _, Nat.le_refl _, Nat.le_refl _⟩
  | passes present passes rest ih =>
      exact ⟨Nat.le_of_succ_le ih.1, ih.2⟩
  | lexes lexes =>
      have bounds := lexes.bounds
      exact ⟨Nat.le_refl _, Nat.le_of_lt bounds.1, bounds.2⟩
  | stops present unrecognized strict =>
      have inside := (List.getElem?_eq_some_iff.mp present).1
      exact ⟨Nat.le_refl _, Nat.le_refl _, Nat.le_of_lt inside⟩

/-- A token at which a walk ends has some characters. -/
theorem token_lt
    {kind : String} {start stop : Nat}
    (walks : Walks rules source index skips (.token kind start stop)) :
    start < stop := by
  generalize same : Ending.token kind start stop = ending at walks
  induction walks with
  | finished =>
      cases same
  | passes present passes rest ih =>
      exact ih same
  | lexes lexes =>
      cases same
      exact lexes.bounds.1
  | stops present unrecognized strict =>
      cases same

theorem index_le
    (walks : Walks rules source index skips ending) :
    index ≤ source.text.length := by
  have bounds := walks.bounds
  omega

/-- A walk passes over every character before it ends. -/
theorem passes_of_lt_reach
    (walks : Walks rules source index skips ending)
    {place : Nat} {character : Char}
    (later : index ≤ place)
    (before : place < ending.reach source)
    (present : source.text[place]? = some character) :
    rules.Passes source.text place character := by
  induction walks with
  | finished =>
      have inside := (List.getElem?_eq_some_iff.mp present).1
      omega
  | passes here passes rest ih =>
      rcases Nat.eq_or_lt_of_le later with rfl | later
      · rw [here] at present
        cases present
        exact passes
      · exact ih later before
  | lexes lexes =>
      exact absurd before (Nat.not_lt_of_le later)
  | stops here unrecognized strict =>
      exact absurd before (Nat.not_lt_of_le later)

/-- A walk that stops before a character would stop there at once. -/
theorem stops_at_once
    {character : Char} {place : Nat}
    (walks : Walks rules source index skips (.unrecognized character place)) :
    Walks rules source place [] (.unrecognized character place) := by
  generalize same : Ending.unrecognized character place = ending at walks
  induction walks with
  | finished =>
      cases same
  | passes present passes rest ih =>
      exact ih same
  | lexes lexes =>
      cases same
  | stops present unrecognized strict =>
      cases same
      exact .stops present unrecognized strict

theorem present
    {character : Char} {place : Nat}
    (walks : Walks rules source index skips (.unrecognized character place)) :
    source.text[place]? = some character := by
  cases walks.stops_at_once with
  | stops present unrecognized strict =>
      exact present

theorem unrecognized
    {character : Char} {place : Nat}
    (walks : Walks rules source index skips (.unrecognized character place)) :
    rules.Unrecognized source.text place character := by
  cases walks.stops_at_once with
  | stops present unrecognized strict =>
      exact unrecognized

theorem strict
    {character : Char} {place : Nat}
    (walks : Walks rules source index skips (.unrecognized character place)) :
    rules.strict = true := by
  cases walks.stops_at_once with
  | stops present unrecognized strict =>
      exact strict

end Walks

end ScanRules

/-! ## The scan follows the walk -/

/-- The cursor between the characters before an index and those from it on. -/
def Cursor.ofIndex (source : Source) (index : Nat) : Cursor :=
  { index, offset := source.offsetOf index }

/-- The token of a kind that consists of the characters from one index up to another. -/
def Token.between (source : Source) (kind : String) (start stop : Nat) : Token :=
  { kind
    lexeme := String.ofList (source.between start stop)
    line := source.lineAt (source.offsetOf start)
    start := source.offsetOf start
    stop := source.offsetOf stop }

/-- What a scan reports when the walk ends. -/
def Ending.found (source : Source) : Ending → Found
  | .finished => .finished (Cursor.ofIndex source source.text.length)
  | .token kind start stop =>
    .token (Token.between source kind start stop) (Cursor.ofIndex source stop)
  | .unrecognized character index => .unrecognized character (Cursor.ofIndex source index)

namespace Cursor

variable
    {source : Source}
    {start stop : Nat}

theorem step_ofIndex :
    (ofIndex source start).step (source.offsetOf (start + 1)) = ofIndex source (start + 1) :=
  rfl

theorem jump_ofIndex
    (ordered : start ≤ stop) :
    (ofIndex source start).jump source.text stop = ofIndex source stop := by
  rw [jump, ofIndex, ofIndex, Source.offsetOf_eq_add ordered, Source.between]

end Cursor

namespace ScanRules

variable
    {rules : ScanRules}
    {source : Source}

/-- The token between two boundaries is cut without failure. -/
theorem emit_ofIndex
    {start stop : Nat}
    (ordered : start ≤ stop)
    (kind : String) :
    emit source kind (Cursor.ofIndex source start) (Cursor.ofIndex source stop) =
      (Ending.token kind start stop).found source := by
  simp only [emit, Token.cut, Cursor.ofIndex, Source.slice_offsetOf ordered]
  rfl

theorem scan_length :
    rules.scan source (Cursor.ofIndex source source.text.length) =
      ([], Ending.finished.found source) := by
  have absent : source.characterAt? (Cursor.ofIndex source source.text.length).offset =
      .ok none := by
    rw [Cursor.ofIndex, Source.offsetOf_length]
    exact Source.characterAt?_size
  rw [scan]
  split
  · simp_all
  · rfl
  · simp_all

/-- A scan before the end goes by what the rules make of the character there. -/
theorem scan_ofIndex
    {index : Nat} {character : Char}
    (present : source.text[index]? = some character) :
    rules.scan source (Cursor.ofIndex source index) =
      match rules.verdict source.text index character with
      | .ignored =>
        let (skips, found) := rules.scan source (Cursor.ofIndex source (index + 1))
        ({ character, offset := source.offsetOf index, ignored := true } :: skips, found)
      | .literal => ([], (Ending.token literalKind index (index + 1)).found source)
      | .matched kind stop =>
        ([], emit source kind (Cursor.ofIndex source index)
          ((Cursor.ofIndex source index).jump source.text stop))
      | .unrecognized =>
        if rules.strict then ([], (Ending.unrecognized character index).found source)
        else
          let (skips, found) := rules.scan source (Cursor.ofIndex source (index + 1))
          ({ character, offset := source.offsetOf index, ignored := false } :: skips, found) := by
  have found : source.characterAt? (Cursor.ofIndex source index).offset =
      .ok (some (character, source.offsetOf (index + 1))) :=
    Source.characterAt?_offsetOf present
  rw [scan]
  split
  · simp_all
  · simp_all
  · rename_i other next equal
    rw [found] at equal
    cases equal
    rw [Cursor.step_ofIndex, emit_ofIndex (Nat.le_add_right index 1)]
    rfl

theorem Passes.scan_eq
    {index : Nat} {character : Char} {skips : List Skip} {found : Found}
    (passes : rules.Passes source.text index character)
    (present : source.text[index]? = some character)
    (rest : rules.scan source (Cursor.ofIndex source (index + 1)) = (skips, found)) :
    rules.scan source (Cursor.ofIndex source index) =
      (rules.skipAt source index character :: skips, found) := by
  have inside := (List.getElem?_eq_some_iff.mp present).1
  cases passes with
  | ignored ignored =>
      rw [scan_ofIndex present, verdict_of_ignored ignored, rest, skipAt, ignored]
  | lenient unrecognized lenient =>
      rw [scan_ofIndex present, unrecognized.verdict_eq (Nat.le_of_lt inside)]
      simp only
      rw [if_neg (by simp [lenient]), rest, skipAt, unrecognized.kept]

theorem Lexes.scan_eq
    {kind : String} {index stop : Nat}
    (lexes : rules.Lexes source.text kind index stop) :
    rules.scan source (Cursor.ofIndex source index) =
      ([], (Ending.token kind index stop).found source) := by
  cases lexes with
  | literal present kept literal =>
      rw [scan_ofIndex present, verdict_of_literal kept literal]
  | matched present kept plain first =>
      have inside := (List.getElem?_eq_some_iff.mp present).1
      have ordered := Nat.le_of_lt first.mem.2.2
      rw [scan_ofIndex present, verdict_of_firstMatch (Nat.le_of_lt inside) kept plain first]
      simp only
      rw [Cursor.jump_ofIndex ordered, emit_ofIndex ordered]

/-- A scan from a boundary skips and finds what the walk from there skips and ends with. -/
theorem Walks.scan_eq
    {index : Nat} {skips : List Skip} {ending : Ending}
    (walks : Walks rules source index skips ending) :
    rules.scan source (Cursor.ofIndex source index) = (skips, ending.found source) := by
  induction walks with
  | finished =>
      exact scan_length
  | passes present passes rest ih =>
      exact passes.scan_eq present ih
  | lexes lexes =>
      exact lexes.scan_eq
  | stops present unrecognized strict =>
      have inside := (List.getElem?_eq_some_iff.mp present).1
      rw [scan_ofIndex present, unrecognized.verdict_eq (Nat.le_of_lt inside)]
      simp only
      rw [if_pos strict]

/-- There is no other walk from an index. -/
theorem Walks.unique
    {index : Nat} {skips others : List Skip} {ending other : Ending}
    (walks : Walks rules source index skips ending)
    (again : Walks rules source index others other) :
    skips = others ∧ ending = other := by
  have same := walks.scan_eq.symm.trans again.scan_eq
  rw [Prod.mk.injEq] at same
  refine ⟨same.1, ?_⟩
  have found := same.2
  have here := walks.bounds
  have there := again.bounds
  cases ending with
  | finished =>
      cases other with
      | finished =>
          rfl
      | token kind start stop =>
          cases found
      | unrecognized character place =>
          cases found
  | token kind start stop =>
      cases other with
      | finished =>
          cases found
      | token other first last =>
          simp only [Ending.found, Found.token.injEq, Token.between, Token.mk.injEq,
            Cursor.ofIndex, Cursor.mk.injEq] at found
          simp only [Ending.reach, Ending.place] at here there
          rcases found with ⟨⟨kinds, _, _, starts, _⟩, stops, _⟩
          have forwards : start ≤ first :=
            (Source.offsetOf_le_iff (by omega)).mp (Nat.le_of_eq starts)
          have backwards : first ≤ start :=
            (Source.offsetOf_le_iff (by omega)).mp (Nat.le_of_eq starts.symm)
          rw [kinds, Nat.le_antisymm forwards backwards, stops]
      | unrecognized character place =>
          cases found
  | unrecognized character place =>
      cases other with
      | finished =>
          cases found
      | token kind start stop =>
          cases found
      | unrecognized other position =>
          simp only [Ending.found, Found.unrecognized.injEq, Cursor.ofIndex,
            Cursor.mk.injEq] at found
          rcases found with ⟨characters, places, _⟩
          rw [characters, places]

end ScanRules

end TokenForest
