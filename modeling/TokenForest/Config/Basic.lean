import TokenForest.Pattern.Match
import TokenForest.Text.Source

/-!
# Configurations

A configuration says what a lexer skips, which characters are tokens of their own, which patterns
make tokens, which lexemes open and close groups, and how operators bind.  It is a plain value;
extending it gives another.
-/

namespace TokenForest

/-- The kind of the tokens that are single literal characters. -/
def literalKind : String := "lit"

/-- A rule that makes tokens of a kind from what a pattern matches. -/
structure PatternRule where
  kind : String
  pattern : Pattern
  deriving DecidableEq, Repr

/-- The lexemes that open and close a group, for tokens of a kind. -/
structure DelimiterPair where
  kind : String
  opener : String
  closer : String
  deriving DecidableEq, Repr

/-- The side to which operators of one rank associate. -/
inductive Associativity where
  | left
  | right
  deriving DecidableEq, Repr

/-- The word for an associativity. -/
def Associativity.word : Associativity → String
  | .left => "left"
  | .right => "right"

/-- The associativity that a word names. -/
def Associativity.ofWord? : String → Option Associativity
  | "left" => some .left
  | "right" => some .right
  | _ => none

/-- Lexemes of a kind that share a rank and an associativity. -/
structure PrecedenceRule where
  kind : String
  associativity : Associativity
  lexemes : List String
  deriving DecidableEq, Repr

/-- A set of texts in ascending order; only those of one character can ever be met in a source. -/
structure GlyphSet where
  members : List String
  deriving DecidableEq, Repr

namespace GlyphSet

/-- Puts a text where it belongs in an ascending list, unless it is there already. -/
def place (text : String) : List String → List String
  | [] => [text]
  | first :: rest =>
    if text = first then first :: rest
    else if text < first then text :: first :: rest
    else first :: place text rest

/-- Placing a text adds it and loses nothing. -/
@[simp]
theorem mem_place
    {text other : String}
    {texts : List String} :
    other ∈ place text texts ↔ other = text ∨ other ∈ texts := by
  induction texts with
  | nil => simp [place]
  | cons first rest ih =>
    rw [place]
    split
    · rename_i same
      simp [same]
    · split
      · simp
      · rw [List.mem_cons, ih, List.mem_cons]
        exact or_left_comm

/-- The set of the given texts. -/
def ofList (texts : List String) : GlyphSet := { members := texts.foldr place [] }

/-- The members of the set of some texts are these texts. -/
@[simp]
theorem mem_members_ofList
    {text : String}
    {texts : List String} :
    text ∈ (ofList texts).members ↔ text ∈ texts := by
  simp only [ofList]
  induction texts with
  | nil => simp
  | cons first rest ih => simp [ih]

/-- The set of the characters of a text. -/
def ofText (text : String) : GlyphSet :=
  ofList (text.toList.map String.singleton)

/-- Whether a character is a member. -/
def contains (glyphs : GlyphSet) (character : Char) : Bool :=
  glyphs.members.contains (String.singleton character)

/-- The set of the characters of a text holds these characters and no others. -/
@[simp]
theorem contains_ofText
    {text : String}
    {character : Char} :
    (ofText text).contains character = true ↔ character ∈ text.toList := by
  have same {other : Char} :
      String.singleton other = String.singleton character ↔ other = character :=
    ⟨fun equal => by simpa using congrArg String.toList equal, fun equal => by rw [equal]⟩
  simp only [contains, ofText, List.contains_iff_mem, mem_members_ofList, List.mem_map, same]
  constructor
  · rintro ⟨other, member, rfl⟩
    exact member
  · intro member
    exact ⟨character, member, rfl⟩

end GlyphSet

/-- The settings of a lexer. -/
structure Config where
  /-- Characters that are skipped between tokens. -/
  ignore : GlyphSet
  /-- Characters that are tokens of the literal kind. -/
  literals : GlyphSet
  pairs : List DelimiterPair
  /-- The declarations of precedence; a later one ranks higher. -/
  precedence : List PrecedenceRule
  /-- The rules that are tried in order after the literal characters. -/
  patterns : List PatternRule := []
  /-- A character that nothing recognizes is an error instead of being skipped. -/
  strict : Bool := false
  deriving DecidableEq, Repr

/-- The settings that hold where nothing else is said. -/
def Config.standard : Config where
  ignore := GlyphSet.ofText " \t"
  literals := GlyphSet.ofText "+-*/%^<>=!?()[]\x7b\x7d.,;:"
  pairs := [
    { kind := literalKind, opener := "(", closer := ")" },
    { kind := literalKind, opener := "\x7b", closer := "\x7d" },
    { kind := literalKind, opener := "[", closer := "]" }]
  precedence := [
    { kind := literalKind, associativity := .left, lexemes := ["+", "-"] },
    { kind := literalKind, associativity := .left, lexemes := ["*", "/"] },
    { kind := literalKind, associativity := .right, lexemes := ["-"] }]

instance : Inhabited Config := ⟨Config.standard⟩

end TokenForest
