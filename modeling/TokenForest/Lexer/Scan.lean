import TokenForest.Config.Basic
import TokenForest.Token

/-!
# Scanning

A scan goes through a source character by character.  An ignored character is skipped; a literal
character is a token; otherwise the first pattern rule that matches something here makes a token of
it; and a character that nothing recognizes is skipped or, under strict rules, ends the scan.

The cursor counts bytes, by which characters and tokens are cut from the source, and characters, by
which patterns look at the text.  Every step moves both counts.  A scan reports what it skipped and
why, so that every character of the text is accounted for.
-/

namespace TokenForest

/-- What a scan goes by. -/
structure ScanRules where
  ignore : GlyphSet
  literals : GlyphSet
  patterns : List PatternRule
  strict : Bool
  deriving DecidableEq, Repr

/-- A place between two characters, counted in characters and in bytes. -/
structure Cursor where
  index : Nat := 0
  offset : Nat := 0
  deriving DecidableEq, Repr

namespace Cursor

/-- The cursor after a single character, which ends at the given offset. -/
def step (cursor : Cursor) (next : Nat) : Cursor :=
  { index := cursor.index + 1, offset := next }

/-- The cursor after the part of a text that ends at an index. -/
def jump (text : List Char) (cursor : Cursor) (stop : Nat) : Cursor :=
  { index := stop
    offset :=
      cursor.offset + (Text.Utf8.encode ((text.take stop).drop cursor.index)).length }

end Cursor

/-- What the rules make of a character. -/
inductive Verdict where
  | ignored
  | literal
  /-- A pattern matches from here to before the given index. -/
  | matched (kind : String) (stop : Nat)
  | unrecognized
  deriving DecidableEq, Repr

/-- A character that a scan skipped. -/
structure Skip where
  character : Char
  offset : Nat
  /-- The character is one to ignore; otherwise nothing recognizes it. -/
  ignored : Bool
  deriving DecidableEq, Repr

/-- How a scan for the next token ends. -/
inductive Found where
  | token (token : Token) (next : Cursor)
  | finished (place : Cursor)
  | unrecognized (character : Char) (place : Cursor)
  /-- The bytes at the place are no character or no text. -/
  | undecodable (error : Text.Utf8.DecodeError) (place : Cursor)
  deriving Repr

namespace ScanRules

/-- The first rule that matches something at an index, with the end of its match. -/
def firstMatch?
    (text : List Char)
    (index : Nat) :
    List PatternRule → Option (String × Nat)
  | [] => none
  | rule :: rest =>
    match rule.pattern.matchEnd? text index with
    | none => firstMatch? text index rest
    | some stop =>
      if stop = index then firstMatch? text index rest else some (rule.kind, stop)

/-- What the rules make of the character at an index of a text. -/
def verdict
    (rules : ScanRules)
    (text : List Char)
    (index : Nat)
    (character : Char) :
    Verdict :=
  if rules.ignore.contains character then .ignored
  else if rules.literals.contains character then .literal
  else
    match firstMatch? text index rules.patterns with
    | some (kind, stop) => .matched kind stop
    | none => .unrecognized

/-- Ends a scan with the token between two cursors. -/
def emit
    (source : Text.Source)
    (kind : String)
    (start stop : Cursor) :
    Found :=
  let stretch : Stretch :=
    { kind
      line := source.lineAt start.offset
      start := start.offset
      stop := stop.offset }
  match Token.cut source stretch with
  | .ok token => .token token stop
  | .error error => .undecodable error stop

/-- Scans for the next token from a cursor.  Every round passes a character, and so some bytes. -/
def scan
    (rules : ScanRules)
    (source : Text.Source)
    (cursor : Cursor) :
    List Skip × Found :=
  match _ : source.characterAt? cursor.offset with
  | .error error => ([], .undecodable error cursor)
  | .ok none => ([], .finished cursor)
  | .ok (some (character, next)) =>
    let skip (ignored : Bool) : List Skip × Found :=
      let (skips, found) := scan rules source (cursor.step next)
      ({ character, offset := cursor.offset, ignored } :: skips, found)
    match rules.verdict source.text cursor.index character with
    | .ignored => skip true
    | .literal => ([], emit source literalKind cursor (cursor.step next))
    | .matched kind stop => ([], emit source kind cursor (cursor.jump source.text stop))
    | .unrecognized =>
      if rules.strict then ([], .unrecognized character cursor) else skip false
termination_by source.size - cursor.offset
decreasing_by
  have passed := Text.Source.characterAt?_bounds ‹_›
  simp only [Cursor.step]
  omega

end ScanRules

end TokenForest
