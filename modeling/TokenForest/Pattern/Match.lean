import TokenForest.Pattern.CharSet

/-!
# Matching

A pattern is matched at one place of a text by backtracking: alternatives are tried from the left,
and the first way through the whole pattern wins.  What follows a node is passed to it as a
continuation, so the recursion is on the node alone.  A repetition brings its own bound: past the
required count it goes on only after a step that moved, so the text left limits the number of
rounds.
-/

namespace TokenForest.Pattern

open Text

/-- A place in a text with the groups captured so far. -/
structure Place where
  /-- The characters before the place, the nearest first. -/
  before : List Char
  /-- The characters after the place. -/
  after : List Char
  /-- The starts and ends of groups, the latest first: `2 n` and `2 n + 1` for group `n`. -/
  marks : List (Nat × Nat) := []
  deriving Repr

namespace Place

/-- The number of characters before the place. -/
def position (place : Place) : Nat := place.before.length

/-- The place at an index of a text. -/
def ofIndex (text : List Char) (index : Nat) : Place :=
  { before := (text.take index).reverse, after := text.drop index }

/-- Notes the present position as the start or end of a group. -/
def mark (index : Nat) (place : Place) : Place :=
  { place with marks := (index, place.position) :: place.marks }

/-- The start and end of what a group captured, if it has captured anything. -/
def captured? (group : Nat) (place : Place) : Option (Nat × Nat) :=
  match place.marks.lookup (2 * group), place.marks.lookup (2 * group + 1) with
  | some start, some stop => if start ≤ stop then some (start, stop) else none
  | _, _ => none

/-- Moves back over a number of characters, if there are as many. -/
def back? : Nat → Place → Option Place
  | 0, place => some place
  | count + 1, place =>
    match place.before with
    | [] => none
    | character :: before =>
      back? count { place with before, after := character :: place.after }

/-- Moves on over one character that passes a test. -/
def step? (test : Char → Bool) (place : Place) : Option Place :=
  match place.after with
  | [] => none
  | character :: after =>
    if test character then
      some { place with before := character :: place.before, after }
    else none

/-- Moves on over the given characters, each of which has to agree with the text. -/
def along? (agree : Char → Char → Bool) : List Char → Place → Option Place
  | [], place => some place
  | character :: rest, place =>
    match place.step? (agree character) with
    | none => none
    | some next => along? agree rest next

end Place

/-- Whether a character is a word character. -/
def isWordChar (ascii : Bool) (character : Char) : Bool :=
  CharClass.word.covers ascii character.toNat

/-- Whether exactly one of the two neighbours of a place is a word character. -/
def atWordEdge (ascii : Bool) (place : Place) : Bool :=
  place.before.head?.any (isWordChar ascii) != place.after.head?.any (isWordChar ascii)

/-- Whether an anchor holds at a place. -/
def Anchor.holds (place : Place) : Anchor → Bool
  | .textStart => place.before.isEmpty
  | .textEnd => place.after.isEmpty
  | .lineStart => place.before.isEmpty || place.before.head? == some '\n'
  | .lineEnd => place.after.isEmpty || place.after.head? == some '\n'
  | .lastLineEnd => place.after.isEmpty || place.after == ['\n']
  | .wordEdge ascii => atWordEdge ascii place
  | .noWordEdge ascii =>
    !(place.before.isEmpty && place.after.isEmpty) && !atWordEdge ascii place

/-- What is to match after a node: a way on from a place, if there is one. -/
abbrev Continuation := Place → Option Place

/-- Whether a further round is allowed after a number of rounds. -/
def mayRepeat (most : Option Nat) (count : Nat) : Bool :=
  match most with
  | none => true
  | some limit => count < limit

/--
The rounds of a greedy repetition: further rounds first, then what follows.  `last` is the position
where the latest optional round began.
-/
def repeatGreedy
    (round : Place → Continuation → Option Place)
    (least : Nat)
    (most : Option Nat)
    (follow : Continuation) :
    (fuel count : Nat) → (last : Option Nat) → Continuation
  | 0, _, _, _ => none
  | fuel + 1, count, last, place =>
    if count < least then
      round place (repeatGreedy round least most follow fuel (count + 1) last)
    else
      let further :=
        if mayRepeat most count && last != some place.position then
          round place
            (repeatGreedy round least most follow fuel (count + 1) (some place.position))
        else none
      match further with
      | some found => some found
      | none => follow place

/-- The rounds of a lazy repetition: what follows first, then further rounds. -/
def repeatLazy
    (round : Place → Continuation → Option Place)
    (least : Nat)
    (most : Option Nat)
    (follow : Continuation) :
    (fuel count : Nat) → (last : Option Nat) → Continuation
  | 0, _, _, _ => none
  | fuel + 1, count, last, place =>
    if count < least then
      round place (repeatLazy round least most follow fuel (count + 1) last)
    else
      match follow place with
      | some found => some found
      | none =>
        if mayRepeat most count && last != some place.position then
          round place
            (repeatLazy round least most follow fuel (count + 1) (some place.position))
        else none

/-- The rounds of a possessive repetition: as many as there are, none of them given back. -/
def repeatPossessive
    (round : Place → Continuation → Option Place)
    (least : Nat)
    (most : Option Nat) :
    (fuel count : Nat) → (last : Option Nat) → Continuation
  | 0, _, _, _ => none
  | fuel + 1, count, last, place =>
    if count < least then
      match round place some with
      | none => none
      | some next => repeatPossessive round least most fuel (count + 1) last next
    else if mayRepeat most count && last != some place.position then
      match round place some with
      | none => some place
      | some next =>
        repeatPossessive round least most fuel (count + 1) (some place.position) next
    else some place

/-- Whether two characters agree, with or without regard to case. -/
def sameLetter (ignoreCase ascii : Bool) (first second : Char) : Bool :=
  if ignoreCase then Case.lower ascii first.toNat == Case.lower ascii second.toNat
  else first == second

/-- The places that a node leads to, tried in order against what follows. -/
def Node.run (text : List Char) : Node → Place → Continuation → Option Place
  | .empty, place, follow => follow place
  | .any acrossLines, place, follow =>
    (place.step? fun character => acrossLines || character != '\n').bind follow
  | .set negated ignoreCase ascii items, place, follow =>
    (place.step? fun character =>
      setCovers ignoreCase ascii items character.toNat != negated).bind follow
  | .anchor condition, place, follow =>
    if condition.holds place then follow place else none
  | .seq first second, place, follow =>
    first.run text place fun next => second.run text next follow
  | .alt first second, place, follow =>
    match first.run text place follow with
    | some found => some found
    | none => second.run text place follow
  | .capture group body, place, follow =>
    body.run text (place.mark (2 * group)) fun next => follow (next.mark (2 * group + 1))
  | .enclosed body, place, follow => body.run text place follow
  | .repeated least most greed body, place, follow =>
    let fuel := least + place.after.length + 2
    match greed with
    | .greedy =>
      repeatGreedy (fun next rest => body.run text next rest) least most follow fuel 0 none place
    | .lazy =>
      repeatLazy (fun next rest => body.run text next rest) least most follow fuel 0 none place
    | .possessive =>
      (repeatPossessive (fun next rest => body.run text next rest) least most fuel 0 none
        place).bind follow
  | .look behind negated body, place, follow =>
    let tested :=
      match behind with
      | none => body.run text place some
      | some width =>
        match place.back? width with
        | none => none
        | some start => body.run text start some
    match tested, negated with
    | some found, false => follow { place with marks := found.marks }
    | none, true => follow place
    | _, _ => none
  | .atomic body, place, follow => (body.run text place some).bind follow
  | .backref group ignoreCase ascii, place, follow =>
    match place.captured? group with
    | none => none
    | some (start, stop) =>
      (place.along? (sameLetter ignoreCase ascii) ((text.take stop).drop start)).bind follow
  | .conditional group present absent, place, follow =>
    if (place.captured? group).isSome then present.run text place follow
    else absent.run text place follow

end Pattern

open Pattern in
/--
The end of the match of a pattern that starts at an index of a text, if there is one.  All of the
text is in view: what stands before the index counts for anchors and for tests of what lies behind.
-/
def Pattern.matchEnd?
    (pattern : Pattern)
    (text : List Char)
    (start : Nat) :
    Option Nat :=
  (pattern.node.run text (Place.ofIndex text start) some).map Place.position

end TokenForest
