import TokenForest.Fault
import TokenForest.Grouping.Pairs
import TokenForest.Token
import TokenForest.Tree

/-!
# Grouping

A matcher folds a stream of tokens into a forest.  An opener starts a group; what follows stands
inside until a token comes that has the kind of the opener and the lexeme that closes it.  That
token ends the group and is its last element.  Everything else that stands where no group is open
is a tree of its own.

The state is two stacks.  One holds the trees that are built so far, the other the openers whose
groups are open.  The trees of open groups lie at the top of the first stack and grow there; a group
that closes inside another leaves the stack and joins the group below it.
-/

namespace TokenForest

open Lexical (kind lexeme)

variable {Item : Type}

/-- The state of grouping. -/
structure Matcher (Item : Type) where
  /-- The trees that no finished or growing tree holds, the latest first. -/
  built : List (Tree Item) := []
  /-- The openers of the open groups, the innermost first. -/
  pending : List Item := []
  deriving Repr

/-- A group that never closed. -/
structure Unbalanced (Item : Type) where
  opener : Item
  expected : String
  deriving Repr

namespace Matcher

/-- How many groups are open. -/
def depth (matcher : Matcher Item) : Nat := matcher.pending.length

variable [Lexical Item]

/-- Whether a token closes the group of an opener. -/
def closes (pairs : Pairs) (opener item : Item) : Bool :=
  kind opener = kind item &&
    pairs.closer? (kind opener) (lexeme opener) = some (lexeme item)

/--
Takes the next token.  An opener goes onto both stacks.  Any other token joins the innermost open
group, which it may close, or is a tree of its own.
-/
def feed
    (pairs : Pairs)
    (matcher : Matcher Item)
    (item : Item) :
    Except Breakdown (Matcher Item) :=
  match pairs.closer? (kind item) (lexeme item) with
  | some _ =>
    .ok { built := .leaf item :: matcher.built, pending := item :: matcher.pending }
  | none =>
    match matcher.pending, matcher.built with
    | [], built => .ok { built := .leaf item :: built, pending := [] }
    | _ :: _, [] => .error .noTree
    | opener :: outer, top :: below =>
      let grown := top.adopt (.leaf item)
      if closes pairs opener item then
        match outer, below with
        | [], _ => .ok { built := grown :: below, pending := [] }
        | _ :: _, [] => .error .noTree
        | _ :: _, parent :: rest => .ok { built := parent.adopt grown :: rest, pending := outer }
      else .ok { built := grown :: below, pending := opener :: outer }

/-- Takes tokens one after another. -/
def feedAll
    (pairs : Pairs)
    (matcher : Matcher Item)
    (items : List Item) :
    Except Breakdown (Matcher Item) :=
  items.foldlM (feed pairs) matcher

/--
The forest, if every group is closed, and otherwise the outermost group that is not.  Either way the
matcher is empty afterwards.
-/
def finish
    (pairs : Pairs)
    (matcher : Matcher Item) :
    Except (Fault (Unbalanced Item)) (List (Tree Item)) × Matcher Item :=
  match matcher.pending.getLast? with
  | none => (.ok matcher.built.reverse, { matcher with built := [] })
  | some outermost =>
    match pairs.closer? (kind outermost) (lexeme outermost) with
    | some expected => (.error (.reported { opener := outermost, expected }), {})
    | none => (.error (.broken (.noPair (kind outermost) (lexeme outermost))), matcher)

/--
The children that a token gains when another token comes, as pairs of parent and child: the new
token joins the innermost group, and a group that it closes joins the group around it.
-/
def links (pairs : Pairs) (matcher : Matcher Item) (item : Item) : List (Item × Item) :=
  match pairs.closer? (kind item) (lexeme item), matcher.pending, matcher.built with
  | none, opener :: outer, top :: below =>
    (top.label, item) ::
      match closes pairs opener item, outer, below with
      | true, _ :: _, parent :: _ => [(parent.label, top.label)]
      | _, _, _ => []
  | _, _, _ => []

end Matcher

/-- Groups a list of tokens. -/
def group
    [Lexical Item]
    (pairs : Pairs)
    (items : List Item) :
    Except (Fault (Unbalanced Item)) (List (Tree Item)) :=
  match Matcher.feedAll pairs {} items with
  | .ok matcher => (matcher.finish pairs).1
  | .error breakdown => .error (.broken breakdown)

end TokenForest
