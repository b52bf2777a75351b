import TokenForest.Pattern.CharClass

/-!
# Patterns

A pattern describes stretches of text.  Its nodes are binary where they join patterns, so a
function on patterns is plain recursion on them.  The mode of each place (case, lines, script) is
decided when the pattern is read and stands in the nodes that need it.
-/

namespace TokenForest

namespace Pattern

/-- The modes under which a part of a pattern is read. -/
structure Mode where
  ignoreCase : Bool := false
  multiline : Bool := false
  dotAll : Bool := false
  verbose : Bool := false
  ascii : Bool := false
  /-- The Unicode reading was asked for by name. -/
  unicode : Bool := false
  /-- Nothing may be repeated. -/
  template : Bool := false
  deriving DecidableEq, Repr

/-- An element of a character set. -/
inductive SetItem where
  | char (code : Nat)
  | range (low high : Nat)
  | named (members : CharClass) (negated : Bool)
  deriving DecidableEq, Repr

/-- A test of the place between two characters. -/
inductive Anchor where
  /-- The start of the text. -/
  | textStart
  /-- The end of the text. -/
  | textEnd
  /-- The start of the text or of any line. -/
  | lineStart
  /-- The end of the text or of any line. -/
  | lineEnd
  /-- The end of the text, or the place before a line feed that ends it. -/
  | lastLineEnd
  /-- Between a word character and something else. -/
  | wordEdge (ascii : Bool)
  /-- Not between a word character and something else. -/
  | noWordEdge (ascii : Bool)
  deriving DecidableEq, Repr

/-- How many repetitions are preferred, and whether fewer or more are tried afterwards. -/
inductive Greed where
  | greedy
  | lazy
  | possessive
  deriving DecidableEq, Repr

/-- The structure of a pattern. -/
inductive Node where
  | empty
  /-- Any one character; a line feed only if `acrossLines`. -/
  | any (acrossLines : Bool)
  /-- One character that is in the set, or that is not in it.  A single one is a set too. -/
  | set (negated ignoreCase ascii : Bool) (items : List SetItem)
  | anchor (place : Anchor)
  | seq (first second : Node)
  | alt (first second : Node)
  | capture (group : Nat) (body : Node)
  /-- The body, read in modes of its own. -/
  | enclosed (body : Node)
  /-- At least `least` repetitions and, if there is a limit, at most that many. -/
  | repeated (least : Nat) (most : Option Nat) (greed : Greed) (body : Node)
  /-- A test of the text ahead, or of the given number of characters behind. -/
  | look (behind : Option Nat) (negated : Bool) (body : Node)
  /-- The body, never entered again once it has matched. -/
  | atomic (body : Node)
  /-- The text that a group has captured. -/
  | backref (group : Nat) (ignoreCase ascii : Bool)
  | conditional (group : Nat) (present absent : Node)
  deriving DecidableEq, Repr

/-- The repeat count that stands for no limit; counts that are written are less. -/
def unlimited : Nat := 4294967295

/-- The greatest width that is told apart from greater ones. -/
def widthLimit : Nat := Nat.pow 2 64

/-- Keeps a pair of least and greatest width within the limit. -/
def clampWidth (width : Nat × Nat) : Nat × Nat :=
  (min width.1 widthLimit, min width.2 widthLimit)

/-- The least and the greatest number of characters that a node can match. -/
def Node.width (groupWidth : Nat → Nat × Nat) : Node → Nat × Nat
  | .empty | .anchor _ | .look .. => (0, 0)
  | .any _ | .set .. => (1, 1)
  | .seq first second =>
    let left := first.width groupWidth
    let right := second.width groupWidth
    clampWidth (left.1 + right.1, left.2 + right.2)
  | .alt first second | .conditional _ first second =>
    let left := first.width groupWidth
    let right := second.width groupWidth
    (min left.1 right.1, max left.2 right.2)
  | .capture _ body | .enclosed body | .atomic body => body.width groupWidth
  | .repeated least most _ body =>
    let once := body.width groupWidth
    let greatest :=
      match most with
      | some limit => once.2 * limit
      | none => if once.2 = 0 then 0 else widthLimit
    clampWidth (once.1 * least, greatest)
  | .backref group .. => groupWidth group

/-- What follows one after another in a node. -/
def Node.steps : Node → List Node
  | .empty => []
  | .seq first second => first.steps ++ second.steps
  | node => [node]

/-- The node of some steps. -/
def Node.ofSteps : List Node → Node
  | [] => .empty
  | first :: rest => rest.foldl Node.seq first

/-- Whether a node is a single step, with nothing inside. -/
def Node.isPlain : Node → Bool
  | .any _ | .set .. | .anchor _ | .backref .. => true
  | _ => false

end Pattern

/-- A pattern that was read: the text it was written as, the initial mode and its structure. -/
structure Pattern where
  written : String
  mode : Pattern.Mode
  node : Pattern.Node
  deriving DecidableEq, Repr

end TokenForest
