import TokenForest.Grouping.Matcher

/-!
# Grouping shared tokens

A caller may own tokens and group them more than once.  Each token then keeps the children that any
pass has given it, whether the pass succeeded or not, and the forest that a pass answers shows each
token with all the children that it has at that time.  The tokens are known by their numbers; the
children are a list of links from parents to children, in the order in which they were made.
-/

namespace TokenForest

open Text.Utf8 (DecodeError)

/-- A token of a roster, with its number. -/
structure Member where
  number : Nat
  token : Token
  deriving Repr

instance : Lexical Member where
  kind member := member.token.kind
  lexeme member := member.token.lexeme

/-- Tokens that a caller owns, some of which have no lexeme, with the children they have gained. -/
structure Roster where
  tokens : List (Except DecodeError Token)
  links : List (Nat × Nat) := []

namespace Roster

/-- The roster of some stretches of a source. -/
def ofStretches (source : Text.Source) (stretches : List Stretch) : Roster :=
  { tokens := stretches.map (Token.cut source) }

/-- The tree of a token: the token with the children that it has gained, and theirs. -/
def tree (roster : Roster) : (fuel number : Nat) → Option (Tree Token)
  | 0, _ => none
  | fuel + 1, number =>
    match roster.tokens[number]? with
    | some (.ok token) =>
      let children := (roster.links.filter (·.1 == number)).filterMap fun link =>
        roster.tree fuel link.2
      some (.node token children)
    | _ => none

/-- The trees of the tokens at the top of a forest. -/
def forestOf (roster : Roster) (forest : List (Tree Member)) : List (Tree Token) :=
  forest.filterMap fun tree => roster.tree (roster.tokens.length + 1) tree.label.number

/-- Feeds a token to a matcher, which gives children to tokens of the roster. -/
def feed
    (pairs : Pairs)
    (roster : Roster)
    (matcher : Matcher Member)
    (number : Nat) :
    Except Breakdown (Roster × Matcher Member) :=
  match roster.tokens[number]? with
  | none => .ok (roster, matcher)
  | some (.error error) => .error (.undecodable error)
  | some (.ok token) =>
    let member : Member := { number, token }
    let gained := (matcher.links pairs member).map fun link => (link.1.number, link.2.number)
    match matcher.feed pairs member with
    | .ok fed => .ok ({ roster with links := roster.links ++ gained }, fed)
    | .error breakdown => .error breakdown

/-- The outcome of feeding tokens: the depth after each, and what stopped it, if anything did. -/
structure Fed where
  depths : List Nat := []
  error : Option Breakdown := none
  roster : Roster
  matcher : Matcher Member

/-- Feeds tokens one after another, up to the first that has no lexeme. -/
def feedAll
    (pairs : Pairs)
    (roster : Roster)
    (matcher : Matcher Member) :
    (numbers : List Nat) → Fed
  | [] => { roster, matcher }
  | number :: rest =>
    match roster.feed pairs matcher number with
    | .error error => { error := some error, roster, matcher }
    | .ok (roster, matcher) =>
      let later := feedAll pairs roster matcher rest
      { later with depths := matcher.depth :: later.depths }

/-- The error about an opener of a roster, which shows the token without value and number. -/
def unbalanced (error : Unbalanced Member) : Unbalanced Token :=
  { opener := error.opener.token.reduced, expected := error.expected }

/-- The outcome of a whole pass over tokens of a roster. -/
structure Pass where
  result : Except (Fault (Unbalanced Token)) (List (Tree Token))
  roster : Roster
  matcher : Matcher Member

/-- Finishes a matcher; the forest is answered as the roster shows it. -/
def finish
    (pairs : Pairs)
    (roster : Roster)
    (matcher : Matcher Member) :
    Pass :=
  let (result, matcher) := matcher.finish pairs
  { result := (result.map roster.forestOf).mapError (Fault.map unbalanced), roster, matcher }

/--
Feeds tokens to a matcher and finishes it.  If a token has no lexeme, the pass stops there, and what
the matcher has taken stays in it.
-/
def group
    (pairs : Pairs)
    (roster : Roster)
    (matcher : Matcher Member)
    (numbers : List Nat) :
    Pass :=
  let fed := roster.feedAll pairs matcher numbers
  match fed.error with
  | some breakdown =>
    { result := .error (.broken breakdown), roster := fed.roster, matcher := fed.matcher }
  | none => fed.roster.finish pairs fed.matcher

/-- The numbers of the tokens from one index up to another, clamped to the roster. -/
def numbers (roster : Roster) (start stop : Nat) : List Nat :=
  ((List.range roster.tokens.length).take stop).drop start

end Roster

end TokenForest
