import TokenForest.Proofs.Grouping.Feeding

/-!
# Balanced forests

A tree is balanced if it is a token that opens no group, or an opener above balanced trees of which
the last, and no other, is the token that closes the group.  On balanced forests grouping and
walking are inverse to each other: every forest that a matcher finishes with is balanced, and fed
with the walk over a balanced forest a matcher builds that forest again.

The first of these rests on `Stacked`, which every token preserves: the tree of an open group lacks
nothing but its closer, and all other trees are balanced.  For the second a balanced tree is fed to
a matcher whose stacks hold anything at all, and `Settles` says that the tree then goes where a
single token would have gone.
-/

namespace TokenForest

open Lexical (kind lexeme)

variable
    {Item : Type}
    [Lexical Item]
    {pairs : Pairs}

namespace Tree

/-- Every group in the tree ends with the first of its elements that can close it. -/
inductive Balanced (pairs : Pairs) : Tree Item → Prop where
  | leaf
      {item : Item}
      (plain : pairs.closer? (kind item) (lexeme item) = none) :
      Balanced pairs (.leaf item)
  | group
      {head last : Item} {closer : String} {inner : List (Tree Item)}
      (opener : pairs.closer? (kind head) (lexeme head) = some closer)
      (within : ∀ child ∈ inner, Balanced pairs child)
      (unclosed : ∀ item, leaf item ∈ inner → ¬(kind item = kind head ∧ lexeme item = closer))
      (plain : pairs.closer? (kind last) (lexeme last) = none)
      (closed : kind last = kind head ∧ lexeme last = closer) :
      Balanced pairs (.node head (inner ++ [.leaf last]))

variable {tree : Tree Item}

/--
A tree has children exactly if its token is an opener.  The last of them is then a leaf that closes
the group, of the kind of the opener and with the lexeme that is registered for it, and no other
child is such a leaf.
-/
structure EndsAtFirstCloser (pairs : Pairs) (tree : Tree Item) : Prop where
  isGroup_iff :
    tree.isGroup = true ↔
      ∃ closer, pairs.closer? (kind tree.label) (lexeme tree.label) = some closer
  closed :
    ∀ closer, pairs.closer? (kind tree.label) (lexeme tree.label) = some closer →
      ∃ inner last,
        tree.children = inner ++ [.leaf last] ∧
          (kind last = kind tree.label ∧ lexeme last = closer) ∧
          ∀ item, .leaf item ∈ inner → ¬(kind item = kind tree.label ∧ lexeme item = closer)

theorem Balanced.endsAtFirstCloser
    (balanced : Balanced pairs tree) :
    EndsAtFirstCloser pairs tree := by
  cases balanced with
  | leaf plain =>
      constructor
      · simp [plain]
      · intro closer opener
        rw [label_leaf, plain] at opener
        cases opener
  | @group head last closer inner opener within unclosed plain closed =>
      constructor
      · simp [isGroup, children, label, opener]
      · intro other same
        rw [label, opener] at same
        cases same
        exact ⟨inner, last, rfl, closed, unclosed⟩

/-- What stands at some level of a balanced tree is balanced. -/
theorem Balanced.of_mem_levels
    {depth : Nat} {entry : Nat × Tree Item}
    (balanced : Balanced pairs tree)
    (present : entry ∈ tree.levels depth) :
    Balanced pairs entry.2 := by
  induction balanced generalizing depth with
  | leaf plain =>
      rw [eq_leaf_of_mem_levels present]
      exact .leaf plain
  | @group head last closer inner opener within unclosed plain closed ih =>
      rw [levels_node, List.mem_cons] at present
      rcases present with rfl | below
      · exact .group opener within unclosed plain closed
      · rcases mem_levelsAll_iff.mp below with ⟨child, listed, present⟩
        rcases List.mem_append.mp listed with earlier | ending
        · exact ih child earlier present
        · rw [List.mem_singleton] at ending
          subst ending
          rw [eq_leaf_of_mem_levels present]
          exact .leaf plain

end Tree

namespace Matcher

open TokenForest.Tree (Balanced)

theorem closes_eq_true_iff
    {opener : Item} {closer : String}
    (paired : pairs.closer? (kind opener) (lexeme opener) = some closer)
    (item : Item) :
    closes pairs opener item = true ↔ kind item = kind opener ∧ lexeme item = closer := by
  simp only [closes, paired, Bool.and_eq_true, decide_eq_true_eq, Option.some.injEq]
  rw [eq_comm, eq_comm (a := closer)]

/-! ## What is built is balanced -/

/-- A group that has all that it needs to be balanced but its closer. -/
structure Growing
    (pairs : Pairs)
    (head : Item)
    (closer : String)
    (inner : List (Tree Item)) :
    Prop where
  opener : pairs.closer? (kind head) (lexeme head) = some closer
  within : ∀ child ∈ inner, Balanced pairs child
  unclosed : ∀ item, .leaf item ∈ inner → ¬(kind item = kind head ∧ lexeme item = closer)

namespace Growing

variable
    {head : Item} {closer : String}
    {inner : List (Tree Item)}

theorem nil
    (opener : pairs.closer? (kind head) (lexeme head) = some closer) :
    Growing pairs head closer ([] : List (Tree Item)) where
  opener := opener
  within := by simp
  unclosed := by simp

theorem append
    {child : Tree Item}
    (growing : Growing pairs head closer inner)
    (balanced : Balanced pairs child)
    (unclosing : ∀ item, child = .leaf item → ¬(kind item = kind head ∧ lexeme item = closer)) :
    Growing pairs head closer (inner ++ [child]) where
  opener := growing.opener
  within := by
    intro other listed
    rcases List.mem_append.mp listed with earlier | last
    · exact growing.within other earlier
    · rw [List.mem_singleton] at last
      rwa [last]
  unclosed := by
    intro item listed
    rcases List.mem_append.mp listed with earlier | last
    · exact growing.unclosed item earlier
    · exact unclosing item (List.mem_singleton.mp last).symm

theorem close
    {last : Item}
    (growing : Growing pairs head closer inner)
    (plain : pairs.closer? (kind last) (lexeme last) = none)
    (closing : closes pairs head last = true) :
    Balanced pairs (.node head (inner ++ [.leaf last])) :=
  .group growing.opener growing.within growing.unclosed plain
    ((closes_eq_true_iff growing.opener last).mp closing)

end Growing

/-- The trees of the open groups lie on top and lack their closers; all others are balanced. -/
inductive Stacked (pairs : Pairs) : Matcher Item → Prop where
  | settled
      {built : List (Tree Item)}
      (balanced : ∀ tree ∈ built, Balanced pairs tree) :
      Stacked pairs { built, pending := [] }
  | grows
      {head : Item} {closer : String} {inner built : List (Tree Item)} {pending : List Item}
      (growing : Growing pairs head closer inner)
      (below : Stacked pairs { built, pending }) :
      Stacked pairs { built := .node head inner :: built, pending := head :: pending }

theorem stacked_empty : Stacked pairs ({} : Matcher Item) :=
  .settled (by simp)

theorem Stacked.balanced
    {built : List (Tree Item)}
    (stacked : Stacked pairs { built, pending := [] }) :
    ∀ tree ∈ built, Balanced pairs tree := by
  cases stacked with
  | settled balanced =>
      exact balanced

theorem Feeds.stacked
    {matcher fed : Matcher Item} {item : Item}
    (feeds : Feeds pairs matcher item fed)
    (stacked : Stacked pairs matcher) :
    Stacked pairs fed := by
  cases feeds with
  | opens opener =>
      exact .grows (.nil opener) stacked
  | stands plain =>
      exact .settled (List.forall_mem_cons.mpr ⟨.leaf plain, stacked.balanced⟩)
  | joins plain unclosing =>
      cases stacked with
      | grows growing below =>
          refine .grows (growing.append (.leaf plain) ?_) below
          intro other same closed
          cases same
          rw [(closes_eq_true_iff growing.opener item).mpr closed] at unclosing
          cases unclosing
  | ends plain closing =>
      cases stacked with
      | grows growing below =>
          exact .settled (List.forall_mem_cons.mpr ⟨growing.close plain closing, below.balanced⟩)
  | returns plain closing =>
      cases stacked with
      | grows growing below =>
          cases below with
          | grows enclosing below =>
              -- A group has a closer below its head, so it is no leaf and closes nothing itself.
              refine .grows (enclosing.append (growing.close plain closing) ?_) below
              intro other same
              exact absurd same Tree.node_append_ne_leaf

theorem Stacked.feedAll
    {matcher fed : Matcher Item} {items : List Item}
    (stacked : Stacked pairs matcher)
    (fedAll : matcher.feedAll pairs items = .ok fed) :
    Stacked pairs fed := by
  induction items generalizing matcher with
  | nil =>
      cases fedAll
      exact stacked
  | cons item rest ih =>
      rcases feedAll_cons_eq_ok_iff.mp fedAll with ⟨middle, first, later⟩
      exact ih ((feeds_of_feed first).stacked stacked) later

/-! ## What is balanced is built again -/

/-- A tree goes onto the stack of trees, or into the group on top of it that it does not close. -/
inductive Settles (pairs : Pairs) (tree : Tree Item) : Matcher Item → Matcher Item → Prop where
  | stands
      {built : List (Tree Item)} :
      Settles pairs tree { built, pending := [] } { built := tree :: built, pending := [] }
  | joins
      {top : Tree Item} {below : List (Tree Item)} {opener : Item} {outer : List Item}
      (unclosing : ∀ item, tree = .leaf item → closes pairs opener item = false) :
      Settles pairs tree
        { built := top :: below, pending := opener :: outer }
        { built := top.adopt tree :: below, pending := opener :: outer }

/-- Trees that settle one by one when they are fed gather in the group that is open. -/
theorem feedAll_walkAll_of_open
    {head : Item} {before rest built : List (Tree Item)} {pending : List Item}
    (settling :
      ∀ tree ∈ rest, ∀ {matcher settled : Matcher Item},
        Settles pairs tree matcher settled → matcher.feedAll pairs tree.walk = .ok settled)
    (unclosed : ∀ item, .leaf item ∈ rest → closes pairs head item = false) :
    feedAll pairs { built := .node head before :: built, pending := head :: pending }
        (Tree.walkAll rest) =
      .ok { built := .node head (before ++ rest) :: built, pending := head :: pending } := by
  induction rest generalizing before with
  | nil =>
      rw [Tree.walkAll_nil, List.append_nil]
      rfl
  | cons tree rest ih =>
      rw [List.forall_mem_cons] at settling
      have joins : Settles pairs tree
          { built := .node head before :: built, pending := head :: pending }
          { built := .node head (before ++ [tree]) :: built, pending := head :: pending } := by
        refine .joins ?_
        intro item same
        exact unclosed item (same ▸ List.mem_cons_self)
      rw [Tree.walkAll_cons, feedAll_append (settling.1 joins), ih settling.2 ?_,
        List.append_assoc, List.singleton_append]
      intro item listed
      exact unclosed item (List.mem_cons_of_mem tree listed)

/-- Fed with the walk over a balanced tree, a matcher settles the tree. -/
theorem Settles.feedAll_walk
    {tree : Tree Item} {matcher settled : Matcher Item}
    (settles : Settles pairs tree matcher settled)
    (balanced : Balanced pairs tree) :
    matcher.feedAll pairs tree.walk = .ok settled := by
  -- The matcher stays arbitrary: what stands in a group is fed while that group is the innermost.
  induction balanced generalizing matcher settled with
  | @leaf item plain =>
      rw [Tree.walk_leaf]
      apply Feeds.feedAll_eq
      cases settles with
      | stands =>
          exact .stands plain
      | joins unclosing =>
          exact .joins plain (unclosing item rfl)
  | @group head last closer inner opener within unclosed plain closed ih =>
      have unclosing : ∀ item, .leaf item ∈ inner → closes pairs head item = false := by
        intro item listed
        rw [Bool.eq_false_iff, Ne, closes_eq_true_iff opener]
        exact unclosed item listed
      have closing : closes pairs head last = true := (closes_eq_true_iff opener last).mpr closed
      rcases matcher with ⟨built, pending⟩
      have opened : feedAll pairs { built, pending } [head] =
          .ok { built := .node head [] :: built, pending := head :: pending } :=
        Feeds.feedAll_eq (.opens opener)
      have filled : feedAll pairs { built := .node head [] :: built, pending := head :: pending }
            (Tree.walkAll inner) =
          .ok { built := .node head inner :: built, pending := head :: pending } :=
        feedAll_walkAll_of_open (fun child listed {_ _} settles => ih child listed settles)
          unclosing
      have ended : feedAll pairs { built := .node head inner :: built, pending := head :: pending }
            [last] =
          .ok settled := by
        apply Feeds.feedAll_eq
        cases settles with
        | stands =>
            exact .ends plain closing
        | joins unclosing =>
            exact .returns plain closing
      calc
        _ = feedAll pairs { built, pending } ([head] ++ (Tree.walkAll inner ++ [last])) := by
          simp
        _ = feedAll pairs { built := .node head [] :: built, pending := head :: pending }
              (Tree.walkAll inner ++ [last]) := feedAll_append opened _
        _ = feedAll pairs { built := .node head inner :: built, pending := head :: pending }
              [last] := feedAll_append filled _
        _ = .ok settled := ended

theorem feedAll_walkAll
    {forest built : List (Tree Item)}
    (balanced : ∀ tree ∈ forest, Balanced pairs tree) :
    feedAll pairs { built, pending := [] } (Tree.walkAll forest) =
      .ok { built := forest.reverse ++ built, pending := [] } := by
  induction forest generalizing built with
  | nil =>
      rfl
  | cons tree rest ih =>
      rw [List.forall_mem_cons] at balanced
      have first : Settles pairs tree { built, pending := [] }
          { built := tree :: built, pending := [] } :=
        .stands
      rw [Tree.walkAll_cons, feedAll_append (first.feedAll_walk balanced.1), ih balanced.2,
        List.reverse_cons, List.append_assoc, List.singleton_append]

end Matcher

/-- A forest that tokens are grouped into is balanced. -/
theorem balanced_of_group
    {items : List Item} {forest : List (Tree Item)}
    (grouped : group pairs items = .ok forest) :
    ∀ tree ∈ forest, tree.Balanced pairs := by
  rcases Matcher.exists_feedAll_empty pairs items with ⟨fed, fedAll, _⟩
  have stacked := Matcher.stacked_empty.feedAll fedAll
  rw [group_eq_finish fedAll] at grouped
  have closed := Matcher.pending_eq_nil_of_finish grouped
  have built := Matcher.eq_reverse_of_finish grouped
  rcases fed with ⟨trees, pending⟩
  subst closed built
  intro tree listed
  exact stacked.balanced tree (List.mem_reverse.mp listed)

/-- Grouping rebuilds a balanced forest from the walk over it. -/
theorem group_walkAll
    {forest : List (Tree Item)}
    (balanced : ∀ tree ∈ forest, tree.Balanced pairs) :
    group pairs (Tree.walkAll forest) = .ok forest := by
  have fedAll : Matcher.feedAll pairs {} (Tree.walkAll forest) =
      .ok { built := forest.reverse ++ [], pending := [] } :=
    Matcher.feedAll_walkAll balanced
  rw [group_eq_finish fedAll, List.append_nil]
  show Except.ok forest.reverse.reverse = Except.ok forest
  rw [List.reverse_reverse]

end TokenForest
