import TokenForest.Grouping.Matcher
import TokenForest.Proofs.Tree

/-!
# Feeding a matcher

`Feeds` says what a matcher can do with a token, one constructor for each way, and every other
property of grouping is read off it.  Two are proved here.

The trees that are built, read in the order in which they were begun, hold exactly the tokens that
were taken, in the order in which they came.  A token always joins the tree that was begun last, and
a group that closes joins the tree begun before it, so the reading never changes except at its end.

The two stacks stay aligned: the trees at the top of the one are headed by the openers on the other.
For this reason a matcher that was empty at first never breaks down.
-/

namespace TokenForest

open Lexical (kind lexeme)

variable {Item : Type}

namespace Matcher

/-- The tokens that the trees built so far hold, from the tree that was begun first. -/
def taken (matcher : Matcher Item) : List Item := Tree.walkAll matcher.built.reverse

/-- The trees that are built hold the tokens that were taken, in another order. -/
theorem walkAll_built_perm (matcher : Matcher Item) :
    (Tree.walkAll matcher.built).Perm matcher.taken := by
  rw [taken]
  induction matcher.built with
  | nil =>
      exact List.Perm.refl _
  | cons tree rest ih =>
      rw [Tree.walkAll_cons, List.reverse_cons, Tree.walkAll_append, Tree.walkAll_cons,
        Tree.walkAll_nil, List.append_nil]
      exact (List.Perm.append_left _ ih).trans List.perm_append_comm

theorem label_mem_taken
    {matcher : Matcher Item} {tree : Tree Item}
    (built : tree ∈ matcher.built) :
    tree.label ∈ matcher.taken := by
  apply matcher.walkAll_built_perm.mem_iff.mp
  exact (Tree.walk_sublist_of_mem built).subset tree.label_mem_walk

variable
    [Lexical Item]
    {pairs : Pairs}

/-- What a matcher makes of a token. -/
inductive Feeds (pairs : Pairs) : Matcher Item → Item → Matcher Item → Prop where
  /-- An opener begins a group. -/
  | opens
      {built : List (Tree Item)} {pending : List Item} {item : Item} {closer : String}
      (opener : pairs.closer? (kind item) (lexeme item) = some closer) :
      Feeds pairs { built, pending } item
        { built := .leaf item :: built, pending := item :: pending }
  /-- Where no group is open, a token is a tree of its own. -/
  | stands
      {built : List (Tree Item)} {item : Item}
      (plain : pairs.closer? (kind item) (lexeme item) = none) :
      Feeds pairs { built, pending := [] } item { built := .leaf item :: built, pending := [] }
  /-- A token that closes nothing joins the innermost group. -/
  | joins
      {top : Tree Item} {below : List (Tree Item)} {opener : Item} {outer : List Item}
      {item : Item}
      (plain : pairs.closer? (kind item) (lexeme item) = none)
      (unclosing : closes pairs opener item = false) :
      Feeds pairs { built := top :: below, pending := opener :: outer } item
        { built := top.adopt (.leaf item) :: below, pending := opener :: outer }
  /-- A token that closes the only open group leaves it finished where it is. -/
  | ends
      {top : Tree Item} {below : List (Tree Item)} {opener item : Item}
      (plain : pairs.closer? (kind item) (lexeme item) = none)
      (closing : closes pairs opener item = true) :
      Feeds pairs { built := top :: below, pending := [opener] } item
        { built := top.adopt (.leaf item) :: below, pending := [] }
  /-- A token that closes an inner group sends it into the group around it. -/
  | returns
      {top parent : Tree Item} {below : List (Tree Item)} {opener enclosing : Item}
      {outer : List Item} {item : Item}
      (plain : pairs.closer? (kind item) (lexeme item) = none)
      (closing : closes pairs opener item = true) :
      Feeds pairs { built := top :: parent :: below, pending := opener :: enclosing :: outer } item
        { built := parent.adopt (top.adopt (.leaf item)) :: below, pending := enclosing :: outer }

/-- A token that is taken is taken in one of these ways. -/
theorem feeds_of_feed
    {matcher fed : Matcher Item} {item : Item}
    (taken : matcher.feed pairs item = .ok fed) :
    Feeds pairs matcher item fed := by
  rcases matcher with ⟨built, pending⟩
  unfold feed at taken
  cases opener : pairs.closer? (kind item) (lexeme item) with
  | some closer =>
      simp only [opener, Except.ok.injEq] at taken
      subst taken
      exact .opens opener
  | none =>
      simp only [opener] at taken
      cases pending with
      | nil =>
          simp only [Except.ok.injEq] at taken
          subst taken
          exact .stands opener
      | cons innermost outer =>
          cases built with
          | nil =>
              simp at taken
          | cons top below =>
              simp only at taken
              cases closing : closes pairs innermost item with
              | false =>
                  simp only [closing, Bool.false_eq_true, if_false, Except.ok.injEq] at taken
                  subst taken
                  exact .joins opener closing
              | true =>
                  simp only [closing, if_true] at taken
                  cases outer with
                  | nil =>
                      simp only [Except.ok.injEq] at taken
                      subst taken
                      exact .ends opener closing
                  | cons enclosing outer =>
                      cases below with
                      | nil =>
                          simp at taken
                      | cons parent below =>
                          simp only [Except.ok.injEq] at taken
                          subst taken
                          exact .returns opener closing

/-- A token can be taken in each of these ways. -/
theorem Feeds.feed_eq
    {matcher fed : Matcher Item} {item : Item}
    (feeds : Feeds pairs matcher item fed) :
    matcher.feed pairs item = .ok fed := by
  cases feeds with
  | opens opener =>
      simp [feed, opener]
  | stands plain =>
      simp [feed, plain]
  | joins plain unclosing =>
      simp [feed, plain, unclosing]
  | ends plain closing =>
      simp [feed, plain, closing]
  | returns plain closing =>
      simp [feed, plain, closing]

theorem feedAll_cons
    (matcher : Matcher Item)
    (item : Item)
    (rest : List Item) :
    matcher.feedAll pairs (item :: rest) =
      (matcher.feed pairs item).bind fun middle => middle.feedAll pairs rest :=
  rfl

theorem feedAll_cons_eq_ok_iff
    {matcher fed : Matcher Item} {item : Item} {rest : List Item} :
    matcher.feedAll pairs (item :: rest) = .ok fed ↔
      ∃ middle, matcher.feed pairs item = .ok middle ∧ middle.feedAll pairs rest = .ok fed := by
  rw [feedAll_cons]
  cases matcher.feed pairs item with
  | error breakdown =>
      simp [Except.bind]
  | ok middle =>
      simp [Except.bind]

/-- A matcher that is fed two lists in a row is fed the second where the first has left it. -/
theorem feedAll_append
    {matcher middle : Matcher Item} {first : List Item}
    (fed : matcher.feedAll pairs first = .ok middle)
    (second : List Item) :
    matcher.feedAll pairs (first ++ second) = middle.feedAll pairs second := by
  rw [feedAll, List.foldlM_append]
  rw [feedAll] at fed
  rw [fed]
  rfl

/-- Feeding one token is feeding a list of it. -/
theorem Feeds.feedAll_eq
    {matcher fed : Matcher Item} {item : Item}
    (feeds : Feeds pairs matcher item fed) :
    matcher.feedAll pairs [item] = .ok fed :=
  feedAll_cons_eq_ok_iff.mpr ⟨fed, feeds.feed_eq, rfl⟩

/-! ## The tokens that were taken -/

/-- Only a token that was taken gains a child. -/
theorem parent_mem_taken
    {matcher : Matcher Item} {item parent child : Item}
    (linked : (parent, child) ∈ matcher.links pairs item) :
    parent ∈ matcher.taken := by
  unfold links at linked
  split at linked
  · rename_i opener outer top below _ _ built
    rcases List.mem_cons.mp linked with joins | returns
    · rw [(Prod.mk.inj joins).1]
      exact label_mem_taken (built ▸ List.mem_cons_self)
    · split at returns
      · rename_i enclosing _ above _ _
        rw [List.mem_singleton] at returns
        rw [(Prod.mk.inj returns).1]
        exact label_mem_taken (built ▸ List.mem_cons_of_mem top List.mem_cons_self)
      · cases returns
  · cases linked

/-- Taking a token appends it to the tokens that were taken. -/
theorem Feeds.taken_eq
    {matcher fed : Matcher Item} {item : Item}
    (feeds : Feeds pairs matcher item fed) :
    fed.taken = matcher.taken ++ [item] := by
  cases feeds with
  | opens opener =>
      simp [taken]
  | stands plain =>
      simp [taken]
  | joins plain unclosing =>
      simp [taken]
  | ends plain closing =>
      simp [taken]
  | returns plain closing =>
      simp [taken]

/-- Taking tokens appends them, in their order, to the tokens that were taken. -/
theorem taken_feedAll
    {matcher fed : Matcher Item} {items : List Item}
    (fedAll : matcher.feedAll pairs items = .ok fed) :
    fed.taken = matcher.taken ++ items := by
  induction items generalizing matcher with
  | nil =>
      cases fedAll
      simp
  | cons item rest ih =>
      rcases feedAll_cons_eq_ok_iff.mp fedAll with ⟨middle, first, later⟩
      rw [ih later, (feeds_of_feed first).taken_eq, List.append_assoc]
      rfl

/-- A forest that a matcher finishes with is what it has built, from the tree begun first. -/
theorem eq_reverse_of_finish
    {matcher : Matcher Item} {forest : List (Tree Item)}
    (finished : (matcher.finish pairs).1 = .ok forest) :
    forest = matcher.built.reverse := by
  unfold finish at finished
  split at finished
  · cases finished
    rfl
  · split at finished
    · simp at finished
    · simp at finished

/-- A matcher finishes with a forest only if no group is open. -/
theorem pending_eq_nil_of_finish
    {matcher : Matcher Item} {forest : List (Tree Item)}
    (finished : (matcher.finish pairs).1 = .ok forest) :
    matcher.pending = [] := by
  unfold finish at finished
  split at finished
  · rename_i closed
    exact List.getLast?_eq_none_iff.mp closed
  · split at finished
    · simp at finished
    · simp at finished

/-- A forest that a matcher finishes with holds the tokens that were taken. -/
theorem walkAll_of_finish
    {matcher : Matcher Item} {forest : List (Tree Item)}
    (finished : (matcher.finish pairs).1 = .ok forest) :
    Tree.walkAll forest = matcher.taken := by
  rw [eq_reverse_of_finish finished, taken]

/-! ## The two stacks -/

/--
The trees at the top of the one stack are headed by the openers on the other, and every one of these
is an opener indeed.
-/
structure Aligned (pairs : Pairs) (matcher : Matcher Item) : Prop where
  headed : (matcher.built.take matcher.pending.length).map Tree.label = matcher.pending
  paired : ∀ opener ∈ matcher.pending, pairs.closer? (kind opener) (lexeme opener) ≠ none

theorem aligned_empty : Aligned pairs ({} : Matcher Item) where
  headed := rfl
  paired := by simp

/-- Taking a token keeps the stacks aligned. -/
theorem Feeds.aligned
    {matcher fed : Matcher Item} {item : Item}
    (feeds : Feeds pairs matcher item fed)
    (aligned : Aligned pairs matcher) :
    Aligned pairs fed := by
  rcases aligned with ⟨headed, paired⟩
  cases feeds with
  | opens opener =>
      constructor
      · simpa [Tree.leaf, Tree.label] using headed
      · intro other member
        rcases List.mem_cons.mp member with rfl | member
        · simp [opener]
        · exact paired other member
  | stands plain =>
      constructor
      · rfl
      · simp
  | joins plain unclosing =>
      constructor
      · simpa using headed
      · exact paired
  | ends plain closing =>
      constructor
      · rfl
      · simp
  | returns plain closing =>
      constructor
      · simp only [List.length_cons, List.take_succ_cons, List.map_cons, List.cons.injEq] at headed
        simpa using headed.2
      · intro other member
        exact paired other (List.mem_cons_of_mem _ member)

theorem Aligned.pending_length_le
    {matcher : Matcher Item}
    (aligned : Aligned pairs matcher) :
    matcher.pending.length ≤ matcher.built.length := by
  have lengths := congrArg List.length aligned.headed
  simp only [List.length_map, List.length_take] at lengths
  omega

theorem Aligned.exists_closer
    {matcher : Matcher Item} {opener : Item}
    (aligned : Aligned pairs matcher)
    (waiting : opener ∈ matcher.pending) :
    ∃ closer, pairs.closer? (kind opener) (lexeme opener) = some closer :=
  Option.ne_none_iff_exists'.mp (aligned.paired opener waiting)

/-- A matcher with aligned stacks takes any token. -/
theorem Aligned.exists_feeds
    {matcher : Matcher Item}
    (aligned : Aligned pairs matcher)
    (item : Item) :
    ∃ fed, Feeds pairs matcher item fed := by
  have lengths := aligned.pending_length_le
  rcases matcher with ⟨built, pending⟩
  cases opener : pairs.closer? (kind item) (lexeme item) with
  | some closer =>
      exact ⟨_, .opens opener⟩
  | none =>
      rcases pending with _ | ⟨innermost, outer⟩
      · exact ⟨_, .stands opener⟩
      rcases built with _ | ⟨top, below⟩
      · exact absurd lengths (Nat.not_succ_le_zero _)
      cases closing : closes pairs innermost item with
      | false =>
          exact ⟨_, .joins opener closing⟩
      | true =>
          rcases outer with _ | ⟨enclosing, outer⟩
          · exact ⟨_, .ends opener closing⟩
          rcases below with _ | ⟨parent, below⟩
          · exact absurd (Nat.le_of_succ_le_succ lengths) (Nat.not_succ_le_zero _)
          exact ⟨_, .returns opener closing⟩

theorem Aligned.exists_feedAll
    {matcher : Matcher Item}
    (aligned : Aligned pairs matcher)
    (items : List Item) :
    ∃ fed, matcher.feedAll pairs items = .ok fed ∧ Aligned pairs fed := by
  induction items generalizing matcher with
  | nil =>
      exact ⟨matcher, rfl, aligned⟩
  | cons item rest ih =>
      rcases aligned.exists_feeds item with ⟨middle, feeds⟩
      rcases ih (feeds.aligned aligned) with ⟨fed, later, stays⟩
      exact ⟨fed, feedAll_cons_eq_ok_iff.mpr ⟨middle, feeds.feed_eq, later⟩, stays⟩

theorem exists_feedAll_empty
    (pairs : Pairs)
    (items : List Item) :
    ∃ fed, feedAll pairs {} items = .ok fed ∧ Aligned pairs fed :=
  aligned_empty.exists_feedAll items

/-- A matcher with aligned stacks finishes with a forest or an open group. -/
theorem Aligned.finish_not_broken
    {matcher : Matcher Item}
    (aligned : Aligned pairs matcher)
    (breakdown : Breakdown) :
    (matcher.finish pairs).1 ≠ .error (.broken breakdown) := by
  intro broken
  unfold finish at broken
  cases innermost : matcher.pending.getLast? with
  | none =>
      simp [innermost] at broken
  | some outermost =>
      simp only [innermost] at broken
      have member := List.mem_of_getLast? innermost
      cases closer : pairs.closer? (kind outermost) (lexeme outermost) with
      | none =>
          exact aligned.paired outermost member closer
      | some expected =>
          simp [closer] at broken

end Matcher

variable
    [Lexical Item]
    {pairs : Pairs}

/-- Tokens that a matcher takes are grouped into what it finishes with. -/
theorem group_eq_finish
    {items : List Item} {fed : Matcher Item}
    (fedAll : Matcher.feedAll pairs {} items = .ok fed) :
    group pairs items = (fed.finish pairs).1 := by
  rw [group, fedAll]

/-- A forest that tokens are grouped into holds these tokens, in their order. -/
theorem walkAll_of_group
    {items : List Item} {forest : List (Tree Item)}
    (grouped : group pairs items = .ok forest) :
    Tree.walkAll forest = items := by
  rcases Matcher.exists_feedAll_empty pairs items with ⟨fed, fedAll, _⟩
  rw [group_eq_finish fedAll] at grouped
  rw [Matcher.walkAll_of_finish grouped, Matcher.taken_feedAll fedAll]
  rfl

/-- Grouping answers a forest or an open group. -/
theorem group_not_broken
    (items : List Item)
    (breakdown : Breakdown) :
    group pairs items ≠ .error (.broken breakdown) := by
  rcases Matcher.exists_feedAll_empty pairs items with ⟨fed, fedAll, aligned⟩
  rw [group_eq_finish fedAll]
  exact aligned.finish_not_broken breakdown

end TokenForest
