import TokenForest.Proofs.Grouping.Outcome

/-!
# One list behind another

When the last open group closes, a matcher is where a new one would be, but for the trees that lie
on its stack.  No later token touches these: a token joins the tree of an open group, and every
group that is opened from now on lies above them.  So a list that can be grouped may stand before
any other, and the other is grouped, or not, as it would be by itself.

Among the tokens of a roster there may be some without a lexeme.  The first of them stops a pass, in
whatever state the matcher is.
-/

namespace TokenForest

namespace Matcher

variable {Item : Type}

/-- The matcher with other trees below all that it has built. -/
def above
    (base : List (Tree Item))
    (matcher : Matcher Item) :
    Matcher Item :=
  { matcher with built := matcher.built ++ base }

variable
    [Lexical Item]
    {pairs : Pairs}
    {matcher fed : Matcher Item}

theorem Feeds.above
    {item : Item}
    (feeds : Feeds pairs matcher item fed)
    (base : List (Tree Item)) :
    Feeds pairs (matcher.above base) item (fed.above base) := by
  cases feeds with
  | opens opener =>
      exact .opens opener
  | stands plain =>
      exact .stands plain
  | joins plain unclosing =>
      exact .joins plain unclosing
  | ends plain closing =>
      exact .ends plain closing
  | returns plain closing =>
      exact .returns plain closing

theorem feedAll_above
    {items : List Item}
    (fedAll : matcher.feedAll pairs items = .ok fed)
    (base : List (Tree Item)) :
    (matcher.above base).feedAll pairs items = .ok (fed.above base) := by
  induction items generalizing matcher with
  | nil =>
      cases fedAll
      rfl
  | cons item rest ih =>
      rcases feedAll_cons_eq_ok_iff.mp fedAll with ⟨middle, first, later⟩
      have feeds := (feeds_of_feed first).above base
      exact feedAll_cons_eq_ok_iff.mpr ⟨middle.above base, feeds.feed_eq, ih later⟩

/-- What lies below is answered first, if anything is. -/
theorem finish_above
    (matcher : Matcher Item)
    (base : List (Tree Item)) :
    ((matcher.above base).finish pairs).1 =
      (matcher.finish pairs).1.map (base.reverse ++ ·) := by
  simp only [finish, above]
  cases matcher.pending.getLast? with
  | none =>
      rw [List.reverse_append]
      rfl
  | some outermost =>
      simp only
      cases pairs.closer? (Lexical.kind outermost) (Lexical.lexeme outermost) with
      | some expected =>
          rfl
      | none =>
          rfl

/-- A matcher that has grouped some tokens is a new one above the forest of these. -/
theorem eq_above_of_group
    {items : List Item} {forest : List (Tree Item)}
    (fedAll : feedAll pairs {} items = .ok fed)
    (grouped : group pairs items = .ok forest) :
    fed = above forest.reverse {} := by
  rw [group_eq_finish fedAll] at grouped
  have closed := pending_eq_nil_of_finish grouped
  have built := eq_reverse_of_finish grouped
  rcases fed with ⟨trees, pending⟩
  subst closed built
  simp [above]

end Matcher

/-- Behind tokens that can be grouped, others are grouped as they are by themselves. -/
theorem group_append
    {Item : Type}
    [Lexical Item]
    {pairs : Pairs} {first : List Item} {forest : List (Tree Item)}
    (grouped : group pairs first = .ok forest)
    (second : List Item) :
    group pairs (first ++ second) = (group pairs second).map (forest ++ ·) := by
  rcases Matcher.exists_feedAll_empty pairs first with ⟨middle, before, _⟩
  rcases Matcher.exists_feedAll_empty pairs second with ⟨fed, fedAll, _⟩
  have whole : Matcher.feedAll pairs {} (first ++ second) = .ok (fed.above forest.reverse) := by
    rw [Matcher.feedAll_append before, Matcher.eq_above_of_group before grouped]
    exact Matcher.feedAll_above fedAll forest.reverse
  rw [group_eq_finish whole, Matcher.finish_above, List.reverse_reverse, group_eq_finish fedAll]

namespace Roster

variable
    {roster : Roster}
    {pairs : Pairs}
    {matcher : Matcher Member}
    {numbers : List Nat}

/-- The breakdown at a token that has no lexeme. -/
def unreadable? (roster : Roster) (number : Nat) : Option Breakdown :=
  match roster.tokens[number]? with
  | some (.error error) => some (.undecodable error)
  | _ => none

/-- What feeding a token of a roster to a matcher ends with. -/
inductive Feeds
    (pairs : Pairs)
    (roster : Roster)
    (matcher : Matcher Member)
    (number : Nat) :
    Except Breakdown (Roster × Matcher Member) → Prop where
  /-- There is no such token. -/
  | absent
      (absent : roster.tokens[number]? = none) :
      Feeds pairs roster matcher number (.ok (roster, matcher))
  | unreadable
      {error : Text.Utf8.DecodeError}
      (found : roster.tokens[number]? = some (.error error)) :
      Feeds pairs roster matcher number (.error (.undecodable error))
  | taken
      {token : Token} {fed : Matcher Member}
      (present : roster.tokens[number]? = some (.ok token))
      (feeds : matcher.Feeds pairs { number, token } fed) :
      Feeds pairs roster matcher number (.ok (gain pairs roster matcher { number, token }, fed))

theorem feeds_of_aligned
    (aligned : Matcher.Aligned pairs matcher)
    (roster : Roster)
    (number : Nat) :
    roster.Feeds pairs matcher number (roster.feed pairs matcher number) := by
  cases found : roster.tokens[number]? with
  | none =>
      rw [feed, found]
      exact .absent found
  | some decoded =>
      cases decoded with
      | error error =>
          rw [feed, found]
          exact .unreadable found
      | ok token =>
          rcases aligned.exists_feeds { number, token } with ⟨fed, feeds⟩
          have present : roster.tokens[(⟨number, token⟩ : Member).number]? = some (.ok token) :=
            found
          have same : roster.feed pairs matcher number = _ := feed_eq present
          rw [same, feeds.feed_eq]
          exact .taken found feeds

/-- Feeding stops at the first token that has no lexeme, and at no other. -/
theorem feedAll_error
    (aligned : Matcher.Aligned pairs matcher)
    (roster : Roster)
    (numbers : List Nat) :
    (roster.feedAll pairs matcher numbers).error = numbers.findSome? roster.unreadable? := by
  induction numbers generalizing roster matcher with
  | nil =>
      rfl
  | cons number rest ih =>
      have feeds := feeds_of_aligned aligned roster number
      rw [feedAll, List.findSome?_cons]
      generalize roster.feed pairs matcher number = outcome at feeds ⊢
      cases feeds with
      | absent absent =>
          rw [unreadable?, absent]
          exact ih aligned roster
      | unreadable found =>
          rw [unreadable?, found]
      | taken present feeds =>
          rw [unreadable?, present]
          exact ih (feeds.aligned aligned) (gain pairs roster matcher _)

theorem group_result_of_unreadable
    {breakdown : Breakdown}
    (aligned : Matcher.Aligned pairs matcher)
    (found : numbers.findSome? roster.unreadable? = some breakdown) :
    (roster.group pairs matcher numbers).result = .error (.broken breakdown) := by
  rw [← feedAll_error aligned] at found
  simp only [group, found]

theorem readable_of_group
    {forest : List (Tree Token)}
    (aligned : Matcher.Aligned pairs matcher)
    (succeeded : (roster.group pairs matcher numbers).result = .ok forest) :
    numbers.findSome? roster.unreadable? = none := by
  cases found : numbers.findSome? roster.unreadable? with
  | none =>
      rfl
  | some breakdown =>
      rw [group_result_of_unreadable aligned found] at succeeded
      cases succeeded

theorem exists_members_of_readable
    (listed : ∀ number ∈ numbers, number < roster.tokens.length)
    (readable : numbers.findSome? roster.unreadable? = none) :
    ∃ members : List Member,
      numbers = members.map Member.number ∧
        ∀ member ∈ members, roster.tokens[member.number]? = some (.ok member.token) := by
  have empty : Matcher.Aligned [] ({} : Matcher Member) := Matcher.aligned_empty
  rw [← feedAll_error empty] at readable
  exact exists_members_of_feedAll listed readable

/--
If some tokens of a roster can be grouped, then grouping others behind them answers what grouping
these does: the forest of the first tokens and then theirs, or the same report, or the same
breakdown.
-/
theorem group_append_result
    {first second : List Nat} {forest : List (Tree Token)}
    (distinct : (first ++ second).Nodup)
    (listed : ∀ number ∈ first ++ second, number < roster.tokens.length)
    (childless : ∀ number ∈ first ++ second, ∀ link ∈ roster.links, link.1 ≠ number)
    (succeeded : (roster.group pairs {} first).result = .ok forest) :
    (roster.group pairs {} (first ++ second)).result =
      (roster.group pairs {} second).result.map (forest ++ ·) := by
  have empty : Matcher.Aligned pairs ({} : Matcher Member) := Matcher.aligned_empty
  have readable := readable_of_group empty succeeded
  rw [List.forall_mem_append] at listed
  cases found : second.findSome? roster.unreadable? with
  | some breakdown =>
      -- The first token without a lexeme is the same for both passes, as the first list has none.
      have stops : (first ++ second).findSome? roster.unreadable? = some breakdown := by
        rw [List.findSome?_append, readable, found]
        rfl
      rw [group_result_of_unreadable empty found, group_result_of_unreadable empty stops]
      rfl
  | none =>
      rcases exists_members_of_readable listed.1 readable with ⟨before, rfl, present⟩
      rcases exists_members_of_readable listed.2 found with ⟨behind, rfl, presentBehind⟩
      rcases List.nodup_append.mp distinct with ⟨distinctFirst, distinctSecond, _⟩
      rw [← List.map_append] at distinct childless ⊢
      rw [List.forall_mem_map] at childless
      have presentAll := List.forall_mem_append.mpr ⟨present, presentBehind⟩
      rcases List.forall_mem_append.mp childless with ⟨childlessFirst, childlessSecond⟩
      rw [group_eq_ok_iff distinctFirst present childlessFirst] at succeeded
      rw [group_result distinct presentAll childless,
        group_result distinctSecond presentBehind childlessSecond, List.map_append,
        group_append succeeded]
      cases TokenForest.group pairs (behind.map Member.token) with
      | ok forest =>
          rfl
      | error fault =>
          rfl

end Roster

end TokenForest
