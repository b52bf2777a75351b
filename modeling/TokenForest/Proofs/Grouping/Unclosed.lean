import Mathlib.Data.List.Induction
import Mathlib.Order.Bounds.Defs
import TokenForest.Proofs.Grouping.Feeding

/-!
# The opener that is never closed

When tokens cannot be grouped, there is one opener to blame: all tokens before it can be grouped,
and as soon as it is there, however many of the tokens behind it follow, grouping complains of it.
`Unclosed` says this of an opener and its place.

The reason is that the outermost opener of a matcher stays the same for as long as a group is open,
and that the next outermost opener can only be a token that comes when none is.
-/

namespace TokenForest

open Lexical (kind lexeme)

variable
    {Item : Type}
    [Lexical Item]
    {pairs : Pairs}

namespace Matcher

/--
While a group is open, the outermost opener stays; the first to be outermost is the new token.
-/
theorem Feeds.outermost_eq
    {matcher fed : Matcher Item} {item : Item}
    (feeds : Feeds pairs matcher item fed)
    (stillOpen : fed.pending ≠ []) :
    fed.pending.getLast? = some (matcher.pending.getLast?.getD item) := by
  cases feeds with
  | @opens built pending item closer opener =>
      exact List.getLast?_cons
  | stands plain =>
      exact absurd rfl stillOpen
  | joins plain unclosing =>
      simp [List.getLast?_cons]
  | ends plain closing =>
      exact absurd rfl stillOpen
  | returns plain closing =>
      simp [List.getLast?_cons]

theorem finish_of_closed
    {matcher : Matcher Item}
    (closed : matcher.pending = []) :
    (matcher.finish pairs).1 = .ok matcher.built.reverse := by
  rw [finish, closed]
  rfl

theorem finish_of_outermost
    {matcher : Matcher Item} {opener : Item} {expected : String}
    (outermost : matcher.pending.getLast? = some opener)
    (paired : pairs.closer? (kind opener) (lexeme opener) = some expected) :
    (matcher.finish pairs).1 = .error (.reported { opener, expected }) := by
  simp only [finish, outermost, paired]

end Matcher

/--
The token at a place opens a group that no later token closes: what is before it can be grouped, but
no more than that, because of this opener.
-/
structure Unclosed
    (pairs : Pairs)
    (items : List Item)
    (place : Nat)
    (error : Unbalanced Item) :
    Prop where
  present : items[place]? = some error.opener
  paired :
    pairs.closer? (kind error.opener) (lexeme error.opener) = some error.expected
  before : ∃ forest, group pairs (items.take place) = .ok forest
  onwards :
    ∀ count, place < count → count ≤ items.length →
      group pairs (items.take count) = .error (.reported error)

namespace Unclosed

variable
    {items : List Item}
    {place : Nat}
    {error : Unbalanced Item}

theorem lt_length
    (unclosed : Unclosed pairs items place error) :
    place < items.length :=
  (List.getElem?_eq_some_iff.mp unclosed.present).1

theorem group_eq
    (unclosed : Unclosed pairs items place error) :
    group pairs items = .error (.reported error) := by
  have whole := unclosed.onwards items.length unclosed.lt_length (Nat.le_refl _)
  rwa [List.take_length] at whole

/-- The tokens before the opener to blame are the most that can be grouped. -/
theorem isGreatest
    (unclosed : Unclosed pairs items place error) :
    IsGreatest
      { count | count ≤ items.length ∧ ∃ forest, group pairs (items.take count) = .ok forest }
      place := by
  constructor
  · exact ⟨Nat.le_of_lt unclosed.lt_length, unclosed.before⟩
  · rintro count ⟨within, forest, grouped⟩
    by_contra further
    rw [unclosed.onwards count (Nat.lt_of_not_le further) within] at grouped
    cases grouped

/-- A new token is to blame if it is the one with which grouping begins to fail. -/
theorem of_append
    {item : Item} {expected : String} {forest : List (Tree Item)}
    (paired : pairs.closer? (kind item) (lexeme item) = some expected)
    (before : group pairs items = .ok forest)
    (failed : group pairs (items ++ [item]) = .error (.reported { opener := item, expected })) :
    Unclosed pairs (items ++ [item]) items.length { opener := item, expected } where
  present := by simp
  paired := paired
  before := by
    rw [List.take_left]
    exact ⟨forest, before⟩
  onwards := by
    intro count further within
    have whole : (items ++ [item]).length ≤ count := by
      rw [List.length_append, List.length_singleton]
      exact further
    rwa [List.take_of_length_le whole]

/-- An opener stays to blame while grouping complains of it. -/
theorem append
    {item : Item}
    (unclosed : Unclosed pairs items place error)
    (failed : group pairs (items ++ [item]) = .error (.reported error)) :
    Unclosed pairs (items ++ [item]) place error where
  present := by
    rw [List.getElem?_append_left unclosed.lt_length]
    exact unclosed.present
  paired := unclosed.paired
  before := by
    rw [List.take_append_of_le_length (Nat.le_of_lt unclosed.lt_length)]
    exact unclosed.before
  onwards := by
    intro count further within
    rcases Nat.lt_or_ge items.length count with behind | earlier
    · have whole : (items ++ [item]).length ≤ count := by
        rw [List.length_append, List.length_singleton]
        exact behind
      rwa [List.take_of_length_le whole]
    · rw [List.take_append_of_le_length earlier]
      exact unclosed.onwards count further earlier

end Unclosed

/-- If the tokens can be grouped, no more of them can be than all. -/
theorem isGreatest_of_group
    {items : List Item} {forest : List (Tree Item)}
    (grouped : group pairs items = .ok forest) :
    IsGreatest
      { count | count ≤ items.length ∧ ∃ forest, group pairs (items.take count) = .ok forest }
      items.length := by
  constructor
  · refine ⟨Nat.le_refl _, forest, ?_⟩
    rwa [List.take_length]
  · intro count member
    exact member.1

/-- The outermost opener of a matcher that has taken some tokens is the one to blame. -/
theorem Matcher.exists_unclosed
    {items : List Item} {fed : Matcher Item}
    (fedAll : feedAll pairs {} items = .ok fed)
    (stillOpen : fed.pending ≠ []) :
    ∃ place error,
      fed.pending.getLast? = some error.opener ∧ Unclosed pairs items place error := by
  induction items using List.reverseRecOn generalizing fed with
  | nil =>
      cases fedAll
      exact absurd rfl stillOpen
  | append_singleton items item ih =>
      rcases exists_feedAll_empty pairs items with ⟨middle, before, aligned⟩
      rw [feedAll_append before] at fedAll
      rcases feedAll_cons_eq_ok_iff.mp fedAll with ⟨last, first, same⟩
      cases same
      have feeds := feeds_of_feed first
      have outermost := feeds.outermost_eq stillOpen
      have whole : group pairs (items ++ [item]) = (fed.finish pairs).1 := by
        apply group_eq_finish
        rw [feedAll_append before]
        exact fedAll
      by_cases closed : middle.pending = []
      · rw [closed] at outermost
        rcases (feeds.aligned aligned).exists_closer (List.mem_of_getLast? outermost) with
          ⟨expected, paired⟩
        have grouped := group_eq_finish before
        rw [finish_of_closed closed] at grouped
        rw [finish_of_outermost outermost paired] at whole
        exact ⟨items.length, { opener := item, expected }, outermost,
          .of_append paired grouped whole⟩
      · rcases ih before closed with ⟨place, error, earlier, unclosed⟩
        rw [earlier] at outermost
        rw [finish_of_outermost outermost unclosed.paired] at whole
        exact ⟨place, error, outermost, unclosed.append whole⟩

/-- Tokens are grouped, or there is an opener to blame. -/
theorem group_ok_or_unclosed
    (pairs : Pairs)
    (items : List Item) :
    (∃ forest, group pairs items = .ok forest) ∨
      ∃ place error, Unclosed pairs items place error := by
  rcases Matcher.exists_feedAll_empty pairs items with ⟨fed, fedAll, _⟩
  by_cases closed : fed.pending = []
  · left
    rw [group_eq_finish fedAll, Matcher.finish_of_closed closed]
    exact ⟨_, rfl⟩
  · right
    rcases Matcher.exists_unclosed fedAll closed with ⟨place, error, _, unclosed⟩
    exact ⟨place, error, unclosed⟩

end TokenForest
