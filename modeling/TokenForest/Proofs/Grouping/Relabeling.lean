import TokenForest.Proofs.Grouping.Feeding
import TokenForest.Proofs.Tree

/-!
# Grouping other things in the same way

Grouping looks at kinds and lexemes only.  If things are changed in a way that keeps both, a matcher
does with the changed things what it does with the things themselves, and the forest that it ends
with, or the opener that it complains of, is the changed one.
-/

namespace TokenForest

open Lexical (kind lexeme)

variable
    {Item Other : Type}
    [Lexical Item]
    [Lexical Other]
    {change : Item → Other}

/-- The change keeps all that grouping looks at. -/
structure Lexical.Kept (change : Item → Other) : Prop where
  kind_eq : ∀ item, kind (change item) = kind item
  lexeme_eq : ∀ item, lexeme (change item) = lexeme item

/-- The report about a changed opener. -/
def Unbalanced.map
    {Item Other : Type}
    (change : Item → Other)
    (error : Unbalanced Item) :
    Unbalanced Other :=
  { opener := change error.opener, expected := error.expected }

namespace Matcher

/-- The matcher with everything in it changed. -/
def map (change : Item → Other) (matcher : Matcher Item) : Matcher Other :=
  { built := matcher.built.map (Tree.map change), pending := matcher.pending.map change }

theorem closes_map
    (kept : Lexical.Kept change)
    (pairs : Pairs)
    (opener item : Item) :
    closes pairs (change opener) (change item) = closes pairs opener item := by
  simp only [closes, kept.kind_eq, kept.lexeme_eq]

/-- Feeding a changed token to the changed matcher changes the matcher that is fed the token. -/
theorem feed_map
    (kept : Lexical.Kept change)
    (pairs : Pairs)
    (matcher : Matcher Item)
    (item : Item) :
    (matcher.map change).feed pairs (change item) =
      (matcher.feed pairs item).map (map change) := by
  rcases matcher with ⟨built, pending⟩
  simp only [feed, kept.kind_eq, kept.lexeme_eq]
  cases pairs.closer? (kind item) (lexeme item) with
  | some closer =>
      simp [map, Except.map]
  | none =>
      cases pending with
      | nil =>
          simp [map, Except.map]
      | cons opener outer =>
          cases built with
          | nil =>
              rfl
          | cons top below =>
              cases closing : closes pairs opener item with
              | false =>
                  simp [map, closes_map kept, closing, Except.map]
              | true =>
                  cases outer with
                  | nil =>
                      simp [map, closes_map kept, closing, Except.map]
                  | cons enclosing outer =>
                      cases below with
                      | nil =>
                          simp [map, closes_map kept, closing, Except.map]
                      | cons parent rest =>
                          simp [map, closes_map kept, closing, Except.map]

theorem feedAll_map
    (kept : Lexical.Kept change)
    (pairs : Pairs)
    (matcher : Matcher Item)
    (items : List Item) :
    (matcher.map change).feedAll pairs (items.map change) =
      (matcher.feedAll pairs items).map (map change) := by
  induction items generalizing matcher with
  | nil =>
      rfl
  | cons item rest ih =>
      rw [List.map_cons, feedAll_cons, feedAll_cons, feed_map kept]
      cases matcher.feed pairs item with
      | error breakdown =>
          rfl
      | ok middle =>
          exact ih middle

theorem finish_map
    (kept : Lexical.Kept change)
    (pairs : Pairs)
    (matcher : Matcher Item) :
    ((matcher.map change).finish pairs).1 =
      ((matcher.finish pairs).1.map (List.map (Tree.map change))).mapError
        (Fault.map (Unbalanced.map change)) := by
  unfold finish
  simp only [map, List.getLast?_map]
  cases matcher.pending.getLast? with
  | none =>
      simp only [Option.map_none, ← List.map_reverse]
      rfl
  | some outermost =>
      simp only [Option.map_some, kept.kind_eq, kept.lexeme_eq]
      cases pairs.closer? (kind outermost) (lexeme outermost) with
      | none =>
          rfl
      | some expected =>
          rfl

end Matcher

/-- Grouping changed tokens changes the outcome of grouping the tokens. -/
theorem group_map
    (kept : Lexical.Kept change)
    (pairs : Pairs)
    (items : List Item) :
    group pairs (items.map change) =
      ((group pairs items).map (List.map (Tree.map change))).mapError
        (Fault.map (Unbalanced.map change)) := by
  have fedAll := Matcher.feedAll_map kept pairs {} items
  have empty : Matcher.map change {} = {} := rfl
  rw [empty] at fedAll
  rw [group, group, fedAll]
  cases Matcher.feedAll pairs {} items with
  | error breakdown =>
      rfl
  | ok matcher =>
      exact Matcher.finish_map kept pairs matcher

end TokenForest
