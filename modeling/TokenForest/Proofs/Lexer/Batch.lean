import TokenForest.Proofs.Grouping.Outcome
import TokenForest.Proofs.Lexer.Session

/-!
# Grouping after scanning

A lexer feeds a matcher while it scans.  A caller can also scan first, keep the tokens in a list,
and group the list afterwards.  The two ways have the same outcome.  A fault of the scan is the
outcome of both, whatever groups are open by then: the one way never comes to finish its matcher,
and the other never begins to group.  Otherwise the matcher has taken the same tokens in the same
order.

A list is grouped the way a caller groups tokens that belong to nobody else, with a new matcher and
tokens that have no children.
-/

namespace TokenForest

open Text (Source)

namespace Roster

variable
    {pairs : Pairs}
    {tokens : List Token}

/-- Only an opener could be reported without its value, and these tokens have none. -/
theorem groupFresh_eq_group
    (unvalued : ∀ token ∈ tokens, token.reduced = token) :
    groupFresh pairs tokens = TokenForest.group pairs tokens := by
  rw [groupFresh_eq]
  rcases group_ok_or_unclosed pairs tokens with ⟨forest, grouped⟩ | ⟨place, error, unclosed⟩
  · rw [grouped]
    rfl
  · have listed : error.opener ∈ tokens := List.mem_of_getElem? unclosed.present
    rw [unclosed.group_eq]
    show Except.error (Fault.reported (error.map Token.reduced)) = _
    rw [Unbalanced.map, unvalued error.opener listed]

end Roster

namespace Lexer

/-- The outcome of grouping what was drawn: the fault that ended the drawing, if one did. -/
def Drawn.group
    (pairs : Pairs)
    (drawn : Drawn) :
    Except (Fault GroupError) (List (Tree Token)) :=
  match drawn.fault with
  | some fault => .error (fault.map .scan)
  | none => (Roster.groupFresh pairs drawn.tokens).mapError (Fault.map .unbalanced)

/-- The outcome of feeding what was drawn to a matcher that has taken other tokens before. -/
def Drawn.groupInto
    (pairs : Pairs)
    (matcher : Matcher Token)
    (drawn : Drawn) :
    Except (Fault GroupError) (List (Tree Token)) :=
  match drawn.fault with
  | some fault => .error (fault.map .scan)
  | none =>
    match matcher.feedAll pairs drawn.tokens with
    | .error breakdown => .error (.broken breakdown)
    | .ok fed => (fed.finish pairs).1.mapError (Fault.map .unbalanced)

theorem Drawn.groupInto_cons
    {pairs : Pairs} {matcher fed : Matcher Token} {token : Token} {tokens : List Token}
    {fault : Option (Fault ScanError)}
    (feeds : matcher.Feeds pairs token fed) :
    groupInto pairs matcher { tokens := token :: tokens, fault } =
      groupInto pairs fed { tokens, fault } := by
  cases fault with
  | some fault =>
      rfl
  | none =>
      simp only [groupInto]
      rw [Matcher.feedAll_cons, feeds.feed_eq]
      rfl

theorem Drawn.group_eq_groupInto
    {pairs : Pairs} {drawn : Drawn}
    (unvalued : ∀ token ∈ drawn.tokens, token.reduced = token) :
    drawn.group pairs = drawn.groupInto pairs {} := by
  rw [group, groupInto, Roster.groupFresh_eq_group unvalued, TokenForest.group]
  cases drawn.fault with
  | some fault =>
      rfl
  | none =>
      cases Matcher.feedAll pairs {} drawn.tokens with
      | error breakdown =>
          rfl
      | ok fed =>
          rfl

variable {lexer : Lexer}

/-- Feeding tokens as they are drawn answers what feeding them afterwards does. -/
theorem AtBoundary.groupInto_result
    {matcher : Matcher Token}
    (boundary : lexer.AtBoundary)
    (aligned : Matcher.Aligned lexer.pairs matcher)
    (count : Nat) :
    (groupInto count matcher lexer).result =
      (lexer.take count).result.groupInto lexer.pairs matcher := by
  -- The matcher stays arbitrary: it holds what was drawn before, with any groups open.
  induction count generalizing lexer matcher with
  | zero =>
      rfl
  | succ count ih =>
      have nexts := boundary.nexts
      rw [groupInto, take]
      generalize lexer.next = step at nexts ⊢
      cases nexts with
      | finished draws silent atEnd =>
          simp only [draws.pairs_eq]
          rfl
      | @token token trace after draws drawn onwards =>
          rw [← draws.pairs_eq] at aligned ⊢
          rcases aligned.exists_feeds token with ⟨fed, feeds⟩
          simp only [feeds.feed_eq]
          rw [ih draws.atBoundary (feeds.aligned aligned)]
          exact (Drawn.groupInto_cons feeds).symm
      | refused draws silent =>
          rfl

theorem AtBoundary.take_unvalued
    (boundary : lexer.AtBoundary)
    (count : Nat) :
    ∀ token ∈ (lexer.take count).result.tokens, token.reduced = token := by
  rcases boundary.take_draws count with ⟨draws, tokens⟩
  rw [← tokens]
  intro token
  exact draws.reduced_of_mem

theorem group_result_of_absent
    (absent : lexer.forest = none) :
    lexer.group.result = (groupInto (lexer.remaining + 1) {} lexer).result := by
  simp only [group, absent]
  split
  · rfl
  · rfl
  · rfl

/-- Where no forest is kept, grouping answers what grouping all tokens that are left does. -/
theorem AtBoundary.group_result
    (boundary : lexer.AtBoundary)
    (absent : lexer.forest = none) :
    lexer.group.result = lexer.tokens.result.group lexer.pairs := by
  rw [group_result_of_absent absent, boundary.groupInto_result Matcher.aligned_empty, tokens,
    Drawn.group_eq_groupInto (boundary.take_unvalued _)]

theorem AtBoundary.group_not_broken
    (boundary : lexer.AtBoundary)
    (breakdown : Breakdown) :
    lexer.group.result ≠ .error (.broken breakdown) := by
  intro broken
  have groups := boundary.groups
  generalize lexer.group = step at groups broken
  cases groups with
  | again kept =>
      cases broken
  | anew absent draws walked atEnd =>
      cases broken
  | undone absent draws =>
      cases broken

end Lexer

/--
In every state that a session can reach without a forest, grouping answers what grouping the tokens
that are left does, after all of them were drawn: the fault of the scan, if there is one, whatever
groups are open at that point, and otherwise the forest of the tokens or the report about the opener
that is never closed.  It never breaks down.  The forest of a source, in particular, is the forest
of its tokens, and where these have a fault it is the same.
-/
theorem grouping_follows_scanning
    [Text.CharacterNames]
    (source : Source)
    (config : Config)
    (filename : String)
    (operations : List Operation) :
    let lexer := (session source config filename operations).lexer
    (lexer.forest = none →
      lexer.group.result = lexer.tokens.result.group lexer.pairs ∧
        ∀ breakdown, lexer.group.result ≠ .error (.broken breakdown)) ∧
      forest source config =
        match tokenize source config with
        | .error fault => .error (fault.map .scan)
        | .ok tokens =>
          (Roster.groupFresh (Pairs.ofList config.pairs) tokens).mapError
            (Fault.map .unbalanced) := by
  intro lexer
  have boundary : lexer.AtBoundary := (sound_session source config filename operations).boundary
  constructor
  · intro absent
    exact ⟨boundary.group_result absent, boundary.group_not_broken⟩
  · have start := Lexer.atBoundary_ofSource source config "<input>"
    rw [forest, start.group_result rfl, tokenize, Lexer.Drawn.group]
    cases (Lexer.ofSource source config).tokens.result.fault with
    | some fault =>
        rfl
    | none =>
        rfl

/-- A source with two groups open where strict rules stop the scan. -/
def stoppedSource : Source :=
  { text := "+([x])".toList }

open scoped Text.CharacterNames

theorem grouping_follows_scanning_stopped :
    let config := { Config.standard with strict := true }
    let lexer := (session stoppedSource config "<input>" [.next]).lexer
    let fault : Fault ScanError :=
      .reported { character := 'x', position := { line := 1, column := 4, offset := 3 } }
    lexer.forest = none ∧
      lexer.tokens.result.fault = some fault ∧
      lexer.group.result = .error (fault.map .scan) := by
  intro config lexer fault
  have absent : lexer.forest = none := by
    with_unfolding_all rfl
  have stopped : lexer.tokens.result.fault = some fault := by
    decide +kernel
  have follows := (grouping_follows_scanning stoppedSource config "<input>" [.next]).1 absent
  refine ⟨absent, stopped, ?_⟩
  rw [follows.1, Lexer.Drawn.group, stopped]

end TokenForest
