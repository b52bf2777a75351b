import TokenForest.Proofs.Grouping.Gaining

/-!
# How the two stacks lie

At any time the trees at the top of the one stack are those of the open groups.  There are as many
as openers on the other stack, and they stand in the same order.  Each of them lacks nothing but its
closer.  The trees below them are finished, and no open group is in them.  `Arranged` says all this
of a matcher, and a matcher in use is arranged after any calls on it.  So the stacks hold what
feeding and finishing look for: feeding fails only at a token without a lexeme, and finishing only
because of an open group.
-/

namespace TokenForest

open Lexical (kind lexeme)

namespace Matcher

variable
    {Item : Type}
    [Lexical Item]
    {pairs : Pairs}
    {matcher : Matcher Item}
    {tree : Tree Item}

/--
The open groups lie on top, headed by the openers that are pending, and all below is finished.
-/
structure Arranged (pairs : Pairs) (matcher : Matcher Item) : Prop extends
    Aligned pairs matcher where
  /--
  An open group lacks its closer: no child is a leaf that would close it, and all are finished.
  -/
  growing :
    ∀ tree ∈ matcher.built.take matcher.depth,
      ∃ closer, Growing pairs tree.label closer tree.children
  /-- Every other tree is a root in which each group has its closer. -/
  finished : ∀ tree ∈ matcher.built.drop matcher.depth, tree.Balanced pairs
  /-- No opener that is pending stands in one of these. -/
  apart :
    ∀ tree ∈ matcher.built.drop matcher.depth,
      ∀ opener ∈ matcher.pending, opener ∉ tree.walk

theorem Stacked.exists_growing
    (stacked : Stacked pairs matcher)
    (opened : tree ∈ matcher.built.take matcher.depth) :
    ∃ closer, Growing pairs tree.label closer tree.children := by
  induction stacked with
  | settled balanced =>
      cases opened
  | @grows head closer inner built pending growing below ih =>
      rw [depth, List.length_cons, List.take_succ_cons, List.mem_cons] at opened
      rcases opened with rfl | deeper
      · exact ⟨closer, growing⟩
      · exact ih deeper

theorem Stacked.balanced_of_mem_drop
    (stacked : Stacked pairs matcher)
    (finished : tree ∈ matcher.built.drop matcher.depth) :
    tree.Balanced pairs := by
  induction stacked with
  | settled balanced =>
      exact balanced tree finished
  | @grows head closer inner built pending growing below ih =>
      rw [depth, List.length_cons, List.drop_succ_cons] at finished
      exact ih finished

/--
A pending opener heads one of the trees on top, so it is in none below if no token was taken twice.
-/
theorem Aligned.notMem_walk
    {opener : Item}
    (aligned : Aligned pairs matcher)
    (distinct : matcher.taken.Nodup)
    (waiting : opener ∈ matcher.pending)
    (finished : tree ∈ matcher.built.drop matcher.depth) :
    opener ∉ tree.walk := by
  have spread : (Tree.walkAll matcher.built).Nodup :=
    matcher.walkAll_built_perm.nodup_iff.mpr distinct
  rw [← List.take_append_drop matcher.depth matcher.built, Tree.walkAll_append] at spread
  rw [← aligned.headed] at waiting
  rcases List.mem_map.mp waiting with ⟨top, opened, rfl⟩
  intro inside
  exact List.disjoint_of_nodup_append spread
    ((Tree.walk_sublist_of_mem opened).subset top.label_mem_walk)
    ((Tree.walk_sublist_of_mem finished).subset inside)

/-- A matcher is arranged when it has taken distinct tokens. -/
theorem arranged_of_feedAll
    {items : List Item}
    (fedAll : feedAll pairs {} items = .ok matcher)
    (distinct : items.Nodup) :
    Arranged pairs matcher := by
  have stacked := stacked_empty.feedAll fedAll
  have aligned := aligned_of_feedAll fedAll
  have taken : matcher.taken = items := taken_feedAll fedAll
  rw [← taken] at distinct
  refine ⟨aligned, ?_, ?_, ?_⟩
  · intro tree opened
    exact stacked.exists_growing opened
  · intro tree finished
    exact stacked.balanced_of_mem_drop finished
  · intro tree finished opener waiting
    exact aligned.notMem_walk distinct waiting finished

end Matcher

namespace Roster

variable
    {roster : Roster}
    {pairs : Pairs}
    {matcher : Matcher Member}

/-- Finishing answers what is built, or reports the outermost opener with the closer that it has. -/
theorem finish_result_of_aligned
    (aligned : Matcher.Aligned pairs matcher)
    (roster : Roster) :
    (matcher.depth = 0 ∧
        (roster.finish pairs matcher).result = .ok (roster.forestOf matcher.built.reverse)) ∨
      ∃ opener expected,
        matcher.pending.getLast? = some opener ∧
          pairs.closer? opener.token.kind opener.token.lexeme = some expected ∧
          (roster.finish pairs matcher).result =
            .error (.reported { opener := opener.token.reduced, expected }) := by
  rw [finish_eq]
  cases outermost : matcher.pending.getLast? with
  | none =>
      left
      have closed := List.getLast?_eq_none_iff.mp outermost
      refine ⟨congrArg List.length closed, ?_⟩
      rw [Matcher.finish_of_closed closed]
      rfl
  | some opener =>
      right
      rcases aligned.exists_closer (List.mem_of_getLast? outermost) with ⟨expected, paired⟩
      refine ⟨opener, expected, rfl, paired, ?_⟩
      rw [Matcher.finish_of_outermost outermost paired]
      rfl

theorem exists_feed_of_aligned
    {number : Nat} {token : Token}
    (aligned : Matcher.Aligned pairs matcher)
    (present : roster.tokens[number]? = some (.ok token)) :
    ∃ next, roster.feed pairs matcher number = .ok next := by
  have feeds := feeds_of_aligned aligned roster number
  generalize roster.feed pairs matcher number = outcome at feeds
  cases feeds with
  | absent absent =>
      exact ⟨_, rfl⟩
  | unreadable found =>
      rw [present] at found
      cases found
  | taken present feeds =>
      exact ⟨_, rfl⟩

theorem feed_of_unreadable
    {number : Nat} {error : Text.Utf8.DecodeError}
    (found : roster.tokens[number]? = some (.error error))
    (pairs : Pairs)
    (matcher : Matcher Member) :
    roster.feed pairs matcher number = .error (.undecodable error) := by
  rw [feed, found]

/--
The two stacks stay aligned.  After any calls on a new matcher that feed it distinct tokens without
children, some of which may have no lexeme, the matcher is arranged, and the trees that it has built
are those that the tokens show.  Whatever the next call is, it does not find the stacks in disorder.
A token is taken if it has a lexeme.  If it has none, feeding breaks down because of that, and
nothing changes.  Finishing answers the roots or reports an opener that is pending, with the closer
that is registered for it.
-/
theorem stacks_stay_aligned
    (pairs : Pairs)
    (roster : Roster)
    (calls : List Call)
    (distinct : (Call.fed calls).Nodup)
    (childless : ∀ number ∈ Call.fed calls, ∀ link ∈ roster.links, link.1 ≠ number) :
    let usage := afterCalls pairs roster calls
    let stack := usage.roster.forestOf usage.matcher.built.reverse
    let answer := (usage.roster.finish pairs usage.matcher).result
    usage.matcher.Arranged pairs ∧
      stack = usage.matcher.built.reverse.map (Tree.map Member.token) ∧
      (∀ number token,
        roster.tokens[number]? = some (.ok token) →
          ∃ next, usage.roster.feed pairs usage.matcher number = .ok next) ∧
      (∀ number error,
        roster.tokens[number]? = some (.error error) →
          usage.roster.feed pairs usage.matcher number = .error (.undecodable error) ∧
            usage.after pairs (.feed number) = usage) ∧
      (usage.matcher.depth = 0 ∧ answer = .ok stack ∨
        ∃ opener expected,
          usage.matcher.pending.getLast? = some opener ∧
            pairs.closer? opener.token.kind opener.token.lexeme = some expected ∧
            answer = .error (.reported { opener := opener.token.reduced, expected })) := by
  intro usage stack answer
  have sound : usage.Sound pairs roster (Call.fed calls) (Call.sinceFinish calls) :=
    sound_afterCalls pairs distinct childless
  have taken : usage.matcher.taken.Nodup := sound.mirrors.distinct.of_map
  rw [sound.taken_eq] at taken
  refine ⟨Matcher.arranged_of_feedAll sound.taken taken, sound.mirrors.forestOf_eq, ?_, ?_,
    finish_result_of_aligned sound.aligned usage.roster⟩
  · intro number token present
    rw [← sound.tokens_eq] at present
    exact exists_feed_of_aligned sound.aligned present
  · intro number error found
    rw [← sound.tokens_eq] at found
    have refused := feed_of_unreadable found pairs usage.matcher
    refine ⟨refused, ?_⟩
    rw [Usage.after, refused]

/-- A pass that fails, and then two groups, one in the other, of which neither has its closer. -/
theorem stacks_stay_aligned_mixed :
    let stretch (kind : String) (start : Nat) : Stretch :=
      { kind, line := 1, start, stop := start + 1 }
    let roster := ofStretches { text := "[x(><)é".toList }
      [stretch "lit" 0, stretch "id" 1, stretch "lit" 2, stretch "lit" 3, stretch "mark" 4,
        stretch "lit" 5, stretch "lit" 6]
    let calls : List Call :=
      [.feed 0, .finish, .feed 1, .feed 2, .feed 3, .feed 6, .feed 4, .feed 5]
    let usage := afterCalls mixedPairs roster calls
    usage.matcher.Arranged mixedPairs ∧
      usage.matcher.built.map (fun tree => tree.label.number) = [4, 2, 1] ∧
      usage.matcher.pending.map Member.number = [4, 2] ∧
      (∃ next, usage.roster.feed mixedPairs usage.matcher 5 = .ok next) ∧
      usage.after mixedPairs (.feed 6) = usage ∧
      ∃ opener expected,
        usage.matcher.pending.getLast? = some opener ∧
          mixedPairs.closer? opener.token.kind opener.token.lexeme = some expected ∧
          (usage.roster.finish mixedPairs usage.matcher).result =
            .error (.reported { opener := opener.token.reduced, expected }) := by
  intro stretch roster calls usage
  have built : usage.matcher.built.map (fun tree => tree.label.number) = [4, 2, 1] := by
    decide +kernel
  have pending : usage.matcher.pending.map Member.number = [4, 2] := by
    decide +kernel
  have deep : usage.matcher.depth = 2 := by
    decide +kernel
  have present : ∃ token, roster.tokens[5]? = some (.ok token) := ⟨_, rfl⟩
  have cut : ∃ error, roster.tokens[6]? = some (.error error) := ⟨_, rfl⟩
  rcases present with ⟨token, present⟩
  rcases cut with ⟨error, cut⟩
  have stays :=
    stacks_stay_aligned mixedPairs roster calls (by decide) (by simp [roster, ofStretches])
  -- What the calls lead to has been read off above, and nothing more of it is to be computed.
  have same : afterCalls mixedPairs roster calls = usage := rfl
  rw [same] at stays
  clear_value usage
  rcases stays with ⟨arranged, _, taken, refused, closed | reported⟩
  · rw [deep] at closed
    cases closed.1
  · exact ⟨arranged, built, pending, taken 5 token present, (refused 6 error cut).2, reported⟩

end Roster

end TokenForest
