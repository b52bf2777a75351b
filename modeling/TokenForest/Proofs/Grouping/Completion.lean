import TokenForest.Proofs.Grouping.Usage

/-!
# The closers that are missing

The report about an open group names the lexeme that would close it, and feeding a token looks this
lexeme up once more to see whether the token closes the group.  `missing` lists what a report could
name for each of the open groups, the innermost first; the report that is made names the last.
Tokens of just these kinds and lexemes close one group each, until none is open, unless one of them
is an opener itself.
-/

namespace TokenForest

open Lexical (kind lexeme)

namespace Matcher

variable
    {Item : Type}
    [Lexical Item]
    {pairs : Pairs}
    {matcher fed : Matcher Item}
    {item : Item}

/-- The kinds and lexemes of the tokens that would close the open groups, the innermost first. -/
def missing
    (pairs : Pairs)
    (matcher : Matcher Item) :
    List (String × String) :=
  matcher.pending.filterMap fun opener =>
    (pairs.closer? (kind opener) (lexeme opener)).map fun closer => (kind opener, closer)

theorem missing_eq_cons
    {opener : Item} {outer : List Item} {closer : String}
    (pending : matcher.pending = opener :: outer)
    (paired : pairs.closer? (kind opener) (lexeme opener) = some closer) :
    matcher.missing pairs =
      (kind opener, closer) :: missing pairs { built := [], pending := outer } := by
  rw [missing, pending, List.filterMap_cons, paired]
  rfl

/-- A token that closes the innermost group leaves the ones around it open. -/
theorem Feeds.pending_of_closing
    {opener : Item} {outer : List Item}
    (feeds : Feeds pairs matcher item fed)
    (plain : pairs.closer? (kind item) (lexeme item) = none)
    (pending : matcher.pending = opener :: outer)
    (closing : closes pairs opener item = true) :
    fed.pending = outer := by
  cases feeds with
  | opens opener =>
      rw [plain] at opener
      cases opener
  | stands plain =>
      cases pending
  | joins plain unclosing =>
      cases pending
      rw [closing] at unclosing
      cases unclosing
  | ends plain closing =>
      cases pending
      rfl
  | returns plain closing =>
      cases pending
      rfl

/-- If no closer is missing, no group is open: every opener on the stack has one. -/
theorem Aligned.pending_eq_nil
    (aligned : Aligned pairs matcher)
    (complete : matcher.missing pairs = []) :
    matcher.pending = [] := by
  cases pending : matcher.pending with
  | nil =>
      rfl
  | cons opener outer =>
      rcases aligned.exists_closer (pending ▸ List.mem_cons_self) with ⟨closer, paired⟩
      rw [missing_eq_cons pending paired] at complete
      cases complete

/-- The first token that is missing closes the innermost group, and no other. -/
theorem Aligned.exists_feeds_missing
    {rest : List (String × String)}
    (aligned : Aligned pairs matcher)
    (first : matcher.missing pairs = (kind item, lexeme item) :: rest)
    (plain : pairs.closer? (kind item) (lexeme item) = none) :
    ∃ fed,
      Feeds pairs matcher item fed ∧ fed.missing pairs = rest ∧ matcher.depth = fed.depth + 1 := by
  cases pending : matcher.pending with
  | nil =>
      rw [missing, pending] at first
      cases first
  | cons opener outer =>
      rcases aligned.exists_closer (pending ▸ List.mem_cons_self) with ⟨closer, paired⟩
      rw [missing_eq_cons pending paired] at first
      rcases List.cons.inj first with ⟨same, rest_eq⟩
      rcases Prod.mk.inj same with ⟨sameKind, sameLexeme⟩
      have closing : closes pairs opener item = true :=
        (closes_eq_true_iff paired item).mpr ⟨sameKind.symm, sameLexeme.symm⟩
      rcases aligned.exists_feeds item with ⟨fed, feeds⟩
      have left := feeds.pending_of_closing plain pending closing
      refine ⟨fed, feeds, ?_, ?_⟩
      · rw [← rest_eq, missing, left, missing]
      · rw [depth, depth, pending, left, List.length_cons]

/-- An open group is reported with the last of the closers that are missing. -/
theorem missing_getLast_of_finish
    {error : Unbalanced Item}
    (reported : (matcher.finish pairs).1 = .error (.reported error)) :
    (matcher.missing pairs).getLast? = some (kind error.opener, error.expected) := by
  cases outermost : matcher.pending.getLast? with
  | none =>
      rw [finish_of_closed (List.getLast?_eq_none_iff.mp outermost)] at reported
      cases reported
  | some opener =>
      cases paired : pairs.closer? (kind opener) (lexeme opener) with
      | none =>
          simp [finish, outermost, paired] at reported
      | some expected =>
          rw [finish_of_outermost outermost paired] at reported
          cases reported
          rcases List.getLast?_eq_some_iff.mp outermost with ⟨inner, pending⟩
          simp [missing, pending, paired]

end Matcher

namespace Roster

open Matcher (missing)

/-- Fed the closers that are missing, a matcher closes its groups one by one. -/
theorem feedAll_missing
    {pairs : Pairs} {roster : Roster} {matcher : Matcher Member} {members : List Member}
    (aligned : Matcher.Aligned pairs matcher)
    (present : ∀ member ∈ members,
      roster.tokens[member.number]? = some (.ok member.token))
    (plain : ∀ key ∈ matcher.missing pairs, pairs.closer? key.1 key.2 = none)
    (closing :
      matcher.missing pairs = members.map fun member => (kind member, lexeme member)) :
    let fed := roster.feedAll pairs matcher (members.map Member.number)
    fed.depths = (List.range matcher.depth).reverse ∧ fed.matcher.pending = [] := by
  induction members generalizing roster matcher with
  | nil =>
      have closed := aligned.pending_eq_nil closing
      refine ⟨?_, closed⟩
      rw [Matcher.depth, closed]
      rfl
  | cons member rest ih =>
      rw [List.forall_mem_cons] at present
      rw [List.map_cons] at closing
      rw [closing, List.forall_mem_cons] at plain
      rcases aligned.exists_feeds_missing closing plain.1 with ⟨middle, feeds, left, deeper⟩
      rw [← left] at plain
      have presentLater : ∀ other ∈ rest,
          (gain pairs roster matcher member).tokens[other.number]? = some (.ok other.token) :=
        present.2
      have later := ih (feeds.aligned aligned) presentLater plain.2 left
      rw [List.map_cons, feedAll, feed_eq present.1, feeds.feed_eq]
      constructor
      · rw [deeper, List.range_succ, List.reverse_append]
        exact congrArg (middle.depth :: ·) later.1
      · exact later.2

namespace Call

theorem fed_map_feed (numbers : List Nat) : fed (numbers.map .feed) = numbers := by
  rw [fed, List.filterMap_map]
  exact List.filterMap_some

theorem sinceFinish_map_feed (numbers : List Nat) :
    sinceFinish (numbers.map .feed) = numbers := by
  induction numbers using List.reverseRecOn with
  | nil =>
      rfl
  | append_singleton numbers number ih =>
      rw [List.map_append, List.map_singleton, sinceFinish_append_feed, ih]

end Call

/--
Whatever distinct tokens without children a new matcher was fed, it takes the closers that are
missing if none of them opens a group itself.  Each of them lowers the depth by one, the last to
zero, and then the matcher finishes with a forest of all tokens that it took, in the order in which
they came.
-/
theorem missing_closers_complete
    (pairs : Pairs)
    (roster : Roster)
    (numbers : List Nat)
    (closing : List Member)
    (distinct : (numbers ++ closing.map Member.number).Nodup)
    (childless :
      ∀ number ∈ numbers ++ closing.map Member.number,
        ∀ link ∈ roster.links, link.1 ≠ number)
    (present : ∀ member ∈ closing,
      roster.tokens[member.number]? = some (.ok member.token))
    (plain :
      ∀ key ∈ (afterCalls pairs roster (numbers.map .feed)).matcher.missing pairs,
        pairs.closer? key.1 key.2 = none)
    (closes :
      (afterCalls pairs roster (numbers.map .feed)).matcher.missing pairs =
        closing.map fun member => (kind member, lexeme member)) :
    let usage := afterCalls pairs roster (numbers.map .feed)
    let fed := usage.roster.feedAll pairs usage.matcher (closing.map Member.number)
    fed.error = none ∧
      fed.depths = (List.range usage.matcher.depth).reverse ∧
      ∃ forest,
        (fed.roster.finish pairs fed.matcher).result = .ok forest ∧
          Tree.walkAll forest =
            (numbers.filterMap roster.member? ++ closing).map Member.token := by
  intro usage fed
  rw [List.forall_mem_append] at childless
  have sound : usage.Sound pairs roster numbers numbers := by
    rw [← Call.fed_map_feed numbers] at distinct childless
    have sound := sound_afterCalls pairs distinct.of_append_left childless.1
    rwa [Call.fed_map_feed, Call.sinceFinish_map_feed] at sound
  have fresh : ∀ member ∈ closing, usage.roster.Fresh usage.matcher member.number := by
    intro member listed
    have number : member.number ∈ closing.map Member.number := List.mem_map_of_mem listed
    apply sound.fresh
    · intro before
      exact List.disjoint_of_nodup_append distinct before number
    · exact childless.2 member.number number
  -- The roster records what the closers add; the matcher by itself says when no group is open.
  rw [← sound.tokens_eq] at present
  rcases sound.mirrors.feedAll pairs sound.aligned distinct.of_append_right present fresh with
    ⟨unbroken, taken, mirrors⟩
  rcases feedAll_missing sound.aligned present plain closes with ⟨depths, closed⟩
  refine ⟨unbroken, depths, fed.matcher.built.reverse.map (Tree.map Member.token), ?_, ?_⟩
  · rw [mirrors.finish_result, Matcher.finish_of_closed closed]
    rfl
  · have walked : Tree.walkAll fed.matcher.built.reverse = fed.matcher.taken := rfl
    rw [Tree.walkAll_map, walked, Matcher.taken_feedAll taken, sound.taken_eq]

/-- Three groups, one in another, and the closers of two kinds that they lack. -/
theorem missing_closers_complete_mixed :
    let roster := ofTokens (Tree.walkAll mixedForest)
    let numbers := [0, 1, 2, 3, 4, 5, 9]
    let closing := [7, 8, 10].filterMap roster.member?
    let usage := afterCalls mixedPairs roster (numbers.map .feed)
    let fed := usage.roster.feedAll mixedPairs usage.matcher (closing.map Member.number)
    usage.matcher.missing mixedPairs = [("mark", ">"), ("lit", ")"), ("lit", ")")] ∧
      fed.error = none ∧
      fed.depths = [2, 1, 0] ∧
      ∃ forest,
        (fed.roster.finish mixedPairs fed.matcher).result = .ok forest ∧
          Tree.walkAll forest =
            (numbers.filterMap roster.member? ++ closing).map Member.token := by
  intro roster numbers closing usage fed
  have missing : usage.matcher.missing mixedPairs =
      [("mark", ">"), ("lit", ")"), ("lit", ")")] := by
    decide
  have depth : usage.matcher.depth = 3 := by
    decide
  have distinct : (numbers ++ closing.map Member.number).Nodup := by
    decide
  have complete := missing_closers_complete mixedPairs roster numbers closing distinct
    (fun _ _ => ofTokens_childless) (fun _ => present_of_mem_members)
    (by rw [missing]; decide) (by rw [missing]; decide)
  rcases complete with ⟨unbroken, depths, forest⟩
  rw [depth] at depths
  exact ⟨missing, unbroken, depths, forest⟩

end Roster

end TokenForest
