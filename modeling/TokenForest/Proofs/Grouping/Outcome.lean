import Mathlib.Data.List.Range
import TokenForest.Proofs.Grouping.Balance
import TokenForest.Proofs.Grouping.Sharing
import TokenForest.Proofs.Grouping.Unclosed

/-!
# What a pass over tokens can end with

A caller who groups distinct tokens without children gets a forest or an opener to blame.  The
forest is balanced, and every balanced forest is what grouping the tokens on its walk ends with.
Otherwise there is a longest list of tokens at the beginning that can be grouped, and the next token
is the opener to blame, however many tokens follow it.
-/

namespace TokenForest

theorem mapError_eq_ok_iff
    {Error Other Answer : Type}
    {change : Error → Other} {outcome : Except Error Answer} {answer : Answer} :
    outcome.mapError change = .ok answer ↔ outcome = .ok answer := by
  cases outcome with
  | error failure =>
      constructor
      · intro succeeded
        cases succeeded
      · intro succeeded
        cases succeeded
  | ok other =>
      constructor
      · intro succeeded
        cases succeeded
        rfl
      · intro succeeded
        cases succeeded
        rfl

namespace Roster

variable
    {roster : Roster}
    {pairs : Pairs}

theorem group_eq_ok_iff
    {members : List Member} {forest : List (Tree Token)}
    (distinct : (members.map Member.number).Nodup)
    (present : ∀ member ∈ members,
      roster.tokens[member.number]? = some (.ok member.token))
    (childless : ∀ member ∈ members, ∀ link ∈ roster.links, link.1 ≠ member.number) :
    (roster.group pairs {} (members.map Member.number)).result = .ok forest ↔
      TokenForest.group pairs (members.map Member.token) = .ok forest := by
  rw [group_result distinct present childless, mapError_eq_ok_iff]

/-! ## Fresh tokens -/

/-- A roster of tokens that have no children. -/
def ofTokens (tokens : List Token) : Roster :=
  { tokens := tokens.map .ok }

/-- The members of a roster of some tokens, in their order. -/
def membersOf (tokens : List Token) : List Member :=
  tokens.zipIdx.map fun entry => { number := entry.2, token := entry.1 }

theorem map_number_membersOf (tokens : List Token) :
    (membersOf tokens).map Member.number = List.range tokens.length := by
  rw [membersOf, List.map_map, List.range_eq_range']
  exact List.zipIdx_map_snd 0 tokens

theorem map_token_membersOf (tokens : List Token) :
    (membersOf tokens).map Member.token = tokens := by
  rw [membersOf, List.map_map]
  exact List.zipIdx_map_fst 0 tokens

theorem nodup_membersOf (tokens : List Token) :
    ((membersOf tokens).map Member.number).Nodup := by
  rw [map_number_membersOf]
  exact List.nodup_range

theorem present_of_mem_membersOf
    {tokens : List Token} {member : Member}
    (listed : member ∈ membersOf tokens) :
    (ofTokens tokens).tokens[member.number]? = some (.ok member.token) := by
  rcases List.mem_map.mp listed with ⟨⟨token, number⟩, indexed, rfl⟩
  simp [ofTokens, List.mem_zipIdx_iff_getElem?.mp indexed]

theorem ofTokens_childless
    {tokens : List Token} {number : Nat} :
    ∀ link ∈ (ofTokens tokens).links, link.1 ≠ number := by
  simp [ofTokens]

theorem exists_token_ofTokens
    {tokens : List Token} {number : Nat}
    (listed : number < tokens.length) :
    ∃ token, (ofTokens tokens).tokens[number]? = some (.ok token) := by
  refine ⟨tokens[number], ?_⟩
  simp [ofTokens, listed]

/-- The outcome of grouping copies without children of some tokens, with a new matcher. -/
def groupFresh
    (pairs : Pairs)
    (tokens : List Token) :
    Except (Fault (Unbalanced Token)) (List (Tree Token)) :=
  ((ofTokens tokens).group pairs {} (List.range tokens.length)).result

theorem groupFresh_eq
    (pairs : Pairs)
    (tokens : List Token) :
    groupFresh pairs tokens =
      (TokenForest.group pairs tokens).mapError (Fault.map (Unbalanced.map Token.reduced)) := by
  have result :
      ((ofTokens tokens).group pairs {} ((membersOf tokens).map Member.number)).result = _ :=
    group_result (nodup_membersOf tokens) (fun _ => present_of_mem_membersOf)
      (fun _ _ => ofTokens_childless)
  rwa [map_number_membersOf, map_token_membersOf] at result

/-! ## Forests -/

/-- A token that is fed without complaint has a lexeme, and feeding it changes no token. -/
theorem exists_token_of_feed
    {matcher fed : Matcher Member} {number : Nat} {next : Roster}
    (listed : number < roster.tokens.length)
    (taken : roster.feed pairs matcher number = .ok (next, fed)) :
    ∃ token, roster.tokens[number]? = some (.ok token) ∧ next.tokens = roster.tokens := by
  have found := List.getElem?_eq_getElem listed
  cases decoded : roster.tokens[number] with
  | error error =>
      rw [feed, found, decoded] at taken
      cases taken
  | ok token =>
      rw [decoded] at found
      have present : roster.tokens[(⟨number, token⟩ : Member).number]? = some (.ok token) := found
      rw [feed_eq present] at taken
      cases fed : matcher.feed pairs { number, token } with
      | error breakdown =>
          rw [fed] at taken
          cases taken
      | ok middle =>
          rw [fed] at taken
          cases taken
          exact ⟨token, found, rfl⟩

/-- Whatever a matcher is fed without complaint has a lexeme. -/
theorem exists_members_of_feedAll
    {matcher : Matcher Member} {numbers : List Nat}
    (listed : ∀ number ∈ numbers, number < roster.tokens.length)
    (unbroken : (roster.feedAll pairs matcher numbers).error = none) :
    ∃ members : List Member,
      numbers = members.map Member.number ∧
        ∀ member ∈ members, roster.tokens[member.number]? = some (.ok member.token) := by
  induction numbers generalizing roster matcher with
  | nil =>
      exact ⟨[], rfl, by simp⟩
  | cons number rest ih =>
      rw [List.forall_mem_cons] at listed
      rw [feedAll] at unbroken
      cases taken : roster.feed pairs matcher number with
      | error breakdown =>
          rw [taken] at unbroken
          cases unbroken
      | ok fed =>
          rcases fed with ⟨next, middle⟩
          rcases exists_token_of_feed listed.1 taken with ⟨token, found, same⟩
          rw [taken] at unbroken
          rw [← same] at listed
          rcases ih listed.2 unbroken with ⟨members, rfl, present⟩
          rw [same] at present
          exact ⟨{ number, token } :: members, rfl, List.forall_mem_cons.mpr ⟨found, present⟩⟩

/-- A pass that succeeds is a pass over tokens that all have a lexeme. -/
theorem exists_members_of_group
    {matcher : Matcher Member} {numbers : List Nat} {forest : List (Tree Token)}
    (listed : ∀ number ∈ numbers, number < roster.tokens.length)
    (succeeded : (roster.group pairs matcher numbers).result = .ok forest) :
    ∃ members : List Member,
      numbers = members.map Member.number ∧
        ∀ member ∈ members, roster.tokens[member.number]? = some (.ok member.token) := by
  apply exists_members_of_feedAll listed
  cases unbroken : (roster.feedAll pairs matcher numbers).error with
  | none =>
      rfl
  | some breakdown =>
      simp only [group, unbroken] at succeeded
      cases succeeded

/--
Whenever grouping distinct tokens without children succeeds, every group at every level of the
forest ends at the first token that can close it, and exactly the openers have groups.
-/
theorem group_ends_groups_at_first_closer
    (pairs : Pairs)
    (roster : Roster)
    (numbers : List Nat)
    (distinct : numbers.Nodup)
    (listed : ∀ number ∈ numbers, number < roster.tokens.length)
    (childless : ∀ number ∈ numbers, ∀ link ∈ roster.links, link.1 ≠ number)
    (forest : List (Tree Token))
    (succeeded : (roster.group pairs {} numbers).result = .ok forest) :
    ∀ depth tree, (depth, tree) ∈ Tree.levelsAll 0 forest → tree.EndsAtFirstCloser pairs := by
  rcases exists_members_of_group listed succeeded with ⟨members, rfl, present⟩
  rw [List.forall_mem_map] at childless
  have grouped := (group_eq_ok_iff distinct present childless).mp succeeded
  intro depth tree standing
  rcases Tree.mem_levelsAll_iff.mp standing with ⟨root, atTop, below⟩
  exact ((balanced_of_group grouped root atTop).of_mem_levels below).endsAtFirstCloser

/-- Two openers with one closer, and a closer that is of another kind than a token like it. -/
def mixedPairs : Pairs :=
  [(("lit", "("), ")"), (("lit", "["), ")"), (("mark", "<"), ">")]

/-- A stray closer, wrong closers in groups within groups, and what follows them. -/
def mixedForest : List (Tree Token) :=
  let token (kind lexeme : String) (start : Nat) : Token :=
    { kind, lexeme, line := 1, start, stop := start + 1 }
  let literal (lexeme : String) (start : Nat) : Tree Token := .leaf (token "lit" lexeme start)
  [ literal ")" 0,
    .node (token "lit" "(" 1)
      [ .node (token "lit" "[" 2)
          [ literal ">" 3,
            .node (token "mark" "<" 4)
              [literal ")" 5, literal ">" 6, .leaf (token "mark" ">" 7)],
            literal ")" 8],
        literal "]" 9,
        literal ")" 10],
    .leaf (token "id" "x" 11)]

theorem group_ends_groups_at_first_closer_mixed :
    groupFresh mixedPairs (Tree.walkAll mixedForest) = .ok mixedForest ∧
      ∀ depth tree, (depth, tree) ∈ Tree.levelsAll 0 mixedForest →
        tree.EndsAtFirstCloser mixedPairs := by
  have succeeded : groupFresh mixedPairs (Tree.walkAll mixedForest) = .ok mixedForest := rfl
  refine ⟨succeeded, group_ends_groups_at_first_closer mixedPairs
    (ofTokens (Tree.walkAll mixedForest)) _ List.nodup_range ?_ ?_ mixedForest succeeded⟩
  · intro number listed
    simpa [ofTokens] using listed
  · intro number listed
    exact ofTokens_childless

/--
Grouping undoes walking: distinct tokens without children that stand in the order of a walk over a
balanced forest are grouped into this forest.
-/
theorem group_rebuilds_balanced_forest
    (pairs : Pairs)
    (forest : List (Tree Token))
    (balanced : ∀ tree ∈ forest, tree.Balanced pairs)
    (roster : Roster)
    (members : List Member)
    (distinct : (members.map Member.number).Nodup)
    (present : ∀ member ∈ members,
      roster.tokens[member.number]? = some (.ok member.token))
    (childless : ∀ member ∈ members, ∀ link ∈ roster.links, link.1 ≠ member.number)
    (walked : members.map Member.token = Tree.walkAll forest) :
    (roster.group pairs {} (members.map Member.number)).result = .ok forest := by
  rw [group_eq_ok_iff distinct present childless, walked]
  exact group_walkAll balanced

theorem mixedForest_balanced : ∀ tree ∈ mixedForest, tree.Balanced mixedPairs := by
  simp only [mixedForest, List.forall_mem_cons]
  refine ⟨.leaf rfl, ?_, .leaf rfl, by simp⟩
  -- The groups from the outermost on, each with two elements before its closer.
  refine @Tree.Balanced.group Token _ _ _ _ ")" [_, _] rfl ?_
    (by simp [Tree.leaf, Lexical.kind, Lexical.lexeme]) rfl ⟨rfl, rfl⟩
  simp only [List.forall_mem_cons]
  refine ⟨?_, .leaf rfl, by simp⟩
  refine @Tree.Balanced.group Token _ _ _ _ ")" [_, _] rfl ?_
    (by simp [Tree.leaf, Lexical.kind, Lexical.lexeme]) rfl ⟨rfl, rfl⟩
  simp only [List.forall_mem_cons]
  refine ⟨.leaf rfl, ?_, by simp⟩
  refine @Tree.Balanced.group Token _ _ _ _ ">" [_, _] rfl ?_
    (by simp [Tree.leaf, Lexical.kind, Lexical.lexeme]) rfl ⟨rfl, rfl⟩
  simp only [List.forall_mem_cons]
  exact ⟨.leaf rfl, .leaf rfl, by simp⟩

theorem group_rebuilds_balanced_forest_mixed :
    (∀ tree ∈ mixedForest, tree.Balanced mixedPairs) ∧
      groupFresh mixedPairs (Tree.walkAll mixedForest) = .ok mixedForest := by
  have rebuilt := group_rebuilds_balanced_forest mixedPairs mixedForest mixedForest_balanced
    (ofTokens (Tree.walkAll mixedForest)) (membersOf (Tree.walkAll mixedForest))
    (nodup_membersOf _) (fun _ => present_of_mem_membersOf) (fun _ _ => ofTokens_childless)
    (map_token_membersOf _)
  rw [map_number_membersOf] at rebuilt
  exact ⟨mixedForest_balanced, rebuilt⟩

/-! ## Failures -/

theorem exists_groupFresh_eq_ok_iff
    {tokens : List Token} :
    (∃ forest, groupFresh pairs tokens = .ok forest) ↔
      ∃ forest, TokenForest.group pairs tokens = .ok forest := by
  simp only [groupFresh_eq, mapError_eq_ok_iff]

theorem groupFresh_eq_reported
    {tokens : List Token} {error : Unbalanced Token}
    (failed : TokenForest.group pairs tokens = .error (.reported error)) :
    groupFresh pairs tokens =
      .error (.reported { opener := error.opener.reduced, expected := error.expected }) := by
  rw [groupFresh_eq, failed]
  rfl

/--
The longest list of tokens at the beginning that can be grouped decides what grouping all of them
ends with.  If it is the whole list, they are grouped.  Otherwise the token behind it is an opener,
and grouping reports this opener with the closer that is registered for it, for the whole list and
for every part of it that goes beyond the longest one.
-/
theorem group_reports_first_unclosed_opener
    (pairs : Pairs)
    (tokens : List Token) :
    ∃ longest,
      IsGreatest
        { count |
          count ≤ tokens.length ∧ ∃ forest, groupFresh pairs (tokens.take count) = .ok forest }
        longest ∧
      ((∃ forest, groupFresh pairs tokens = .ok forest) ↔ longest = tokens.length) ∧
      (longest ≠ tokens.length →
        ∃ token expected,
          tokens[longest]? = some token ∧
            pairs.closer? token.kind token.lexeme = some expected ∧
            groupFresh pairs tokens =
              .error (.reported { opener := token.reduced, expected }) ∧
            ∀ count, longest < count → count ≤ tokens.length →
              groupFresh pairs (tokens.take count) =
                .error (.reported { opener := token.reduced, expected })) := by
  simp only [exists_groupFresh_eq_ok_iff]
  rcases group_ok_or_unclosed pairs tokens with ⟨forest, grouped⟩ | ⟨place, error, unclosed⟩
  · refine ⟨tokens.length, isGreatest_of_group grouped, ?_, ?_⟩
    · exact ⟨fun _ => rfl, fun _ => ⟨forest, grouped⟩⟩
    · intro shorter
      exact absurd rfl shorter
  · refine ⟨place, unclosed.isGreatest, ?_, ?_⟩
    · constructor
      · rintro ⟨forest, grouped⟩
        rw [unclosed.group_eq] at grouped
        cases grouped
      · intro whole
        exact absurd whole (Nat.ne_of_lt unclosed.lt_length)
    · intro _
      refine ⟨error.opener, error.expected, unclosed.present, unclosed.paired,
        groupFresh_eq_reported unclosed.group_eq, ?_⟩
      intro count further within
      exact groupFresh_eq_reported (unclosed.onwards count further within)

end Roster

end TokenForest
