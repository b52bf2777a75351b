import TokenForest.Proofs.Grouping.Juxtaposition

/-!
# A matcher in use

A caller feeds tokens of a roster to one matcher and finishes it as often as is wanted, in any order
of calls.  `Usage.Sound` says what the two look like then: the matcher has taken the tokens since it
was last finished, and none else, and the roster records what is built.  It holds at first, and
every call preserves it, whatever the call ends with.  A matcher that was finished is therefore a
new one.
-/

namespace TokenForest

namespace Matcher

variable
    {Item : Type}
    [Lexical Item]
    {pairs : Pairs}

theorem aligned_of_feedAll
    {items : List Item} {fed : Matcher Item}
    (fedAll : feedAll pairs {} items = .ok fed) :
    Aligned pairs fed := by
  rcases exists_feedAll_empty pairs items with ⟨other, same, aligned⟩
  rw [fedAll] at same
  cases same
  exact aligned

/-- Whatever a matcher finishes with, it is empty afterwards. -/
theorem Aligned.finish_empties
    {matcher : Matcher Item}
    (aligned : Aligned pairs matcher) :
    (matcher.finish pairs).2 = {} := by
  unfold finish
  cases outer : matcher.pending.getLast? with
  | none =>
      have closed := List.getLast?_eq_none_iff.mp outer
      simp only [closed]
  | some outermost =>
      rcases aligned.exists_closer (List.mem_of_getLast? outer) with ⟨expected, paired⟩
      simp only [paired]

end Matcher

namespace Roster

/-- A call on a matcher that takes the tokens of a roster. -/
inductive Call where
  | feed (number : Nat)
  | finish

namespace Call

/-- The numbers of the tokens that are fed, in their order. -/
def fed (calls : List Call) : List Nat :=
  calls.filterMap fun
    | .feed number => some number
    | .finish => none

/-- The numbers of the tokens that are fed after the last time that the matcher is finished. -/
def sinceFinish (calls : List Call) : List Nat :=
  calls.foldl (fun since call =>
    match call with
    | .feed number => since ++ [number]
    | .finish => []) []

theorem fed_append
    (earlier later : List Call) :
    fed (earlier ++ later) = fed earlier ++ fed later :=
  List.filterMap_append

theorem sinceFinish_append_feed
    (calls : List Call)
    (number : Nat) :
    sinceFinish (calls ++ [.feed number]) = sinceFinish calls ++ [number] := by
  rw [sinceFinish, List.foldl_append]
  rfl

theorem sinceFinish_append_finish (calls : List Call) :
    sinceFinish (calls ++ [.finish]) = [] := by
  rw [sinceFinish, List.foldl_append]
  rfl

theorem sinceFinish_sublist (calls : List Call) :
    (sinceFinish calls).Sublist (fed calls) := by
  induction calls using List.reverseRecOn with
  | nil =>
      exact .slnil
  | append_singleton calls call ih =>
      rw [fed_append]
      cases call with
      | feed number =>
          rw [sinceFinish_append_feed]
          exact ih.append_right [number]
      | finish =>
          rw [sinceFinish_append_finish]
          exact List.nil_sublist _

end Call

/-- A roster and a matcher that takes its tokens. -/
structure Usage where
  roster : Roster
  matcher : Matcher Member := {}

/-- What a call leaves.  A token that has no lexeme is refused, and everything stays as it is. -/
def Usage.after
    (pairs : Pairs)
    (usage : Usage) :
    Call → Usage
  | .feed number =>
    match usage.roster.feed pairs usage.matcher number with
    | .ok (roster, matcher) => { roster, matcher }
    | .error _ => usage
  | .finish =>
    let pass := usage.roster.finish pairs usage.matcher
    { roster := pass.roster, matcher := pass.matcher }

/-- A roster and what was a new matcher, after some calls. -/
def afterCalls
    (pairs : Pairs)
    (roster : Roster)
    (calls : List Call) :
    Usage :=
  calls.foldl (Usage.after pairs) { roster }

theorem afterCalls_append
    (pairs : Pairs)
    (roster : Roster)
    (calls : List Call)
    (call : Call) :
    afterCalls pairs roster (calls ++ [call]) =
      (afterCalls pairs roster calls).after pairs call := by
  rw [afterCalls, List.foldl_append]
  rfl

/-- The token of a number, if there is one and it has a lexeme. -/
def member? (roster : Roster) (number : Nat) : Option Member :=
  match roster.tokens[number]? with
  | some (.ok token) => some { number, token }
  | _ => none

variable
    {roster : Roster}
    {pairs : Pairs}
    {fed since : List Nat}
    {usage : Usage}
    {number : Nat}

theorem member?_eq_some
    {member : Member}
    (found : roster.member? number = some member) :
    member.number = number ∧ roster.tokens[member.number]? = some (.ok member.token) := by
  unfold member? at found
  split at found
  · rename_i token present
    cases found
    exact ⟨rfl, present⟩
  · cases found

theorem number_mem_of_mem_members
    {numbers : List Nat} {member : Member}
    (listed : member ∈ numbers.filterMap roster.member?) :
    member.number ∈ numbers := by
  rcases List.mem_filterMap.mp listed with ⟨number, fed, found⟩
  rw [(member?_eq_some found).1]
  exact fed

theorem present_of_mem_members
    {numbers : List Nat} {member : Member}
    (listed : member ∈ numbers.filterMap roster.member?) :
    roster.tokens[member.number]? = some (.ok member.token) := by
  rcases List.mem_filterMap.mp listed with ⟨number, fed, found⟩
  exact (member?_eq_some found).2

/-- Tokens that all have a lexeme are the members of their numbers. -/
theorem map_number_members
    {numbers : List Nat}
    (readable : ∀ number ∈ numbers, ∃ token, roster.tokens[number]? = some (.ok token)) :
    (numbers.filterMap roster.member?).map Member.number = numbers := by
  induction numbers with
  | nil =>
      rfl
  | cons number rest ih =>
      rw [List.forall_mem_cons] at readable
      rcases readable.1 with ⟨token, present⟩
      have found : roster.member? number = some { number, token } := by
        rw [member?, present]
      rw [List.filterMap_cons_some found, List.map_cons, ih readable.2]

/-- Grouping tokens by their numbers is grouping their members, if they all have a lexeme. -/
theorem group_result_of_readable
    {numbers : List Nat}
    (distinct : numbers.Nodup)
    (readable : ∀ number ∈ numbers, ∃ token, roster.tokens[number]? = some (.ok token))
    (childless : ∀ number ∈ numbers, ∀ link ∈ roster.links, link.1 ≠ number) :
    (roster.group pairs {} numbers).result =
      seen (TokenForest.group pairs (numbers.filterMap roster.member?)) := by
  have same := map_number_members readable
  rw [← same] at distinct
  have childlessMembers : ∀ member ∈ numbers.filterMap roster.member?,
      ∀ link ∈ roster.links, link.1 ≠ member.number := by
    intro member listed
    exact childless member.number (number_mem_of_mem_members listed)
  rw [seen_group, ← group_result distinct (fun _ => present_of_mem_members) childlessMembers, same]

/--
After some tokens were fed, a part of them since the matcher was last finished, the matcher is where
this part has brought a new one.  The roster records what is built, and no other tokens than those
that were fed have gained children.
-/
structure Usage.Sound
    (pairs : Pairs)
    (roster : Roster)
    (fed since : List Nat)
    (usage : Usage) :
    Prop where
  tokens_eq : usage.roster.tokens = roster.tokens
  taken : Matcher.feedAll pairs {} (since.filterMap roster.member?) = .ok usage.matcher
  mirrors : usage.roster.Mirrors usage.matcher
  since_subset : since ⊆ fed
  given : ∀ link ∈ usage.roster.links, link ∈ roster.links ∨ link.1 ∈ fed

namespace Usage.Sound

theorem new
    (pairs : Pairs)
    (roster : Roster) :
    Sound pairs roster [] [] { roster } where
  tokens_eq := rfl
  taken := rfl
  mirrors := mirrors_empty
  since_subset := List.Subset.refl []
  given := by
    intro link recorded
    exact .inl recorded

theorem aligned
    (sound : usage.Sound pairs roster fed since) :
    Matcher.Aligned pairs usage.matcher :=
  Matcher.aligned_of_feedAll sound.taken

theorem taken_eq
    (sound : usage.Sound pairs roster fed since) :
    usage.matcher.taken = since.filterMap roster.member? := by
  rw [Matcher.taken_feedAll sound.taken]
  rfl

theorem number_mem_of_mem_taken
    {member : Member}
    (sound : usage.Sound pairs roster fed since)
    (taken : member ∈ usage.matcher.taken) :
    member.number ∈ fed := by
  rw [sound.taken_eq] at taken
  exact sound.since_subset (number_mem_of_mem_members taken)

/-- A token that was not fed yet and had no children has none now. -/
theorem fresh
    (sound : usage.Sound pairs roster fed since)
    (unfed : number ∉ fed)
    (childless : ∀ link ∈ roster.links, link.1 ≠ number) :
    usage.roster.Fresh usage.matcher number where
  untaken := by
    intro taken
    rcases List.mem_map.mp taken with ⟨member, held, rfl⟩
    exact unfed (sound.number_mem_of_mem_taken held)
  childless := by
    intro link recorded
    rcases sound.given link recorded with before | gained
    · exact childless link before
    · intro same
      exact unfed (same ▸ gained)

theorem since_append_subset
    (sound : usage.Sound pairs roster fed since)
    (number : Nat) :
    since ++ [number] ⊆ fed ++ [number] := by
  intro other listed
  rcases List.mem_append.mp listed with earlier | last
  · exact List.mem_append_left _ (sound.since_subset earlier)
  · exact List.mem_append_right _ last

theorem given_append
    (sound : usage.Sound pairs roster fed since)
    (number : Nat) :
    ∀ link ∈ usage.roster.links, link ∈ roster.links ∨ link.1 ∈ fed ++ [number] := by
  intro link recorded
  rcases sound.given link recorded with before | gained
  · exact .inl before
  · exact .inr (List.mem_append_left _ gained)

/-- Where there is no token with a lexeme, nothing changes. -/
theorem refuse
    (sound : usage.Sound pairs roster fed since)
    (refused : roster.member? number = none) :
    usage.Sound pairs roster (fed ++ [number]) (since ++ [number]) where
  tokens_eq := sound.tokens_eq
  taken := by
    rw [List.filterMap_append, List.filterMap_cons_none refused, List.filterMap_nil,
      List.append_nil]
    exact sound.taken
  mirrors := sound.mirrors
  since_subset := sound.since_append_subset number
  given := sound.given_append number

theorem take
    {token : Token} {next : Matcher Member}
    (sound : usage.Sound pairs roster fed since)
    (unfed : number ∉ fed)
    (childless : ∀ link ∈ roster.links, link.1 ≠ number)
    (present : roster.tokens[number]? = some (.ok token))
    (feeds : usage.matcher.Feeds pairs { number, token } next) :
    Sound pairs roster (fed ++ [number]) (since ++ [number])
      { roster := gain pairs usage.roster usage.matcher { number, token }, matcher := next } where
  tokens_eq := sound.tokens_eq
  taken := by
    have found : roster.member? number = some { number, token } := by
      rw [member?, present]
    rw [List.filterMap_append, List.filterMap_cons_some found, Matcher.feedAll_append sound.taken]
    exact feeds.feedAll_eq
  mirrors := by
    apply sound.mirrors.feeds feeds (sound.fresh unfed childless)
    rw [sound.tokens_eq]
    exact present
  since_subset := sound.since_append_subset number
  given := by
    intro link recorded
    rcases List.mem_append.mp recorded with before | gained
    · exact sound.given_append number link before
    · rcases List.mem_map.mp gained with ⟨⟨parent, child⟩, linked, rfl⟩
      right
      exact List.mem_append_left _
        (sound.number_mem_of_mem_taken (Matcher.parent_mem_taken linked))

/-- Feeding one more token, whether it is taken or refused. -/
theorem feed
    (sound : usage.Sound pairs roster fed since)
    (unfed : number ∉ fed)
    (childless : ∀ link ∈ roster.links, link.1 ≠ number) :
    (usage.after pairs (.feed number)).Sound pairs roster (fed ++ [number])
      (since ++ [number]) := by
  have feeds := feeds_of_aligned sound.aligned usage.roster number
  rw [Usage.after]
  generalize usage.roster.feed pairs usage.matcher number = outcome at feeds ⊢
  cases feeds with
  | absent absent =>
      rw [sound.tokens_eq] at absent
      apply sound.refuse
      rw [member?, absent]
  | unreadable found =>
      rw [sound.tokens_eq] at found
      apply sound.refuse
      rw [member?, found]
  | taken present feeds =>
      rw [sound.tokens_eq] at present
      exact sound.take unfed childless present feeds

theorem after_finish
    (sound : usage.Sound pairs roster fed since) :
    usage.after pairs .finish = { roster := usage.roster } := by
  show Usage.mk usage.roster (usage.matcher.finish pairs).2 = _
  rw [sound.aligned.finish_empties]

/-- Finishing the matcher, whether it answers a forest or an opener to blame. -/
theorem finish
    (sound : usage.Sound pairs roster fed since) :
    (usage.after pairs .finish).Sound pairs roster fed [] := by
  rw [sound.after_finish]
  constructor
  · exact sound.tokens_eq
  · rfl
  · exact mirrors_empty
  · exact List.nil_subset fed
  · exact sound.given

/--
What the matcher then finishes with is the outcome of grouping the tokens since the last time.
-/
theorem finish_result
    (sound : usage.Sound pairs roster fed since) :
    (usage.roster.finish pairs usage.matcher).result =
      seen (TokenForest.group pairs (since.filterMap roster.member?)) := by
  rw [sound.mirrors.finish_result, group_eq_finish sound.taken]

end Usage.Sound

/-- The state stays sound, whatever the calls are and end with. -/
theorem sound_afterCalls
    (pairs : Pairs)
    {calls : List Call}
    (distinct : (Call.fed calls).Nodup)
    (childless : ∀ number ∈ Call.fed calls, ∀ link ∈ roster.links, link.1 ≠ number) :
    (afterCalls pairs roster calls).Sound pairs roster (Call.fed calls)
      (Call.sinceFinish calls) := by
  -- From the end, since the tokens that the matcher holds are those of the last calls.
  induction calls using List.reverseRecOn with
  | nil =>
      exact .new pairs roster
  | append_singleton calls call ih =>
      rw [Call.fed_append] at distinct childless
      rw [List.forall_mem_append] at childless
      have sound := ih distinct.of_append_left childless.1
      rw [afterCalls_append, Call.fed_append]
      cases call with
      | feed number =>
          rw [Call.sinceFinish_append_feed]
          have unfed : number ∉ Call.fed calls := by
            intro fed
            exact List.disjoint_of_nodup_append distinct fed List.mem_cons_self
          exact sound.feed unfed (childless.2 number List.mem_cons_self)
      | finish =>
          rw [Call.sinceFinish_append_finish]
          have same : Call.fed calls ++ Call.fed [.finish] = Call.fed calls :=
            List.append_nil _
          rw [same]
          exact sound.finish

/--
Passes have nothing to do with each other.  In one pass over two lists of distinct tokens without
children, of which the first can be grouped, the outcome is that of the second with the forest of
the first before it.  And when a matcher is finished after any calls on it, the outcome is that of
grouping the tokens since it was last finished with a new matcher, and no group is open any more.
-/
theorem passes_are_independent
    (pairs : Pairs)
    (roster : Roster) :
    (∀ first second forest,
      (first ++ second).Nodup →
      (∀ number ∈ first ++ second, number < roster.tokens.length) →
      (∀ number ∈ first ++ second, ∀ link ∈ roster.links, link.1 ≠ number) →
      (roster.group pairs {} first).result = .ok forest →
        (roster.group pairs {} (first ++ second)).result =
          (roster.group pairs {} second).result.map (forest ++ ·)) ∧
      ∀ calls,
        (Call.fed calls).Nodup →
        (∀ number ∈ Call.fed calls, ∃ token, roster.tokens[number]? = some (.ok token)) →
        (∀ number ∈ Call.fed calls, ∀ link ∈ roster.links, link.1 ≠ number) →
          let usage := afterCalls pairs roster calls
          let pass := usage.roster.finish pairs usage.matcher
          pass.result = (roster.group pairs {} (Call.sinceFinish calls)).result ∧
            pass.matcher.depth = 0 := by
  constructor
  · intro first second forest distinct listed childless succeeded
    exact group_append_result distinct listed childless succeeded
  · intro calls distinct readable childless usage pass
    have sound : usage.Sound pairs roster (Call.fed calls) (Call.sinceFinish calls) :=
      sound_afterCalls pairs distinct childless
    have sublist := Call.sinceFinish_sublist calls
    constructor
    · rw [sound.finish_result]
      rw [group_result_of_readable (distinct.sublist sublist)
        (fun number listed => readable number (sublist.subset listed))
        (fun number listed => childless number (sublist.subset listed))]
    · have emptied : pass.matcher = {} := sound.aligned.finish_empties
      rw [emptied]
      rfl

theorem passes_are_independent_mixed :
    let roster := ofTokens (Tree.walkAll mixedForest)
    let calls : List Call :=
      [.feed 1, .feed 3, .finish, .feed 2, .feed 0, .feed 11, .finish, .feed 4, .feed 5]
    let usage := afterCalls mixedPairs roster calls
    let pass := usage.roster.finish mixedPairs usage.matcher
    (∃ forest,
      (roster.group mixedPairs {} [2, 3, 8]).result = .ok forest ∧
        (roster.group mixedPairs {} [2, 3, 8, 1, 9]).result =
          (roster.group mixedPairs {} [1, 9]).result.map (forest ++ ·)) ∧
      pass.result = (roster.group mixedPairs {} [4, 5]).result ∧ pass.matcher.depth = 0 := by
  intro roster calls usage pass
  have independent := passes_are_independent mixedPairs roster
  constructor
  · refine ⟨_, rfl, independent.1 [2, 3, 8] [1, 9] _ (by decide) (by decide) ?_ rfl⟩
    intro number listed
    exact ofTokens_childless
  · refine independent.2 calls (by decide) ?_ ?_
    · intro number listed
      have fed : ∀ number ∈ Call.fed calls, number < (Tree.walkAll mixedForest).length := by
        decide
      exact exists_token_ofTokens (fed number listed)
    · intro number listed
      exact ofTokens_childless

end Roster

end TokenForest
