import TokenForest.Proofs.Grouping.Gaining

/-!
# Depth and nesting

A matcher counts the groups that are open.  Before it takes a token, its count is the depth at which
the token will stand in the forest.  Trees that are built may still move when a group closes, but
the depths of their tokens are fixed from the start: the tree at the top of the stack stands in as
many groups as are open around it, the tree below it in one group fewer, and so on down to the
roots.  `Matcher.places` lists the tokens with these depths.  A token that is taken goes to the end
of the list, with the count as its depth, and nothing else in the list changes.
-/

namespace TokenForest

open Lexical (kind lexeme)

/-! ## Places in a tree -/

namespace Tree

variable {Label : Type}

/-- The labels of a tree that stands at a depth, in the order of walking, with their depths. -/
def places (depth : Nat) (tree : Tree Label) : List (Nat × Label) :=
  (tree.levels depth).map fun entry => (entry.1, entry.2.label)

theorem places_node
    (depth : Nat)
    (label : Label)
    (children : List (Tree Label)) :
    (node label children).places depth =
      (depth, label) :: children.flatMap (places (depth + 1)) := by
  rw [places, levels_node, levelsAll_eq_flatMap, List.map_cons, List.map_flatMap]
  rfl

@[simp]
theorem places_leaf
    (depth : Nat)
    (label : Label) :
    (leaf label).places depth = [(depth, label)] :=
  places_node depth label []

/-- What is adopted stands one level deeper than the tree, behind everything else in it. -/
@[simp]
theorem places_adopt
    (depth : Nat)
    (tree child : Tree Label) :
    (tree.adopt child).places depth = tree.places depth ++ child.places (depth + 1) := by
  cases tree with
  | node label children =>
      rw [adopt, places_node, places_node, List.flatMap_append, List.flatMap_singleton,
        List.cons_append]

theorem map_snd_places
    (depth : Nat)
    (tree : Tree Label) :
    (tree.places depth).map Prod.snd = tree.walk := by
  rw [places, List.map_map, ← map_label_levels depth]
  rfl

end Tree

namespace Matcher

/-! ## Places on the stack -/

section Places

variable {Item : Type}

/--
The tokens of trees on a stack, of which so many at the top are open groups, with their depths.
-/
def placesFrom : (depth : Nat) → (built : List (Tree Item)) → List (Nat × Item)
  | _, [] => []
  | depth, top :: below => placesFrom (depth - 1) below ++ top.places (depth - 1)

/-- The tokens that were taken, in their order, with the depths at which they stand. -/
def places (matcher : Matcher Item) : List (Nat × Item) :=
  placesFrom matcher.depth matcher.built

theorem map_snd_placesFrom
    (depth : Nat)
    (built : List (Tree Item)) :
    (placesFrom depth built).map Prod.snd = Tree.walkAll built.reverse := by
  induction built generalizing depth with
  | nil =>
      rfl
  | cons top below ih =>
      rw [placesFrom, List.map_append, ih, Tree.map_snd_places, List.reverse_cons,
        Tree.walkAll_append, Tree.walkAll_cons, Tree.walkAll_nil, List.append_nil]

theorem length_places (matcher : Matcher Item) :
    matcher.places.length = matcher.taken.length := by
  rw [taken, ← map_snd_placesFrom matcher.depth, List.length_map, places]

/-- Where no group is open, all trees on the stack are roots. -/
theorem placesFrom_zero (built : List (Tree Item)) :
    placesFrom 0 built =
      (Tree.levelsAll 0 built.reverse).map fun entry => (entry.1, entry.2.label) := by
  induction built with
  | nil =>
      rfl
  | cons top below ih =>
      rw [placesFrom, ih, List.reverse_cons, Tree.levelsAll_eq_flatMap, Tree.levelsAll_eq_flatMap,
        List.flatMap_append, List.map_append, List.flatMap_singleton]
      rfl

end Places

variable
    {Item : Type}
    [Lexical Item]
    {pairs : Pairs}
    {matcher fed : Matcher Item}
    {item : Item}

/-- A token is taken to the end of the list, at the depth that the matcher counts before. -/
theorem Feeds.places_eq
    (feeds : Feeds pairs matcher item fed) :
    fed.places = matcher.places ++ [(matcher.depth, item)] := by
  cases feeds with
  | opens opener =>
      simp [places, placesFrom, depth]
  | stands plain =>
      simp [places, placesFrom, depth]
  | joins plain unclosing =>
      simp [places, placesFrom, depth]
  | ends plain closing =>
      simp [places, placesFrom, depth]
  | returns plain closing =>
      simp [places, placesFrom, depth]

theorem places_prefix
    {items : List Item}
    (fedAll : matcher.feedAll pairs items = .ok fed) :
    matcher.places <+: fed.places := by
  induction items generalizing matcher with
  | nil =>
      cases fedAll
      exact List.prefix_rfl
  | cons item rest ih =>
      rcases feedAll_cons_eq_ok_iff.mp fedAll with ⟨middle, first, later⟩
      have onwards := ih later
      rw [(feeds_of_feed first).places_eq] at onwards
      exact (List.prefix_append _ _).trans onwards

/-- Each token stands at the depth that the matcher counted when all tokens before it were taken. -/
theorem places_getElem?
    {items : List Item} {index : Nat}
    (fedAll : feedAll pairs {} items = .ok fed)
    (present : items[index]? = some item) :
    ∃ before,
      feedAll pairs {} (items.take index) = .ok before ∧
        fed.places[index]? = some (before.depth, item) := by
  rcases exists_feedAll_empty pairs (items.take index) with ⟨before, earlier, _⟩
  rcases List.getElem?_eq_some_iff.mp present with ⟨within, same⟩
  have length : before.places.length = index := by
    rw [length_places, taken_feedAll earlier]
    exact List.length_take_of_le (Nat.le_of_lt within)
  have split : items = items.take index ++ item :: items.drop (index + 1) := by
    rw [← same, ← List.drop_eq_getElem_cons within, List.take_append_drop]
  rw [split, feedAll_append earlier] at fedAll
  rcases feedAll_cons_eq_ok_iff.mp fedAll with ⟨middle, first, later⟩
  rcases places_prefix later with ⟨behind, whole⟩
  refine ⟨before, earlier, ?_⟩
  rw [← whole, (feeds_of_feed first).places_eq, List.append_assoc,
    List.getElem?_append_right (Nat.le_of_eq length), length, Nat.sub_self]
  rfl

/-! ## The count -/

/-- A token that opens no group and closes that of the innermost opener. -/
structure ClosesInnermost (pairs : Pairs) (matcher : Matcher Item) (item : Item) : Prop where
  plain : ¬pairs.Opens item
  closing :
    ∃ innermost,
      matcher.pending.head? = some innermost ∧
        kind item = kind innermost ∧
        pairs.closer? (kind innermost) (lexeme innermost) = some (lexeme item)

/--
A count goes up by one exactly at what opens, down by one exactly at what closes, and else stays.
-/
structure Follows (before after : Nat) (opens closes : Prop) : Prop where
  up_iff : after = before + 1 ↔ opens
  down_iff : after + 1 = before ↔ closes
  same_iff : after = before ↔ ¬opens ∧ ¬closes

namespace Follows

variable
    {before : Nat}
    {opens closes : Prop}

theorem of_opens
    (opening : opens)
    (unclosing : ¬closes) :
    Follows before (before + 1) opens closes where
  up_iff := iff_of_true rfl opening
  down_iff := iff_of_false (by omega) unclosing
  same_iff := iff_of_false (by omega) fun neither => neither.1 opening

theorem of_closes
    (plain : ¬opens)
    (closing : closes) :
    Follows (before + 1) before opens closes where
  up_iff := iff_of_false (by omega) plain
  down_iff := iff_of_true rfl closing
  same_iff := iff_of_false (by omega) fun neither => neither.2 closing

theorem of_neither
    (plain : ¬opens)
    (unclosing : ¬closes) :
    Follows before before opens closes where
  up_iff := iff_of_false (by omega) plain
  down_iff := iff_of_false (by omega) unclosing
  same_iff := iff_of_true rfl ⟨plain, unclosing⟩

end Follows

theorem not_opens_iff :
    ¬pairs.Opens item ↔ pairs.closer? (kind item) (lexeme item) = none :=
  not_not

theorem closesInnermost_iff
    {built : List (Tree Item)} {opener : Item} {outer : List Item}
    (plain : ¬pairs.Opens item) :
    ClosesInnermost pairs { built, pending := opener :: outer } item ↔
      closes pairs opener item = true := by
  simp only [closes, Bool.and_eq_true, decide_eq_true_eq]
  constructor
  · rintro ⟨_, innermost, first, sameKind, paired⟩
    cases first
    exact ⟨sameKind.symm, paired⟩
  · rintro ⟨sameKind, paired⟩
    exact ⟨plain, opener, rfl, sameKind.symm, paired⟩

/-- The depth goes up with an opener and down with a token that closes the innermost group. -/
theorem Feeds.follows
    (feeds : Feeds pairs matcher item fed) :
    Follows matcher.depth fed.depth (pairs.Opens item) (matcher.ClosesInnermost pairs item) := by
  cases feeds with
  | opens opener =>
      have opens : pairs.Opens item := by
        rw [Pairs.Opens, opener]
        exact Option.some_ne_none _
      exact .of_opens opens fun closing => closing.plain opens
  | stands plain =>
      refine .of_neither (not_opens_iff.mpr plain) ?_
      rintro ⟨_, innermost, first, _⟩
      cases first
  | joins plain unclosing =>
      have plain := not_opens_iff.mpr plain
      refine .of_neither plain ?_
      rw [closesInnermost_iff plain, unclosing]
      exact Bool.false_ne_true
  | ends plain closing =>
      have plain := not_opens_iff.mpr plain
      exact .of_closes plain ((closesInnermost_iff plain).mpr closing)
  | returns plain closing =>
      have plain := not_opens_iff.mpr plain
      exact .of_closes plain ((closesInnermost_iff plain).mpr closing)

end Matcher

/-- The token at an index of a grouped list stands as deep as there were open groups before it. -/
theorem levels_of_group
    {Item : Type}
    [Lexical Item]
    {pairs : Pairs} {items : List Item} {forest : List (Tree Item)} {item : Item} {index : Nat}
    (grouped : group pairs items = .ok forest)
    (present : items[index]? = some item) :
    ∃ before tree,
      Matcher.feedAll pairs {} (items.take index) = .ok before ∧
        (Tree.levelsAll 0 forest)[index]? = some (before.depth, tree) ∧
        tree.label = item := by
  rcases Matcher.exists_feedAll_empty pairs items with ⟨fed, fedAll, _⟩
  rw [group_eq_finish fedAll] at grouped
  have closed := Matcher.pending_eq_nil_of_finish grouped
  rcases Matcher.places_getElem? fedAll present with ⟨before, earlier, found⟩
  have flat : fed.depth = 0 := congrArg List.length closed
  rw [Matcher.places, flat, Matcher.placesFrom_zero, ← Matcher.eq_reverse_of_finish grouped,
    List.getElem?_map, Option.map_eq_some_iff] at found
  rcases found with ⟨⟨depth, tree⟩, level, same⟩
  cases same
  exact ⟨before, tree, earlier, level, rfl⟩

namespace Roster

variable
    {roster : Roster}
    {pairs : Pairs}

/-! ## Tokens of a roster -/

/-- Whatever the calls on a matcher are, they keep its stacks aligned and the tokens as they are. -/
theorem aligned_afterCalls
    (pairs : Pairs)
    (roster : Roster)
    (calls : List Call) :
    Matcher.Aligned pairs (afterCalls pairs roster calls).matcher ∧
      (afterCalls pairs roster calls).roster.tokens = roster.tokens := by
  induction calls using List.reverseRecOn with
  | nil =>
      exact ⟨Matcher.aligned_empty, rfl⟩
  | append_singleton calls call ih =>
      rcases ih with ⟨aligned, same⟩
      rw [afterCalls_append]
      generalize afterCalls pairs roster calls = usage at aligned same ⊢
      cases call with
      | feed number =>
          have feeds := feeds_of_aligned aligned usage.roster number
          rw [Usage.after]
          generalize usage.roster.feed pairs usage.matcher number = outcome at feeds ⊢
          cases feeds with
          | absent absent =>
              exact ⟨aligned, same⟩
          | unreadable found =>
              exact ⟨aligned, same⟩
          | taken present feeds =>
              exact ⟨feeds.aligned aligned, same⟩
      | finish =>
          refine ⟨?_, same⟩
          show Matcher.Aligned pairs (usage.matcher.finish pairs).2
          rw [aligned.finish_empties]
          exact Matcher.aligned_empty

/--
A matcher that is fed tokens of a roster counts what one that is fed the tokens themselves does.
-/
theorem depth_feedAll
    {members : List Member} {fed : Matcher Token}
    (present : ∀ member ∈ members,
      roster.tokens[member.number]? = some (.ok member.token))
    (fedAll : Matcher.feedAll pairs {} (members.map Member.token) = .ok fed) :
    (roster.feedAll pairs {} (members.map Member.number)).matcher.depth = fed.depth := by
  have empty : Matcher.Aligned pairs ({} : Matcher Member) := Matcher.aligned_empty
  have taken := (feedAll_eq empty roster (members.map Member.number)).1
  rw [readable_of_present present] at taken
  have mapped := Matcher.feedAll_map kept_token pairs {} members
  rw [taken] at mapped
  have same := fedAll.symm.trans mapped
  cases same
  exact (List.length_map _).symm

/-- In the forest of tokens that succeed, a token is as deep as the matcher counts before it. -/
theorem level_of_group
    {members : List Member} {member : Member} {index : Nat} {forest : List (Tree Token)}
    (present : ∀ member ∈ members,
      roster.tokens[member.number]? = some (.ok member.token))
    (grouped : TokenForest.group pairs (members.map Member.token) = .ok forest)
    (found : members[index]? = some member) :
    ∃ tree,
      tree.label = member.token ∧
        (Tree.levelsAll 0 forest)[index]? =
          some ((roster.feedAll pairs {} ((members.map Member.number).take index)).matcher.depth,
            tree) := by
  have foundToken : (members.map Member.token)[index]? = some member.token := by
    rw [List.getElem?_map, found]
    rfl
  rcases levels_of_group grouped foundToken with ⟨before, tree, earlier, level, label⟩
  rw [← List.map_take] at earlier
  have presentTake : ∀ other ∈ members.take index,
      roster.tokens[other.number]? = some (.ok other.token) :=
    fun other taken => present other (List.mem_of_mem_take taken)
  refine ⟨tree, label, ?_⟩
  rw [← List.map_take, depth_feedAll presentTake earlier]
  exact level

/-- Feeding one more token moves the depth with a token that has a lexeme, and else leaves it. -/
theorem follows_after
    {usage : Usage}
    (aligned : Matcher.Aligned pairs usage.matcher)
    (number : Nat) :
    let next := usage.after pairs (.feed number)
    (∀ token,
      usage.roster.tokens[number]? = some (.ok token) →
        Matcher.Follows usage.matcher.depth next.matcher.depth
          (pairs.Opens token)
          (usage.matcher.ClosesInnermost pairs { number, token })) ∧
      ((∀ token, usage.roster.tokens[number]? ≠ some (.ok token)) →
        next.matcher.depth = usage.matcher.depth) := by
  have feeds := feeds_of_aligned aligned usage.roster number
  rw [Usage.after]
  generalize usage.roster.feed pairs usage.matcher number = outcome at feeds ⊢
  cases feeds with
  | absent absent =>
      refine ⟨?_, fun _ => rfl⟩
      intro token present
      rw [absent] at present
      cases present
  | unreadable found =>
      refine ⟨?_, fun _ => rfl⟩
      intro token present
      rw [found] at present
      cases present
  | @taken token fed present feeds =>
      constructor
      · intro other again
        rw [present] at again
        cases again
        exact feeds.follows
      · intro unreadable
        exact absurd present (unreadable token)

/--
Depth means nesting.  Whenever grouping distinct tokens without children succeeds, a walk over the
forest meets each token at the depth that the matcher counts just before it is fed the token.  And
whatever was done with a matcher, the next token raises its depth by one exactly if it is an opener,
and lowers it by one exactly if it is none and has the kind of the innermost opener and the closer
that is registered for it.  A token without a lexeme is refused and leaves the depth as it is.
-/
theorem depth_counts_nesting
    (pairs : Pairs)
    (roster : Roster) :
    (∀ numbers forest,
      numbers.Nodup →
      (∀ number ∈ numbers, number < roster.tokens.length) →
      (∀ number ∈ numbers, ∀ link ∈ roster.links, link.1 ≠ number) →
      (roster.group pairs {} numbers).result = .ok forest →
        (Tree.levelsAll 0 forest).length = numbers.length ∧
          ∀ index number,
            numbers[index]? = some number →
              ∃ token tree,
                roster.tokens[number]? = some (.ok token) ∧
                  tree.label = token ∧
                  (Tree.levelsAll 0 forest)[index]? =
                    some ((roster.feedAll pairs {} (numbers.take index)).matcher.depth, tree)) ∧
      ∀ calls number,
        let usage := afterCalls pairs roster calls
        let next := usage.after pairs (.feed number)
        (∀ token,
          roster.tokens[number]? = some (.ok token) →
            Matcher.Follows usage.matcher.depth next.matcher.depth
              (pairs.Opens token)
              (usage.matcher.ClosesInnermost pairs { number, token })) ∧
          ((∀ token, roster.tokens[number]? ≠ some (.ok token)) →
            next.matcher.depth = usage.matcher.depth) := by
  constructor
  · intro numbers forest distinct listed childless succeeded
    rcases exists_members_of_group listed succeeded with ⟨members, rfl, present⟩
    rw [List.forall_mem_map] at childless
    have grouped := (group_eq_ok_iff distinct present childless).mp succeeded
    constructor
    · have labels := congrArg List.length (Tree.map_label_levelsAll 0 forest)
      rw [List.length_map, walkAll_of_group grouped, List.length_map] at labels
      rw [labels, List.length_map]
    · intro index number numbered
      rw [List.getElem?_map, Option.map_eq_some_iff] at numbered
      rcases numbered with ⟨member, found, rfl⟩
      rcases level_of_group present grouped found with ⟨tree, label, level⟩
      exact ⟨member.token, tree, present member (List.mem_of_getElem? found), label, level⟩
  · intro calls number usage next
    rcases aligned_afterCalls pairs roster calls with ⟨aligned, same⟩
    rw [← same]
    exact follows_after aligned number

theorem depth_counts_nesting_mixed :
    let roster := ofTokens (Tree.walkAll mixedForest)
    let last : Token := { kind := "mark", lexeme := ">", line := 1, start := 7, stop := 8 }
    let usage := afterCalls mixedPairs roster [.feed 1, .finish, .feed 2, .feed 4]
    groupFresh mixedPairs (Tree.walkAll mixedForest) = .ok mixedForest ∧
      (∃ tree, (Tree.levelsAll 0 mixedForest)[7]? = some (3, tree) ∧ tree.label = last) ∧
      usage.matcher.depth = 2 ∧
      (usage.after mixedPairs (.feed 7)).matcher.depth = 1 ∧
      usage.matcher.ClosesInnermost mixedPairs { number := 7, token := last } := by
  intro roster last usage
  have nesting := depth_counts_nesting mixedPairs roster
  have succeeded : groupFresh mixedPairs (Tree.walkAll mixedForest) = .ok mixedForest := rfl
  have before : usage.matcher.depth = 2 := rfl
  have lowered : (usage.after mixedPairs (.feed 7)).matcher.depth = 1 := rfl
  refine ⟨succeeded, ?_, before, lowered, ?_⟩
  · have listed : ∀ number ∈ List.range 12, number < roster.tokens.length := by
      intro number early
      exact List.mem_range.mp early
    have levels := nesting.1 (List.range 12) mixedForest List.nodup_range listed
      (fun _ _ => ofTokens_childless) succeeded
    rcases levels.2 7 7 rfl with ⟨token, tree, present, label, level⟩
    cases present
    exact ⟨tree, level, label⟩
  · have follows := (nesting.2 [.feed 1, .finish, .feed 2, .feed 4] 7).1 last rfl
    apply follows.down_iff.mp
    rw [lowered, before]

end Roster

end TokenForest
