import TokenForest.Proofs.Grouping.Gaining

/-!
# What a failed pass leaves on the tokens

A pass gives children to the tokens of the caller as it goes.  If it fails in the end, they keep
these children, and a second pass over the same tokens gives them once more.  Nothing is left only
if nothing was given: if behind an opener there are only openers.
-/

namespace TokenForest

namespace Tree

variable
    {Label Other : Type}
    {change : Tree Label → Option (Tree Other)}
    {trees : List (Tree Label)}

theorem walk_length_pos (tree : Tree Label) : 0 < tree.walk.length :=
  List.length_pos_of_mem tree.label_mem_walk

theorem walkAll_perm
    {others : List (Tree Label)}
    (perm : trees.Perm others) :
    (walkAll trees).Perm (walkAll others) := by
  rw [walkAll_eq_flatMap, walkAll_eq_flatMap]
  exact perm.flatMap_right walk

/-- Trees that do not get shorter make no shorter forest. -/
theorem walkAll_length_le
    (each :
      ∀ tree ∈ trees, ∃ other, change tree = some other ∧ tree.walk.length ≤ other.walk.length) :
    (walkAll trees).length ≤ (walkAll (trees.filterMap change)).length := by
  induction trees with
  | nil =>
      exact Nat.le_refl _
  | cons tree rest ih =>
      rw [List.forall_mem_cons] at each
      rcases each with ⟨⟨other, changed, longer⟩, later⟩
      rw [List.filterMap_cons_some changed, walkAll_cons, walkAll_cons, List.length_append,
        List.length_append]
      exact Nat.add_le_add longer (ih later)

/-- If one of the trees gets longer, so does the forest. -/
theorem walkAll_length_lt
    {tree : Tree Label}
    (each :
      ∀ tree ∈ trees, ∃ other, change tree = some other ∧ tree.walk.length ≤ other.walk.length)
    (listed : tree ∈ trees)
    (longer : ∀ other, change tree = some other → tree.walk.length < other.walk.length) :
    (walkAll trees).length < (walkAll (trees.filterMap change)).length := by
  rcases List.append_of_mem listed with ⟨before, after, rfl⟩
  rw [List.forall_mem_append, List.forall_mem_cons] at each
  rcases each with ⟨eachBefore, ⟨other, changed, _⟩, eachAfter⟩
  have first := walkAll_length_le eachBefore
  have last := walkAll_length_le eachAfter
  have grown := longer other changed
  rw [List.filterMap_append, List.filterMap_cons_some changed]
  simp only [walkAll_append, walkAll_cons, List.length_append]
  omega

end Tree

namespace Roster

variable
    {roster grown : Roster}
    {pairs : Pairs}
    {extra : List (Nat × Nat)}

/-! ## Children that are given twice -/

/-- A roster in which some of the links have been made once more. -/
structure Repeats (roster : Roster) (extra : List (Nat × Nat)) (grown : Roster) : Prop where
  tokens_eq : grown.tokens = roster.tokens
  links_perm : grown.links.Perm (roster.links ++ extra)
  known : extra ⊆ roster.links

/-- The trees that a roster shows for the links of a token. -/
def treesOf
    (roster : Roster)
    (fuel : Nat)
    (links : List (Nat × Nat))
    (number : Nat) :
    List (Tree Token) :=
  (links.filter (·.1 == number)).filterMap fun link => roster.tree fuel link.2

theorem treesOf_append
    (roster : Roster)
    (fuel : Nat)
    (links more : List (Nat × Nat))
    (number : Nat) :
    roster.treesOf fuel (links ++ more) number =
      roster.treesOf fuel links number ++ roster.treesOf fuel more number := by
  rw [treesOf, List.filter_append, List.filterMap_append]
  rfl

theorem treesOf_perm
    {links others : List (Nat × Nat)}
    (perm : links.Perm others)
    (roster : Roster)
    (fuel number : Nat) :
    (roster.treesOf fuel links number).Perm (roster.treesOf fuel others number) :=
  (perm.filter _).filterMap _

/-- The links of a token show the children that they list. -/
theorem treesOf_of_gained
    {links : List (Nat × Nat)} {number : Nat} {children : List (Tree Member)}
    (gained :
      (links.filter (·.1 == number)).map Prod.snd = children.map fun child => child.label.number)
    (roster : Roster)
    (fuel : Nat) :
    roster.treesOf fuel links number =
      children.filterMap fun child => roster.tree fuel child.label.number := by
  calc
    _ = ((links.filter (·.1 == number)).map Prod.snd).filterMap (roster.tree fuel) := by
      rw [List.filterMap_map]
      rfl
    _ = _ := by
      rw [gained, List.filterMap_map]
      rfl

/-- A token shows its children, and those that were given again. -/
theorem Repeats.exists_tree
    {member : Member} {children : List (Tree Member)}
    (repeats : roster.Repeats extra grown)
    (present : roster.tokens[member.number]? = some (.ok member.token))
    (gained :
      (roster.links.filter (·.1 == member.number)).map Prod.snd =
        children.map fun child => child.label.number)
    (fuel : Nat) :
    ∃ shown,
      grown.tree (fuel + 1) member.number = some (.node member.token shown) ∧
        (Tree.walkAll shown).length =
          (Tree.walkAll
              (children.filterMap fun child => grown.tree fuel child.label.number)).length +
            (Tree.walkAll (grown.treesOf fuel extra member.number)).length := by
  rw [← repeats.tokens_eq] at present
  refine ⟨grown.treesOf fuel grown.links member.number, ?_, ?_⟩
  · rw [tree, present]
    rfl
  · have perm := treesOf_perm repeats.links_perm grown fuel member.number
    rw [(Tree.walkAll_perm perm).length_eq, treesOf_append, treesOf_of_gained gained,
      Tree.walkAll_append, List.length_append]

theorem exists_of_mem_numbersOf_all
    {trees : List (Tree Member)} {number : Nat}
    (inside : number ∈ (Tree.walkAll trees).map Member.number) :
    ∃ tree ∈ trees, number ∈ numbersOf tree := by
  rcases List.mem_map.mp inside with ⟨member, walked, rfl⟩
  rw [Tree.walkAll_eq_flatMap, List.mem_flatMap] at walked
  rcases walked with ⟨tree, listed, walked⟩
  exact ⟨tree, listed, List.mem_map_of_mem walked⟩

/-- A child that is given again shows up again. -/
theorem Repeats.extra_length_pos
    {member : Member} {children : List (Tree Member)} {fuel child : Nat}
    (repeats : roster.Repeats extra grown)
    (gained :
      (roster.links.filter (·.1 == member.number)).map Prod.snd =
        children.map fun child => child.label.number)
    (each : ∀ child ∈ children, ∃ longer, grown.tree fuel child.label.number = some longer)
    (again : (member.number, child) ∈ extra) :
    0 < (Tree.walkAll (grown.treesOf fuel extra member.number)).length := by
  have known : child ∈ (roster.links.filter (·.1 == member.number)).map Prod.snd := by
    refine List.mem_map.mpr ⟨(member.number, child), ?_, rfl⟩
    exact List.mem_filter.mpr ⟨repeats.known again, beq_self_eq_true _⟩
  rw [gained] at known
  rcases List.mem_map.mp known with ⟨tree, listed, rfl⟩
  rcases each tree listed with ⟨longer, shown⟩
  have among : longer ∈ grown.treesOf fuel extra member.number := by
    refine List.mem_filterMap.mpr ⟨(member.number, tree.label.number), ?_, shown⟩
    exact List.mem_filter.mpr ⟨again, beq_self_eq_true _⟩
  exact Nat.lt_of_lt_of_le longer.walk_length_pos (Tree.walk_sublist_of_mem among).length_le

/--
A tree does not get shorter when links are made again, and longer if one of them is in the tree.
-/
theorem Shows.exists_longer
    {tree : Tree Member} {fuel : Nat}
    (shows : roster.Shows tree)
    (repeats : roster.Repeats extra grown)
    (enough : tree.walk.length ≤ fuel) :
    ∃ longer,
      grown.tree fuel tree.label.number = some longer ∧
        tree.walk.length ≤ longer.walk.length ∧
        ∀ link ∈ extra, link.1 ∈ numbersOf tree → tree.walk.length < longer.walk.length := by
  induction shows generalizing fuel with
  | @node member children present gained below ih =>
      rw [Tree.walk_node, List.length_cons] at enough
      cases fuel with
      | zero =>
          exact absurd enough (Nat.not_succ_le_zero _)
      | succ fuel =>
          have within : ∀ child ∈ children, child.walk.length ≤ fuel := by
            intro child listed
            have shorter := (Tree.walk_sublist_of_mem listed).length_le
            exact Nat.le_trans shorter (Nat.le_of_succ_le_succ enough)
          have each : ∀ child ∈ children, ∃ longer,
              grown.tree fuel child.label.number = some longer ∧
                child.walk.length ≤ longer.walk.length := by
            intro child listed
            rcases ih child listed (within child listed) with ⟨longer, shown, same, _⟩
            exact ⟨longer, shown, same⟩
          have own := Tree.walkAll_length_le each
          rcases repeats.exists_tree present gained fuel with ⟨shown, found, lengths⟩
          refine ⟨_, found, ?_, ?_⟩
          · simp only [Tree.walk_node, List.length_cons]
            omega
          -- The link is one of the token itself, or of a token below one of its children.
          · rintro ⟨parent, child⟩ again inside
            simp only [Tree.walk_node, List.length_cons]
            rw [numbersOf_node, List.mem_cons] at inside
            rcases inside with rfl | inside
            · have given := repeats.extra_length_pos gained
                (fun child listed => (each child listed).imp fun _ => And.left) again
              omega
            · rcases exists_of_mem_numbersOf_all inside with ⟨inner, listed, inside⟩
              have longer := Tree.walkAll_length_lt each listed (by
                intro other shown
                rcases ih inner listed (within inner listed) with ⟨longer, shownToo, _, strict⟩
                rw [shown] at shownToo
                cases shownToo
                exact strict _ again inside)
              omega

/-! ## Passes over the same tokens -/

variable {members more : List Member}

/-- Nothing was given if and only if behind an opener there are only openers. -/
theorem gains_eq_nil_iff :
    Matcher.gains pairs {} members = [] ↔ pairs.OpenersLast members :=
  Matcher.aligned_empty.gains_eq_nil_iff rfl

/-- What was given was given to tokens of the pass. -/
theorem exists_member_of_mem_gains
    {link : Nat × Nat}
    (gained : link ∈ numbered (Matcher.gains pairs {} members)) :
    ∃ member ∈ members, link.1 = member.number := by
  rcases List.mem_map.mp gained with ⟨⟨parent, child⟩, given, rfl⟩
  rcases Matcher.exists_feedAll_empty pairs members with ⟨fed, taken, _⟩
  have held := Matcher.parent_mem_of_mem_gains taken given
  rw [Matcher.taken, List.reverse_nil, Tree.walkAll_nil, List.nil_append] at held
  exact ⟨parent, held, rfl⟩

theorem childless_iff
    (childless : ∀ member ∈ members, ∀ link ∈ roster.links, link.1 ≠ member.number) :
    (∀ member ∈ members,
      ∀ link ∈ (roster.linking (Matcher.gains pairs {} members)).links, link.1 ≠ member.number) ↔
      pairs.OpenersLast members := by
  rw [← gains_eq_nil_iff]
  constructor
  · intro untouched
    rw [List.eq_nil_iff_forall_not_mem]
    intro link given
    have gained : (link.1.number, link.2.number) ∈ numbered (Matcher.gains pairs {} members) :=
      List.mem_map_of_mem given
    rcases exists_member_of_mem_gains gained with ⟨member, listed, same⟩
    exact untouched member listed _ (List.mem_append_right _ gained) same
  · intro nothing member listed link recorded
    rw [nothing, linking, numbered, List.map_nil, List.append_nil] at recorded
    exact childless member listed link recorded

/--
The second of two passes, of which the second begins with the tokens of the first, makes all links
again.
-/
theorem repeats_linking
    (roster : Roster)
    (pairs : Pairs)
    (members more : List Member) :
    let gained := Matcher.gains pairs {} members
    let whole := Matcher.gains pairs {} (members ++ more)
    (roster.linking whole).Repeats (numbered gained) ((roster.linking gained).linking whole) := by
  intro gained whole
  rcases Matcher.exists_feedAll_empty pairs members with ⟨fed, taken, _⟩
  have onwards : whole = gained ++ Matcher.gains pairs fed more := Matcher.gains_append taken more
  refine ⟨rfl, ?_, ?_⟩
  · show (roster.links ++ numbered gained ++ numbered whole).Perm
      (roster.links ++ numbered whole ++ numbered gained)
    rw [List.append_assoc, List.append_assoc]
    exact List.perm_append_comm.append_left _
  · rw [onwards, linking, numbered, numbered, List.map_append]
    intro link given
    exact List.mem_append_right _ (List.mem_append_left _ given)

/-- The forest that tokens are grouped into is recorded with what they gained. -/
theorem shows_of_group
    {forest : List (Tree Member)}
    (distinct : (members.map Member.number).Nodup)
    (present : ∀ member ∈ members,
      roster.tokens[member.number]? = some (.ok member.token))
    (childless : ∀ member ∈ members, ∀ link ∈ roster.links, link.1 ≠ member.number)
    (grouped : TokenForest.group pairs members = .ok forest) :
    ∀ tree ∈ forest,
      (roster.linking (Matcher.gains pairs {} members)).Shows tree ∧ (numbersOf tree).Nodup := by
  have fresh : ∀ member ∈ members, roster.Fresh {} member.number :=
    fun member listed => ⟨List.not_mem_nil, childless member listed⟩
  have empty : Matcher.Aligned pairs ({} : Matcher Member) := Matcher.aligned_empty
  rcases mirrors_empty.feedAll pairs empty distinct present fresh with ⟨_, taken, mirrors⟩
  have left := (feedAll_eq empty roster (members.map Member.number)).2
  rw [readable_of_present present] at left
  rw [group_eq_finish taken] at grouped
  rw [left] at mirrors
  have built := Matcher.eq_reverse_of_finish grouped
  subst built
  intro tree listed
  exact ⟨mirrors.shows tree (List.mem_reverse.mp listed),
    mirrors.distinct.sublist ((Tree.walk_sublist_of_mem listed).map Member.number)⟩

/-- A roster that shows a forest shows the tokens of the forest and nothing more. -/
theorem forestOf_eq_of_shows
    {forest : List (Tree Member)}
    (shows : ∀ tree ∈ forest, roster.Shows tree ∧ (numbersOf tree).Nodup) :
    roster.forestOf forest = forest.map (Tree.map Member.token) := by
  apply List.filterMap_eq_map_iff_forall_eq_some.mpr
  intro tree listed
  rcases shows tree listed with ⟨shown, distinct⟩
  exact shown.tree_eq (Nat.le_succ_of_le (shown.walk_length_le distinct))

/-- Where links are made again, the roster shows a longer forest. -/
theorem forestOf_longer
    {forest : List (Tree Member)} {link : Nat × Nat}
    (shows : ∀ tree ∈ forest, roster.Shows tree ∧ (numbersOf tree).Nodup)
    (repeats : roster.Repeats extra grown)
    (again : link ∈ extra)
    (inside : link.1 ∈ (Tree.walkAll forest).map Member.number) :
    (Tree.walkAll (roster.forestOf forest)).length <
      (Tree.walkAll (grown.forestOf forest)).length := by
  rw [forestOf_eq_of_shows shows, Tree.walkAll_map, List.length_map]
  have each : ∀ tree ∈ forest, ∃ longer,
      grown.tree (grown.tokens.length + 1) tree.label.number = some longer ∧
        tree.walk.length ≤ longer.walk.length ∧
        ∀ link ∈ extra, link.1 ∈ numbersOf tree → tree.walk.length < longer.walk.length := by
    intro tree listed
    rcases shows tree listed with ⟨shown, distinct⟩
    refine shown.exists_longer repeats ?_
    rw [repeats.tokens_eq]
    exact Nat.le_succ_of_le (shown.walk_length_le distinct)
  rcases exists_of_mem_numbersOf_all inside with ⟨tree, listed, inside⟩
  refine Tree.walkAll_length_lt (fun tree listed => ?_) listed ?_
  · rcases each tree listed with ⟨longer, shown, same, _⟩
    exact ⟨longer, shown, same⟩
  · intro other shown
    rcases each tree listed with ⟨longer, shownToo, _, strict⟩
    rw [shown] at shownToo
    cases shownToo
    exact strict link again inside

/-- The children that tokens have do not matter to the faults of grouping. -/
theorem group_fault_linking
    {fault : Fault (Unbalanced Token)}
    (present : ∀ member ∈ members,
      roster.tokens[member.number]? = some (.ok member.token))
    (failed : (roster.group pairs {} (members.map Member.number)).result = .error fault)
    (links : List (Member × Member)) :
    ((roster.linking links).group pairs {} (members.map Member.number)).result = .error fault := by
  have presentLinked : ∀ member ∈ members,
      (roster.linking links).tokens[member.number]? = some (.ok member.token) := present
  rw [group_of_present present] at failed
  rw [group_of_present presentLinked]
  cases grouped : TokenForest.group pairs members with
  | error own =>
      rw [grouped] at failed
      exact failed
  | ok forest =>
      rw [grouped] at failed
      cases failed

/--
Where tokens are grouped that begin with the tokens of an earlier pass, they show the right forest
if that pass gave nothing, and else a longer one.
-/
theorem group_again
    {forest : List (Tree Token)}
    (distinct : ((members ++ more).map Member.number).Nodup)
    (present : ∀ member ∈ members ++ more,
      roster.tokens[member.number]? = some (.ok member.token))
    (childless : ∀ member ∈ members ++ more, ∀ link ∈ roster.links, link.1 ≠ member.number)
    (succeeded :
      (roster.group pairs {} ((members ++ more).map Member.number)).result = .ok forest) :
    let left := roster.linking (Matcher.gains pairs {} members)
    ∃ other,
      (left.group pairs {} ((members ++ more).map Member.number)).result = .ok other ∧
        (pairs.OpenersLast members → other = forest) ∧
        (¬pairs.OpenersLast members →
          (Tree.walkAll forest).length < (Tree.walkAll other).length) := by
  intro left
  have presentLeft : ∀ member ∈ members ++ more,
      left.tokens[member.number]? = some (.ok member.token) := present
  rw [group_of_present present] at succeeded
  rw [group_of_present presentLeft]
  cases grouped : TokenForest.group pairs (members ++ more) with
  | error fault =>
      rw [grouped] at succeeded
      cases succeeded
  | ok trees =>
      rw [grouped] at succeeded
      cases succeeded
      refine ⟨_, rfl, ?_, ?_⟩
      · intro last
        have nothing : left = roster := by
          simp only [left, gains_eq_nil_iff.mpr last, linking, numbered, List.map_nil,
            List.append_nil]
        rw [nothing]
      · intro given
        rw [← gains_eq_nil_iff] at given
        rcases List.exists_mem_of_ne_nil _ given with ⟨link, made⟩
        have gained : (link.1.number, link.2.number) ∈ numbered (Matcher.gains pairs {} members) :=
          List.mem_map_of_mem made
        rcases exists_member_of_mem_gains gained with ⟨member, listed, same⟩
        refine forestOf_longer (shows_of_group distinct present childless grouped)
          (repeats_linking roster pairs members more) gained ?_
        rw [walkAll_of_group grouped, same]
        exact List.mem_map_of_mem (List.mem_append_left _ listed)

/--
A pass that fails leaves on its tokens exactly the children that it gave as it went, which is none
if and only if behind an opener there are only openers.  A second pass over the tokens, alone or
with more behind them, has the same faults as if the first had never been.  But where it answers a
forest, this is the right one only if the first pass left nothing.  Otherwise its walk is longer
than the list of the tokens.
-/
theorem failed_group_leaves_children
    (pairs : Pairs)
    (roster : Roster)
    (members : List Member)
    (present : ∀ member ∈ members,
      roster.tokens[member.number]? = some (.ok member.token))
    (childless : ∀ member ∈ members, ∀ link ∈ roster.links, link.1 ≠ member.number)
    (error : Unbalanced Token)
    (failed :
      (roster.group pairs {} (members.map Member.number)).result = .error (.reported error)) :
    let left := (roster.group pairs {} (members.map Member.number)).roster
    left = roster.linking (Matcher.gains pairs {} members) ∧
      ((∀ member ∈ members, ∀ link ∈ left.links, link.1 ≠ member.number) ↔
        pairs.OpenersLast members) ∧
      (left.group pairs {} (members.map Member.number)).result = .error (.reported error) ∧
      ∀ more : List Member,
        ((members ++ more).map Member.number).Nodup →
          (∀ member ∈ more, roster.tokens[member.number]? = some (.ok member.token)) →
            (∀ member ∈ more, ∀ link ∈ roster.links, link.1 ≠ member.number) →
              let clean := (roster.group pairs {} ((members ++ more).map Member.number)).result
              let again := (left.group pairs {} ((members ++ more).map Member.number)).result
              (∀ fault, clean = .error fault → again = .error fault) ∧
                ∀ forest, clean = .ok forest →
                  ∃ other, again = .ok other ∧
                    (pairs.OpenersLast members → other = forest) ∧
                    (¬pairs.OpenersLast members →
                      (Tree.walkAll forest).length < (Tree.walkAll other).length) := by
  intro left
  have gained : left = roster.linking (Matcher.gains pairs {} members) :=
    congrArg Pass.roster (group_of_present present pairs)
  rw [gained]
  refine ⟨rfl, childless_iff childless, group_fault_linking present failed _, ?_⟩
  intro more distinct presentMore childlessMore
  have presentAll := List.forall_mem_append.mpr ⟨present, presentMore⟩
  have childlessAll := List.forall_mem_append.mpr ⟨childless, childlessMore⟩
  exact ⟨fun fault refused => group_fault_linking presentAll refused _,
    fun forest succeeded => group_again distinct presentAll childlessAll succeeded⟩

theorem failed_group_leaves_children_nested :
    let pairs := Pairs.ofList Config.standard.pairs
    let members := nestedMembers.take 3
    let numbers := nestedMembers.map Member.number
    let pass := nestedRoster.group pairs {} (members.map Member.number)
    (∃ error, pass.result = .error (.reported error)) ∧
      ∃ forest other,
        (nestedRoster.group pairs {} numbers).result = .ok forest ∧
          (pass.roster.group pairs {} numbers).result = .ok other ∧
          (Tree.walkAll forest).length < (Tree.walkAll other).length := by
  intro pairs members numbers pass
  let error : Unbalanced Token :=
    { opener := { kind := literalKind, lexeme := "(", line := 1, start := 0, stop := 1 }
      expected := ")" }
  have failed : pass.result = .error (.reported error) := rfl
  have left := failed_group_leaves_children pairs nestedRoster members
    (by simp [members, nestedMembers, nestedRoster]) (by simp [nestedRoster]) error failed
  have again := left.2.2.2 (nestedMembers.drop 3) (by simp [members, nestedMembers])
    (by simp [nestedMembers, nestedRoster]) (by simp [nestedRoster])
  have grouped : ∃ forest,
      (nestedRoster.group pairs {} ((members ++ nestedMembers.drop 3).map Member.number)).result =
        .ok forest := ⟨_, rfl⟩
  rcases grouped with ⟨forest, grouped⟩
  rcases again.2 forest grouped with ⟨other, shown, _, longer⟩
  refine ⟨⟨error, failed⟩, forest, other, grouped, shown, longer ?_⟩
  rw [← gains_eq_nil_iff]
  exact List.cons_ne_nil _ _

/-- The first two tokens of a group are grouped, which fails, and then all three. -/
theorem failed_group_is_visible :
    let pairs : Pairs := [(("lit", "("), ")")]
    let literal (start : Nat) : Stretch := { kind := "lit", line := 1, start, stop := start + 1 }
    let roster := ofStretches { text := "(+)".toList } [literal 0, literal 1, literal 2]
    let lexemes (pass : Pass) : Option (List String) :=
      pass.result.toOption.map fun forest => (Tree.walkAll forest).map Token.lexeme
    let pass := roster.group pairs {} [0, 1]
    (∃ error, pass.result = .error (.reported error)) ∧
      pass.roster.links = [(0, 1)] ∧
      lexemes (roster.group pairs {} [0, 1, 2]) = some ["(", "+", ")"] ∧
      lexemes (pass.roster.group pairs {} [0, 1, 2]) = some ["(", "+", "+", ")"] := by
  intro pairs literal roster lexemes pass
  exact ⟨⟨_, rfl⟩, by decide +kernel, by decide +kernel, by decide +kernel⟩

end Roster

end TokenForest
