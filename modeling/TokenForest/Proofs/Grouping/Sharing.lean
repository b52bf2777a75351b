import Mathlib.Data.List.Nodup
import Mathlib.Data.List.Perm.Subperm
import TokenForest.Grouping.Shared
import TokenForest.Proofs.Grouping.Relabeling

/-!
# Grouping tokens that a caller owns

A matcher that is fed tokens of a roster gives children to the tokens themselves.  While the tokens
are distinct and had no children before, the trees that the matcher builds and the children that the
roster records are the same thing said twice: below each node of a tree stand the tokens that the
node has gained, in the order in which it gained them.  `Mirrors` says so, and every token that is
fed preserves it.  So the forest that the roster shows in the end is the forest of the tokens
themselves.
-/

namespace TokenForest

/-- Members are grouped by the tokens that they are. -/
theorem kept_token : Lexical.Kept Member.token where
  kind_eq _ := rfl
  lexeme_eq _ := rfl

namespace Roster

/-- The roster after one token has become the last child of another. -/
def link (roster : Roster) (parent child : Nat) : Roster :=
  { roster with links := roster.links ++ [(parent, child)] }

/-- The roster records the tree: each token in it, and below each node what the node has gained. -/
inductive Shows (roster : Roster) : Tree Member → Prop where
  | node
      {member : Member} {children : List (Tree Member)}
      (present : roster.tokens[member.number]? = some (.ok member.token))
      (gained :
        (roster.links.filter (·.1 == member.number)).map Prod.snd =
          children.map fun child => child.label.number)
      (below : ∀ child ∈ children, Shows roster child) :
      Shows roster (.node member children)

/-- The numbers of the tokens in a tree. -/
def numbersOf (tree : Tree Member) : List Nat := tree.walk.map Member.number

variable {roster : Roster}

@[simp]
theorem numbersOf_node
    (member : Member)
    (children : List (Tree Member)) :
    numbersOf (.node member children) =
      member.number :: (Tree.walkAll children).map Member.number := by
  rw [numbersOf, Tree.walk_node, List.map_cons]

theorem number_label_mem (tree : Tree Member) : tree.label.number ∈ numbersOf tree :=
  List.mem_map_of_mem tree.label_mem_walk

theorem numbersOf_sublist
    {child : Tree Member} {children : List (Tree Member)}
    (listed : child ∈ children) :
    (numbersOf child).Sublist ((Tree.walkAll children).map Member.number) :=
  (Tree.walk_sublist_of_mem listed).map Member.number

/-- A token without children is recorded as a leaf. -/
theorem Shows.leaf
    {member : Member}
    (present : roster.tokens[member.number]? = some (.ok member.token))
    (childless : ∀ link ∈ roster.links, link.1 ≠ member.number) :
    roster.Shows (.leaf member) := by
  refine .node present ?_ (by simp)
  rw [List.map_nil, List.map_eq_nil_iff, List.filter_eq_nil_iff]
  intro link recorded
  simpa using childless link recorded

/-- A tree stays recorded when a token outside it gains a child. -/
theorem Shows.link_of_notMem
    {tree : Tree Member} {parent : Nat}
    (shows : roster.Shows tree)
    (outside : parent ∉ numbersOf tree)
    (child : Nat) :
    (roster.link parent child).Shows tree := by
  induction shows with
  | @node member children present gained below ih =>
      rw [numbersOf_node, List.mem_cons, not_or] at outside
      refine .node present ?_ ?_
      · have other : (parent == member.number) = false := by simpa using outside.1
        rw [link, List.filter_append, List.filter_cons_of_neg (by simp [other]), List.filter_nil,
          List.append_nil, gained]
      · intro inner listed
        apply ih inner listed
        intro inside
        exact outside.2 ((numbersOf_sublist listed).subset inside)

/-- A tree that adopts another is recorded when its top has gained the other. -/
theorem Shows.adopt
    {tree child : Tree Member}
    (shows : roster.Shows tree)
    (childShows : roster.Shows child)
    (distinct : (numbersOf (tree.adopt child)).Nodup) :
    (roster.link tree.label.number child.label.number).Shows (tree.adopt child) := by
  cases shows with
  | @node member children present gained below =>
      rw [Tree.adopt, numbersOf_node, List.nodup_cons, Tree.walkAll_append, List.map_append,
        List.mem_append, not_or] at distinct
      rcases distinct with ⟨⟨outsideChildren, outsideChild⟩, _⟩
      refine .node present ?_ ?_
      · rw [link, List.filter_append, List.map_append, gained, List.map_append]
        simp [Tree.label]
      · intro inner listed
        rcases List.mem_append.mp listed with earlier | last
        · apply (below inner earlier).link_of_notMem
          intro inside
          exact outsideChildren ((numbersOf_sublist earlier).subset inside)
        · rw [List.mem_singleton] at last
          subst last
          apply childShows.link_of_notMem
          simpa [numbersOf, Tree.label] using outsideChild

/-- The tree of a token that is recorded is read off the links. -/
theorem Shows.tree_eq
    {tree : Tree Member} {fuel : Nat}
    (shows : roster.Shows tree)
    (enough : tree.walk.length ≤ fuel) :
    roster.tree fuel tree.label.number = some (tree.map Member.token) := by
  induction shows generalizing fuel with
  | @node member children present gained below ih =>
      rw [Tree.walk_node, List.length_cons] at enough
      cases fuel with
      | zero =>
          exact absurd enough (Nat.not_succ_le_zero _)
      | succ fuel =>
          have each : ∀ child ∈ children,
              roster.tree fuel child.label.number = some (child.map Member.token) := by
            intro child listed
            have shorter := (Tree.walk_sublist_of_mem listed).length_le
            exact ih child listed (Nat.le_trans shorter (Nat.le_of_succ_le_succ enough))
          have gathered :
              ((roster.links.filter (·.1 == member.number)).filterMap fun link =>
                roster.tree fuel link.2) = children.map (Tree.map Member.token) := by
            calc
              _ = ((roster.links.filter (·.1 == member.number)).map Prod.snd).filterMap
                    (roster.tree fuel) := by
                rw [List.filterMap_map]
                rfl
              _ = children.filterMap fun child => roster.tree fuel child.label.number := by
                rw [gained, List.filterMap_map]
                rfl
              _ = children.map (Tree.map Member.token) :=
                List.filterMap_eq_map_iff_forall_eq_some.mpr each
          simp only [Tree.label, Roster.tree, present, gathered, Tree.map_node]

/-! ## The matcher and the roster -/

/-- The roster records what the matcher has built, and no token is in two places. -/
structure Mirrors (roster : Roster) (matcher : Matcher Member) : Prop where
  shows : ∀ tree ∈ matcher.built, roster.Shows tree
  distinct : (matcher.taken.map Member.number).Nodup

/-- The token of a number has not been taken, and nothing has been given to it. -/
structure Fresh (roster : Roster) (matcher : Matcher Member) (number : Nat) : Prop where
  untaken : number ∉ matcher.taken.map Member.number
  childless : ∀ link ∈ roster.links, link.1 ≠ number

/-- The roster after a matcher has been fed a member. -/
def gain
    (pairs : Pairs)
    (roster : Roster)
    (matcher : Matcher Member)
    (member : Member) :
    Roster :=
  { roster with
    links :=
      roster.links ++ (matcher.links pairs member).map fun link => (link.1.number, link.2.number) }

/-- The tokens of one tree are in no other one. -/
theorem notMem_numbersOf
    {tree other : Tree Member} {rest : List (Tree Member)} {number : Nat}
    (spread : ((Tree.walkAll (tree :: rest)).map Member.number).Nodup)
    (inside : number ∈ numbersOf tree)
    (listed : other ∈ rest) :
    number ∉ numbersOf other := by
  rw [Tree.walkAll_cons, List.map_append] at spread
  have apart := List.disjoint_of_nodup_append spread
  intro elsewhere
  exact apart inside ((numbersOf_sublist listed).subset elsewhere)

theorem gain_eq_self
    {pairs : Pairs} {matcher : Matcher Member} {member : Member}
    (none : matcher.links pairs member = []) :
    gain pairs roster matcher member = roster := by
  rw [gain, none, List.map_nil, List.append_nil]

theorem gain_eq_link
    {pairs : Pairs} {matcher : Matcher Member} {member parent child : Member}
    (one : matcher.links pairs member = [(parent, child)]) :
    gain pairs roster matcher member = roster.link parent.number child.number := by
  rw [gain, one]
  rfl

/-- A forest stays recorded when its first tree adopts another that is recorded. -/
theorem Shows.forall_adopt
    {tree child : Tree Member} {rest : List (Tree Member)}
    (shows : ∀ other ∈ tree :: rest, roster.Shows other)
    (childShows : roster.Shows child)
    (spread : ((Tree.walkAll (tree.adopt child :: rest)).map Member.number).Nodup) :
    ∀ other ∈ tree.adopt child :: rest,
      (roster.link tree.label.number child.label.number).Shows other := by
  rw [List.forall_mem_cons] at shows ⊢
  constructor
  · apply shows.1.adopt childShows
    rw [Tree.walkAll_cons, List.map_append] at spread
    exact spread.of_append_left
  · intro other listed
    apply (shows.2 other listed).link_of_notMem
    have inside := number_label_mem (tree.adopt child)
    rw [Tree.label_adopt] at inside
    exact notMem_numbersOf spread inside listed

/-- In every way of taking a fresh member, the roster goes on recording what is built. -/
theorem Mirrors.feeds
    {pairs : Pairs} {matcher fed : Matcher Member} {member : Member}
    (mirrors : Mirrors roster matcher)
    (feeds : matcher.Feeds pairs member fed)
    (fresh : roster.Fresh matcher member.number)
    (present : roster.tokens[member.number]? = some (.ok member.token)) :
    Mirrors (gain pairs roster matcher member) fed := by
  have distinct : (fed.taken.map Member.number).Nodup := by
    rw [feeds.taken_eq, List.map_append]
    apply List.Nodup.append mirrors.distinct (by simp)
    simpa using fresh.untaken
  have spread : ((Tree.walkAll fed.built).map Member.number).Nodup :=
    (fed.walkAll_built_perm.map Member.number).nodup_iff.mpr distinct
  have shows := mirrors.shows
  have leaf : roster.Shows (.leaf member) := .leaf present fresh.childless
  refine ⟨?_, distinct⟩
  cases feeds with
  | opens opener =>
      rw [gain_eq_self (by simp [Matcher.links, opener])]
      exact List.forall_mem_cons.mpr ⟨leaf, shows⟩
  | stands plain =>
      rw [gain_eq_self (by simp [Matcher.links])]
      exact List.forall_mem_cons.mpr ⟨leaf, shows⟩
  | @joins top below opener outer _ plain unclosing =>
      have one : Matcher.links pairs
          { built := top :: below, pending := opener :: outer } member =
            [(top.label, member)] := by
        simp [Matcher.links, plain, unclosing]
      rw [gain_eq_link one]
      exact Shows.forall_adopt shows leaf spread
  | @ends top below opener _ plain closing =>
      have one : Matcher.links pairs
          { built := top :: below, pending := [opener] } member =
            [(top.label, member)] := by
        simp [Matcher.links, plain, closing]
      rw [gain_eq_link one]
      exact Shows.forall_adopt shows leaf spread
  | @returns top parent below opener enclosing outer _ plain closing =>
      have gained : gain pairs roster
          { built := top :: parent :: below, pending := opener :: enclosing :: outer } member =
            (roster.link top.label.number member.number).link
              parent.label.number (top.adopt (.leaf member)).label.number := by
        simp [gain, link, Matcher.links, plain, closing]
      have before : ((Tree.walkAll (top.adopt (.leaf member) :: parent :: below)).map
          Member.number).Nodup := by
        refine List.Perm.nodup ?_ spread
        apply List.Perm.map
        rw [Tree.walkAll_cons, Tree.walk_adopt, List.append_assoc, Tree.walkAll_cons,
          Tree.walkAll_cons]
        exact List.perm_append_comm_assoc _ _ _
      have inner := Shows.forall_adopt shows leaf before
      rw [List.forall_mem_cons] at inner
      rw [gained]
      exact Shows.forall_adopt inner.2 inner.1 spread

/-- Feeding a fresh member leaves every other one fresh. -/
theorem Fresh.feeds
    {pairs : Pairs} {matcher fed : Matcher Member} {member : Member} {number : Nat}
    (fresh : roster.Fresh matcher number)
    (feeds : matcher.Feeds pairs member fed)
    (other : number ≠ member.number) :
    (gain pairs roster matcher member).Fresh fed number := by
  have untaken : number ∉ fed.taken.map Member.number := by
    rw [feeds.taken_eq, List.map_append, List.mem_append, not_or]
    exact ⟨fresh.untaken, by simpa using other⟩
  refine ⟨untaken, ?_⟩
  intro link recorded
  rcases List.mem_append.mp recorded with before | gained
  · exact fresh.childless link before
  · rcases List.mem_map.mp gained with ⟨⟨parent, child⟩, linked, rfl⟩
    intro same
    apply fresh.untaken
    rw [← same]
    exact List.mem_map_of_mem (Matcher.parent_mem_taken linked)

/-- Feeding a number is feeding the member of that number to the matcher. -/
theorem feed_eq
    {pairs : Pairs} {matcher : Matcher Member} {member : Member}
    (present : roster.tokens[member.number]? = some (.ok member.token)) :
    roster.feed pairs matcher member.number =
      (matcher.feed pairs member).map fun fed => (gain pairs roster matcher member, fed) := by
  simp only [feed, present]
  cases matcher.feed pairs member with
  | error breakdown =>
      rfl
  | ok fed =>
      rfl

/-- What is fed to an aligned matcher is taken, and the roster goes on recording what is built. -/
theorem Mirrors.feedAll
    {matcher : Matcher Member} {members : List Member}
    (mirrors : Mirrors roster matcher)
    (pairs : Pairs)
    (aligned : Matcher.Aligned pairs matcher)
    (distinct : (members.map Member.number).Nodup)
    (present : ∀ member ∈ members,
      roster.tokens[member.number]? = some (.ok member.token))
    (fresh : ∀ member ∈ members, roster.Fresh matcher member.number) :
    let fed := roster.feedAll pairs matcher (members.map Member.number)
    fed.error = none ∧
      matcher.feedAll pairs members = .ok fed.matcher ∧
      fed.roster.Mirrors fed.matcher := by
  induction members generalizing roster matcher with
  | nil =>
      exact ⟨rfl, rfl, mirrors⟩
  | cons member rest ih =>
      rw [List.forall_mem_cons] at present fresh
      rw [List.map_cons, List.nodup_cons] at distinct
      rcases aligned.exists_feeds member with ⟨middle, feeds⟩
      have freshRest : ∀ other ∈ rest,
          (gain pairs roster matcher member).Fresh middle other.number := by
        intro other listed
        apply (fresh.2 other listed).feeds feeds
        intro same
        exact distinct.1 (same ▸ List.mem_map_of_mem listed)
      have later := ih (mirrors.feeds feeds fresh.1 present.1) (feeds.aligned aligned)
        distinct.2 present.2 freshRest
      have fed : roster.feed pairs matcher member.number =
          .ok (gain pairs roster matcher member, middle) := by
        rw [feed_eq present.1, feeds.feed_eq]
        rfl
      rw [List.map_cons, Roster.feedAll, fed]
      rw [Matcher.feedAll_cons, feeds.feed_eq]
      exact later

/-! ## The forest of the roster -/

theorem Shows.number_lt
    {tree : Tree Member}
    (shows : roster.Shows tree)
    {number : Nat}
    (inside : number ∈ numbersOf tree) :
    number < roster.tokens.length := by
  induction shows with
  | @node member children present gained below ih =>
      rw [numbersOf_node, List.mem_cons] at inside
      rcases inside with rfl | inside
      · exact (List.getElem?_eq_some_iff.mp present).1
      · rw [Tree.walkAll_eq_flatMap, List.map_flatMap, List.mem_flatMap] at inside
        rcases inside with ⟨child, listed, inside⟩
        exact ih child listed inside

/-- A tree without repetitions has no more nodes than the roster has tokens. -/
theorem Shows.walk_length_le
    {tree : Tree Member}
    (shows : roster.Shows tree)
    (distinct : (numbersOf tree).Nodup) :
    tree.walk.length ≤ roster.tokens.length := by
  have bounded : numbersOf tree ⊆ List.range roster.tokens.length := by
    intro number inside
    exact List.mem_range.mpr (shows.number_lt inside)
  have fewer := (distinct.subperm bounded).length_le
  rwa [numbersOf, List.length_map, List.length_range] at fewer

/-- The roster shows the forest that the matcher has built. -/
theorem Mirrors.forestOf_eq
    {matcher : Matcher Member}
    (mirrors : Mirrors roster matcher) :
    roster.forestOf matcher.built.reverse =
      matcher.built.reverse.map (Tree.map Member.token) := by
  apply List.filterMap_eq_map_iff_forall_eq_some.mpr
  intro tree listed
  have shows := mirrors.shows tree (List.mem_reverse.mp listed)
  have distinct : (numbersOf tree).Nodup :=
    mirrors.distinct.sublist ((Tree.walk_sublist_of_mem listed).map Member.number)
  exact shows.tree_eq (Nat.le_succ_of_le (shows.walk_length_le distinct))

theorem mirrors_empty : roster.Mirrors {} where
  shows := by simp
  distinct := List.nodup_nil

/--
What the caller sees of what a matcher finishes with: the tokens without their numbers, and an
opener that is reported without its value.
-/
def seen
    (outcome : Except (Fault (Unbalanced Member)) (List (Tree Member))) :
    Except (Fault (Unbalanced Token)) (List (Tree Token)) :=
  (outcome.map (List.map (Tree.map Member.token))).mapError (Fault.map unbalanced)

/-- While the roster records what is built, the caller sees what the matcher finishes with. -/
theorem Mirrors.finish_result
    {matcher : Matcher Member}
    (mirrors : Mirrors roster matcher)
    (pairs : Pairs) :
    (roster.finish pairs matcher).result = seen (matcher.finish pairs).1 := by
  have answer : (roster.finish pairs matcher).result =
      ((matcher.finish pairs).1.map roster.forestOf).mapError (Fault.map unbalanced) := rfl
  rw [answer]
  cases finished : (matcher.finish pairs).1 with
  | ok forest =>
      have forest_eq := Matcher.eq_reverse_of_finish finished
      subst forest_eq
      have shown := mirrors.forestOf_eq
      show Except.ok (roster.forestOf matcher.built.reverse) =
        Except.ok (matcher.built.reverse.map (Tree.map Member.token))
      rw [shown]
  | error fault =>
      cases fault with
      | reported error =>
          rfl
      | broken breakdown =>
          rfl

theorem seen_group
    (pairs : Pairs)
    (members : List Member) :
    seen (TokenForest.group pairs members) =
      (TokenForest.group pairs (members.map Member.token)).mapError
        (Fault.map (Unbalanced.map Token.reduced)) := by
  rw [group_map kept_token]
  cases TokenForest.group pairs members with
  | ok forest =>
      rfl
  | error fault =>
      cases fault with
      | reported error =>
          rfl
      | broken breakdown =>
          rfl

/--
Grouping distinct tokens without children answers what grouping the tokens by themselves does; only
an opener is reported without its value.
-/
theorem group_result
    {pairs : Pairs} {members : List Member}
    (distinct : (members.map Member.number).Nodup)
    (present : ∀ member ∈ members,
      roster.tokens[member.number]? = some (.ok member.token))
    (childless : ∀ member ∈ members, ∀ link ∈ roster.links, link.1 ≠ member.number) :
    (roster.group pairs {} (members.map Member.number)).result =
      (TokenForest.group pairs (members.map Member.token)).mapError
        (Fault.map (Unbalanced.map Token.reduced)) := by
  have fresh : ∀ member ∈ members, roster.Fresh {} member.number :=
    fun member listed => ⟨List.not_mem_nil, childless member listed⟩
  rcases mirrors_empty.feedAll pairs Matcher.aligned_empty distinct present fresh with
    ⟨unbroken, taken, mirrors⟩
  rw [← seen_group, group_eq_finish taken, ← mirrors.finish_result]
  simp only [group, unbroken]

/--
Whenever grouping distinct tokens without children succeeds, the forest that the roster then shows
holds exactly these tokens: a walk over it meets each of them once, unchanged and in its order.
-/
theorem group_preserves_tokens
    (pairs : Pairs)
    (roster : Roster)
    (members : List Member)
    (distinct : (members.map Member.number).Nodup)
    (present : ∀ member ∈ members,
      roster.tokens[member.number]? = some (.ok member.token))
    (childless : ∀ member ∈ members, ∀ link ∈ roster.links, link.1 ≠ member.number)
    (forest : List (Tree Token))
    (succeeded : (roster.group pairs {} (members.map Member.number)).result = .ok forest) :
    Tree.walkAll forest = members.map Member.token := by
  rw [group_result distinct present childless] at succeeded
  cases grouped : TokenForest.group pairs (members.map Member.token) with
  | ok other =>
      rw [grouped] at succeeded
      cases succeeded
      exact walkAll_of_group grouped
  | error fault =>
      rw [grouped] at succeeded
      cases succeeded

/-- A group inside another and a token behind them, as they stand in `((x))y`. -/
def nestedMembers : List Member :=
  let member (number : Nat) (lexeme : String) : Member :=
    { number
      token := { kind := literalKind, lexeme, line := 1, start := number, stop := number + 1 } }
  [member 0 "(", member 1 "(", member 2 "x", member 3 ")", member 4 ")", member 5 "y"]

def nestedRoster : Roster :=
  { tokens := nestedMembers.map fun member => .ok member.token }

theorem group_preserves_tokens_nested :
    ∃ forest,
      (nestedRoster.group (Pairs.ofList Config.standard.pairs) {}
        (nestedMembers.map Member.number)).result = .ok forest ∧
          Tree.walkAll forest = nestedMembers.map Member.token := by
  refine ⟨_, rfl, group_preserves_tokens (Pairs.ofList Config.standard.pairs) nestedRoster
    nestedMembers ?_ ?_ ?_ _ rfl⟩
  · decide
  · simp [nestedMembers, nestedRoster]
  · simp [nestedRoster]

end Roster

end TokenForest
