import TokenForest.Proofs.Grouping.Usage

/-!
# What a pass takes and gives

What feeding does to a matcher and to the tokens of a roster depends on the tokens alone, and not on
the children that they have.  The matcher takes the tokens before the first that has no lexeme, and
each token that comes gives some of them new children.  `Matcher.gains` lists the children that a
whole run of tokens gives, and it comes behind the children that the tokens had before.
-/

namespace TokenForest

open Lexical (kind lexeme)

variable
    {Item : Type}
    [Lexical Item]
    {pairs : Pairs}

/-- A token that begins a group. -/
def Pairs.Opens (pairs : Pairs) (item : Item) : Prop :=
  pairs.closer? (kind item) (lexeme item) ≠ none

/-- Behind an opener there are only openers. -/
def Pairs.OpenersLast (pairs : Pairs) (items : List Item) : Prop :=
  items.Pairwise fun first later => pairs.Opens first → pairs.Opens later

namespace Matcher

variable
    {matcher fed : Matcher Item}
    {item : Item}
    {items : List Item}

/--
The children that tokens gain while tokens come one after another, as pairs of parent and child.
-/
def gains (pairs : Pairs) : (matcher : Matcher Item) → (items : List Item) → List (Item × Item)
  | _, [] => []
  | matcher, item :: rest =>
    matcher.links pairs item ++
      match matcher.feed pairs item with
      | .ok fed => gains pairs fed rest
      | .error _ => []

theorem Feeds.gains_cons
    (feeds : Feeds pairs matcher item fed)
    (rest : List Item) :
    gains pairs matcher (item :: rest) = matcher.links pairs item ++ gains pairs fed rest := by
  rw [gains, feeds.feed_eq]

/-- What comes later does not change what is gained before. -/
theorem gains_append
    (taken : matcher.feedAll pairs items = .ok fed)
    (more : List Item) :
    gains pairs matcher (items ++ more) = gains pairs matcher items ++ gains pairs fed more := by
  induction items generalizing matcher with
  | nil =>
      cases taken
      rfl
  | cons item rest ih =>
      rcases feedAll_cons_eq_ok_iff.mp taken with ⟨middle, first, later⟩
      have feeds := feeds_of_feed first
      rw [List.cons_append, feeds.gains_cons, feeds.gains_cons, ih later, List.append_assoc]

/-- Only a token that was taken before or comes now gains a child. -/
theorem parent_mem_of_mem_gains
    {parent child : Item}
    (taken : matcher.feedAll pairs items = .ok fed)
    (gained : (parent, child) ∈ gains pairs matcher items) :
    parent ∈ matcher.taken ++ items := by
  induction items generalizing matcher with
  | nil =>
      cases gained
  | cons item rest ih =>
      rcases feedAll_cons_eq_ok_iff.mp taken with ⟨middle, first, later⟩
      have feeds := feeds_of_feed first
      rw [feeds.gains_cons] at gained
      rcases List.mem_append.mp gained with now | onwards
      · exact List.mem_append_left _ (parent_mem_taken now)
      · have held := ih later onwards
        rwa [feeds.taken_eq, List.append_assoc] at held

/-! ## Runs that give nothing -/

/-- A token gives no children if it is an opener or stands where no group is open. -/
theorem Feeds.links_eq_nil_iff
    (feeds : Feeds pairs matcher item fed) :
    matcher.links pairs item = [] ↔ pairs.Opens item ∨ matcher.pending = [] := by
  cases feeds with
  | opens opener =>
      simp [links, Pairs.Opens, opener]
  | stands plain =>
      simp [links]
  | joins plain unclosing =>
      simp [links, Pairs.Opens, plain]
  | ends plain closing =>
      simp [links, Pairs.Opens, plain]
  | returns plain closing =>
      simp [links, Pairs.Opens, plain]

theorem Feeds.pending_of_opens
    (feeds : Feeds pairs matcher item fed)
    (opens : pairs.Opens item) :
    fed.pending = item :: matcher.pending := by
  cases feeds with
  | opens opener =>
      rfl
  | stands plain =>
      exact absurd plain opens
  | joins plain unclosing =>
      exact absurd plain opens
  | ends plain closing =>
      exact absurd plain opens
  | returns plain closing =>
      exact absurd plain opens

theorem Feeds.pending_of_stands
    (feeds : Feeds pairs matcher item fed)
    (plain : ¬pairs.Opens item)
    (closed : matcher.pending = []) :
    fed.pending = [] := by
  cases feeds with
  | opens opener =>
      exact absurd (by simp [Pairs.Opens, opener]) plain
  | stands plain =>
      rfl
  | joins plain unclosing =>
      cases closed
  | ends plain closing =>
      cases closed
  | returns plain closing =>
      cases closed

/-- Where a group is open, tokens give no children if they are all openers. -/
theorem Aligned.gains_eq_nil_iff_of_open
    (aligned : Aligned pairs matcher)
    (opened : matcher.pending ≠ []) :
    gains pairs matcher items = [] ↔ ∀ item ∈ items, pairs.Opens item := by
  induction items generalizing matcher with
  | nil =>
      simp [gains]
  | cons item rest ih =>
      rcases aligned.exists_feeds item with ⟨fed, feeds⟩
      rw [feeds.gains_cons, List.append_eq_nil_iff, feeds.links_eq_nil_iff, or_iff_left opened,
        List.forall_mem_cons]
      refine and_congr_right ?_
      intro opens
      refine ih (feeds.aligned aligned) ?_
      rw [feeds.pending_of_opens opens]
      exact List.cons_ne_nil _ _

/-- Where no group is open, tokens give no children if behind an opener all are openers. -/
theorem Aligned.gains_eq_nil_iff
    (aligned : Aligned pairs matcher)
    (closed : matcher.pending = []) :
    gains pairs matcher items = [] ↔ pairs.OpenersLast items := by
  induction items generalizing matcher with
  | nil =>
      simp [gains, Pairs.OpenersLast]
  | cons item rest ih =>
      rcases aligned.exists_feeds item with ⟨fed, feeds⟩
      have silent : matcher.links pairs item = [] := feeds.links_eq_nil_iff.mpr (.inr closed)
      rw [feeds.gains_cons, silent, List.nil_append, Pairs.OpenersLast, List.pairwise_cons]
      by_cases opens : pairs.Opens item
      · have opened : fed.pending ≠ [] := by
          rw [feeds.pending_of_opens opens]
          exact List.cons_ne_nil _ _
        rw [(feeds.aligned aligned).gains_eq_nil_iff_of_open opened]
        constructor
        · intro all
          exact ⟨fun later listed _ => all later listed,
            List.pairwise_of_forall_mem_list fun _ _ later listed _ => all later listed⟩
        · rintro ⟨all, _⟩ later listed
          exact all later listed opens
      · rw [ih (feeds.aligned aligned) (feeds.pending_of_stands opens closed)]
        constructor
        · intro pairwise
          exact ⟨fun _ _ contrary => absurd contrary opens, pairwise⟩
        · rintro ⟨_, pairwise⟩
          exact pairwise

end Matcher

namespace Roster

variable
    {roster : Roster}
    {pairs : Pairs}
    {matcher : Matcher Member}
    {numbers : List Nat}

/-! ## What a pass over a roster takes and gives -/

/-- The tokens that a pass takes: those before the first that has no lexeme. -/
def readable (roster : Roster) (numbers : List Nat) : List Member :=
  (numbers.takeWhile fun number => (roster.unreadable? number).isNone).filterMap roster.member?

theorem readable_cons_of_absent
    {number : Nat}
    (absent : roster.tokens[number]? = none)
    (rest : List Nat) :
    roster.readable (number :: rest) = roster.readable rest := by
  have refused : roster.member? number = none := by
    rw [member?, absent]
  rw [readable, List.takeWhile_cons, unreadable?, absent, Option.isNone_none, if_pos rfl,
    List.filterMap_cons_none refused, readable]

theorem readable_cons_of_unreadable
    {number : Nat} {error : Text.Utf8.DecodeError}
    (found : roster.tokens[number]? = some (.error error))
    (rest : List Nat) :
    roster.readable (number :: rest) = [] := by
  rw [readable, List.takeWhile_cons, unreadable?, found, Option.isNone_some,
    if_neg Bool.false_ne_true, List.filterMap_nil]

theorem readable_cons_of_present
    {number : Nat} {token : Token}
    (present : roster.tokens[number]? = some (.ok token))
    (rest : List Nat) :
    roster.readable (number :: rest) = { number, token } :: roster.readable rest := by
  have found : roster.member? number = some { number, token } := by
    rw [member?, present]
  rw [readable, List.takeWhile_cons, unreadable?, present, Option.isNone_none, if_pos rfl,
    List.filterMap_cons_some found, readable]

theorem readable_of_present
    {members : List Member}
    (present : ∀ member ∈ members,
      roster.tokens[member.number]? = some (.ok member.token)) :
    roster.readable (members.map Member.number) = members := by
  induction members with
  | nil =>
      rfl
  | cons member rest ih =>
      rw [List.forall_mem_cons] at present
      rw [List.map_cons, readable_cons_of_present present.1, ih present.2]

/-- Links between members, as links between their numbers. -/
def numbered (links : List (Member × Member)) : List (Nat × Nat) :=
  links.map fun link => (link.1.number, link.2.number)

/-- What feeding tokens takes and gives, up to the first that has no lexeme. -/
theorem feedAll_eq
    (aligned : Matcher.Aligned pairs matcher)
    (roster : Roster)
    (numbers : List Nat) :
    let fed := roster.feedAll pairs matcher numbers
    Matcher.feedAll pairs matcher (roster.readable numbers) = .ok fed.matcher ∧
      fed.roster =
        { roster with
          links := roster.links ++ numbered (matcher.gains pairs (roster.readable numbers)) } := by
  induction numbers generalizing roster matcher with
  | nil =>
      exact ⟨rfl, by simp [feedAll, readable, Matcher.gains, numbered]⟩
  | cons number rest ih =>
      have feeds := feeds_of_aligned aligned roster number
      rw [feedAll]
      generalize roster.feed pairs matcher number = outcome at feeds ⊢
      cases feeds with
      | absent absent =>
          rw [readable_cons_of_absent absent]
          exact ih aligned roster
      | unreadable found =>
          rw [readable_cons_of_unreadable found]
          exact ⟨rfl, by simp [Matcher.gains, numbered]⟩
      | @taken token fed present feeds =>
          rcases ih (feeds.aligned aligned) (gain pairs roster matcher { number, token }) with
            ⟨taken, gained⟩
          rw [readable_cons_of_present present, Matcher.feedAll_cons, feeds.feed_eq,
            feeds.gains_cons]
          refine ⟨taken, gained.trans ?_⟩
          rw [numbered, numbered, List.map_append, ← List.append_assoc]
          rfl

theorem finish_eq
    (pairs : Pairs)
    (roster : Roster)
    (matcher : Matcher Member) :
    roster.finish pairs matcher =
      { result := ((matcher.finish pairs).1.map roster.forestOf).mapError (Fault.map unbalanced)
        roster
        matcher := (matcher.finish pairs).2 } :=
  rfl

/-- The roster with some links between members behind its own. -/
def linking (roster : Roster) (links : List (Member × Member)) : Roster :=
  { roster with links := roster.links ++ numbered links }

/--
A pass over tokens with lexemes groups them, and the roster shows the forest with what it gained.
-/
theorem group_of_present
    {members : List Member}
    (present : ∀ member ∈ members,
      roster.tokens[member.number]? = some (.ok member.token))
    (pairs : Pairs) :
    let gained := roster.linking (Matcher.gains pairs {} members)
    roster.group pairs {} (members.map Member.number) =
      { result :=
          ((TokenForest.group pairs members).map gained.forestOf).mapError (Fault.map unbalanced)
        roster := gained
        matcher := {} } := by
  intro gained
  have empty : Matcher.Aligned pairs ({} : Matcher Member) := Matcher.aligned_empty
  have unbroken : (roster.feedAll pairs {} (members.map Member.number)).error = none := by
    rw [feedAll_error empty, List.findSome?_eq_none_iff, List.forall_mem_map]
    intro member listed
    rw [unreadable?, present member listed]
  rcases feedAll_eq empty roster (members.map Member.number) with ⟨taken, left⟩
  rw [readable_of_present present] at taken left
  have emptied := (Matcher.aligned_of_feedAll taken).finish_empties
  simp only [group, unbroken]
  rw [finish_eq, left, emptied, group_eq_finish taken]
  rfl

end Roster

end TokenForest
