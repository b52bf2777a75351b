import TokenForest.Proofs.Grouping.Gaining

/-!
# Closers that open

A token is looked up as an opener before it is compared with the closer that is waited for.  A
closer that is an opener itself, of the same kind, is therefore never taken for a closer: it begins
one more group.  The group that waits for it stays open for good, and so do all groups around it,
whatever tokens come.  Grouping then complains of the outermost of them.
-/

namespace TokenForest

open Lexical (kind lexeme)

variable
    {Item : Type}
    [Lexical Item]
    {pairs : Pairs}

/-- A token opens a group, and the token that would close the group opens one too. -/
def Pairs.Reopens (pairs : Pairs) (opener : Item) : Prop :=
  ∃ closer,
    pairs.closer? (kind opener) (lexeme opener) = some closer ∧
      pairs.closer? (kind opener) closer ≠ none

theorem Pairs.Reopens.opens
    {opener : Item}
    (reopens : pairs.Reopens opener) :
    pairs.Opens opener := by
  rcases reopens with ⟨closer, paired, _⟩
  rw [Pairs.Opens, paired]
  exact Option.some_ne_none _

namespace Matcher

variable
    {matcher fed : Matcher Item}
    {opener item : Item}
    {outer : List Item}

/-- What opens no group does not close that of an opener whose closer opens one. -/
theorem closes_eq_false_of_reopens
    (reopens : pairs.Reopens opener)
    (plain : pairs.closer? (kind item) (lexeme item) = none) :
    closes pairs opener item = false := by
  rcases reopens with ⟨closer, paired, again⟩
  rw [Bool.eq_false_iff, Ne, closes_eq_true_iff paired]
  rintro ⟨sameKind, rfl⟩
  rw [sameKind] at plain
  exact again plain

/-- When the innermost group closes, the opener is not the one that leaves the stack. -/
theorem suffix_of_closing
    {innermost : Item} {rest : List Item}
    (reopens : pairs.Reopens opener)
    (plain : pairs.closer? (kind item) (lexeme item) = none)
    (closing : closes pairs innermost item = true)
    (held : opener :: outer <:+ innermost :: rest) :
    opener :: outer <:+ rest := by
  rcases List.suffix_cons_iff.mp held with whole | below
  · cases whole
    rw [closes_eq_false_of_reopens reopens plain] at closing
    cases closing
  · exact below

/-- No token takes the opener off the stack, and none of the openers below it. -/
theorem Feeds.keeps_suffix
    (feeds : Feeds pairs matcher item fed)
    (reopens : pairs.Reopens opener)
    (held : opener :: outer <:+ matcher.pending) :
    opener :: outer <:+ fed.pending := by
  cases feeds with
  | opens _ =>
      exact held.trans (List.suffix_cons _ _)
  | stands plain =>
      exact held
  | joins plain unclosing =>
      exact held
  | ends plain closing =>
      exact suffix_of_closing reopens plain closing held
  | returns plain closing =>
      exact suffix_of_closing reopens plain closing held

/-- Neither do any tokens that come one after another. -/
theorem suffix_feedAll
    {items : List Item}
    (reopens : pairs.Reopens opener)
    (held : opener :: outer <:+ matcher.pending)
    (fedAll : matcher.feedAll pairs items = .ok fed) :
    opener :: outer <:+ fed.pending := by
  induction items generalizing matcher with
  | nil =>
      cases fedAll
      exact held
  | cons item rest ih =>
      rcases feedAll_cons_eq_ok_iff.mp fedAll with ⟨middle, first, later⟩
      exact ih ((feeds_of_feed first).keeps_suffix reopens held) later

omit [Lexical Item] in
/-- An opener that stays on the stack leaves the outermost opener in its place. -/
theorem getLast?_pending_of_suffix
    (held : opener :: outer <:+ matcher.pending) :
    matcher.pending.getLast? = (opener :: outer).getLast? := by
  rcases held with ⟨inner, same⟩
  rw [← same, List.getLast?_append_of_ne_nil inner (List.cons_ne_nil opener outer)]

/-- An opener that was taken last is the innermost. -/
theorem exists_pending_of_concat
    {items : List Item}
    (opens : pairs.Opens opener)
    (fedAll : feedAll pairs {} (items ++ [opener]) = .ok fed) :
    ∃ outer, fed.pending = opener :: outer := by
  rcases exists_feedAll_empty pairs items with ⟨before, earlier, _⟩
  rw [feedAll_append earlier] at fedAll
  rcases feedAll_cons_eq_ok_iff.mp fedAll with ⟨after, first, none⟩
  cases none
  exact ⟨before.pending, (feeds_of_feed first).pending_of_opens opens⟩

end Matcher

/--
Tokens with an opener whose closer opens are not grouped, because of it or an opener before it.
-/
theorem exists_reported_of_reopens
    {items : List Item} {opener : Item} {place : Nat}
    (reopens : pairs.Reopens opener)
    (listed : items[place]? = some opener) :
    ∃ earlier error,
      earlier ≤ place ∧
        items[earlier]? = some error.opener ∧
        pairs.closer? (kind error.opener) (lexeme error.opener) = some error.expected ∧
        group pairs items = .error (.reported error) := by
  rcases List.getElem?_eq_some_iff.mp listed with ⟨within, same⟩
  have split : items = items.take (place + 1) ++ items.drop (place + 1) :=
    (List.take_append_drop _ _).symm
  have ending : items.take (place + 1) = items.take place ++ [opener] := by
    rw [← same, List.take_append_getElem within]
  rcases Matcher.exists_feedAll_empty pairs (items.take (place + 1)) with ⟨begun, fedBegun, _⟩
  rcases Matcher.exists_feedAll_empty pairs items with ⟨fed, fedAll, _⟩
  rcases Matcher.exists_pending_of_concat reopens.opens (ending ▸ fedBegun) with ⟨outer, pending⟩
  have held : opener :: outer <:+ begun.pending := ⟨[], pending.symm⟩
  have stillOpen : begun.pending ≠ [] := by
    rw [pending]
    exact List.cons_ne_nil opener outer
  rcases Matcher.exists_unclosed fedBegun stillOpen with ⟨earlier, error, outermost, unclosed⟩
  have early : earlier < place + 1 :=
    Nat.lt_of_lt_of_le unclosed.lt_length (List.length_take_le _ _)
  refine ⟨earlier, error, Nat.le_of_lt_succ early, ?_, unclosed.paired, ?_⟩
  · rw [← unclosed.present, List.getElem?_take_of_lt early]
  · -- What comes later leaves the outermost opener as it is.
    have later := fedAll
    rw [split, Matcher.feedAll_append fedBegun] at later
    have stays := Matcher.suffix_feedAll reopens held later
    rw [group_eq_finish fedAll]
    apply Matcher.finish_of_outermost _ unclosed.paired
    rw [Matcher.getLast?_pending_of_suffix stays, ← Matcher.getLast?_pending_of_suffix held,
      outermost]

namespace Roster

variable
    {roster : Roster}
    {pairs : Pairs}

/--
A pair whose closer is itself an opener of the kind never closes.  Tokens with lexemes that include
an opener of such a pair cannot be grouped, whatever the other pairs are and whatever comes before
and behind the opener, and the opener that is reported is this one or one before it.
-/
theorem pair_with_opening_closer_never_closes
    {members : List Member} {member : Member} {place : Nat} {closer : String}
    (present : ∀ member ∈ members,
      roster.tokens[member.number]? = some (.ok member.token))
    (listed : members[place]? = some member)
    (paired : pairs.closer? member.token.kind member.token.lexeme = some closer)
    (opening : pairs.closer? member.token.kind closer ≠ none) :
    ∃ earlier opener expected,
      earlier ≤ place ∧
        members[earlier]? = some opener ∧
        pairs.closer? opener.token.kind opener.token.lexeme = some expected ∧
        (roster.group pairs {} (members.map Member.number)).result =
          .error (.reported { opener := opener.token.reduced, expected }) := by
  have reopens : pairs.Reopens member := ⟨closer, paired, opening⟩
  rcases exists_reported_of_reopens reopens listed with
    ⟨earlier, ⟨opener, expected⟩, early, found, waiting, failed⟩
  refine ⟨earlier, opener, expected, early, found, waiting, ?_⟩
  rw [group_of_present present, failed]
  rfl

theorem pair_with_opening_closer_never_closes_bar :
    let pairs : Pairs := [(("lit", "("), ")"), (("lit", "["), "]"), (("bar", "|"), "|")]
    let token (kind lexeme : String) (start : Nat) : Token :=
      { kind, lexeme, line := 1, start, stop := start + 1 }
    let bar := token "bar" "|" 3
    let tokens :=
      [token "lit" "(" 0, token "lit" ")" 1, token "lit" "[" 2, bar, token "lit" "]" 4,
        token "bar" "|" 5]
    pairs.closer? bar.kind bar.lexeme = some "|" ∧
      pairs.closer? bar.kind "|" ≠ none ∧
      ∃ earlier opener expected,
        earlier ≤ 3 ∧
          tokens[earlier]? = some opener ∧
          pairs.closer? opener.kind opener.lexeme = some expected ∧
          groupFresh pairs tokens = .error (.reported { opener := opener.reduced, expected }) := by
  intro pairs token bar tokens
  have paired : pairs.closer? bar.kind bar.lexeme = some "|" := by decide +kernel
  have opening : pairs.closer? bar.kind "|" ≠ none := by decide +kernel
  have listed : (membersOf tokens)[3]? = some { number := 3, token := bar } := rfl
  rcases pair_with_opening_closer_never_closes (fun _ => present_of_mem_membersOf) listed paired
    opening with ⟨earlier, opener, expected, early, found, waiting, failed⟩
  refine ⟨paired, opening, earlier, opener.token, expected, early, ?_, waiting, failed⟩
  rw [← map_token_membersOf tokens, List.getElem?_map, found]
  rfl

end Roster

end TokenForest
