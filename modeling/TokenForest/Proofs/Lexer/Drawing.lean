import TokenForest.Proofs.Grouping.Feeding
import TokenForest.Proofs.Lexer.Coverage

/-!
# What drawing does to a lexer

Every operation that draws tokens does the same to a lexer: it passes over a stretch of the source
that its trace accounts for, leaves the cursor at the end of the stretch, and changes nothing else.
`Draws` says this.  What else there is to know about the operations is how their results follow from
the traces: `Nexts` for a single token and `Groups` for a whole forest list the ways in which these
can end, and breaking down is not among them.
-/

namespace TokenForest

open Text (Source)

namespace Lexer

/-- The lexer passes over some of its source, and the trace accounts for what it passed. -/
inductive Draws (lexer : Lexer) : Trace → Lexer → Prop where
  | intro
      {trace : Trace} {stop : Nat}
      (within : stop ≤ lexer.source.text.length)
      (covers : Covers lexer.rules lexer.source lexer.cursor.index trace stop) :
      Draws lexer trace (lexer.atIndex stop)

namespace Draws

variable
    {lexer after last : Lexer}
    {trace later : Trace}

/-- Notes that cover nothing may be made at a boundary. -/
theorem silent
    (boundary : lexer.AtBoundary)
    (covers : Covers lexer.rules lexer.source lexer.cursor.index trace lexer.cursor.index) :
    lexer.Draws trace lexer := by
  have stays : lexer.Draws trace (lexer.atIndex lexer.cursor.index) :=
    .intro boundary.index_le covers
  rwa [boundary.atIndex_eq] at stays

theorem refl
    (boundary : lexer.AtBoundary) :
    lexer.Draws [] lexer :=
  silent boundary .nil

theorem trans
    (first : lexer.Draws trace after)
    (second : after.Draws later last) :
    lexer.Draws (trace ++ later) last := by
  rcases first with ⟨_, covers⟩
  rcases second with ⟨within, onwards⟩
  exact .intro within (covers.append onwards)

theorem atBoundary
    (draws : lexer.Draws trace after) :
    after.AtBoundary := by
  rcases draws with ⟨within, _⟩
  exact atBoundary_atIndex within

theorem source_eq
    (draws : lexer.Draws trace after) :
    after.source = lexer.source := by
  rcases draws with ⟨_, _⟩
  rfl

theorem pairs_eq
    (draws : lexer.Draws trace after) :
    after.pairs = lexer.pairs := by
  rcases draws with ⟨_, _⟩
  rfl

/-- Putting the cursor back undoes all that drawing does to a lexer. -/
theorem rewind_eq
    (draws : lexer.Draws trace after) :
    { after with cursor := lexer.cursor } = lexer := by
  rcases draws with ⟨_, _⟩
  rfl

end Draws

/-! ## One token -/

/-- How drawing the next token ends. -/
inductive Nexts (lexer : Lexer) : Step (Except (Fault ScanError) (Option Token)) → Prop where
  | finished
      {trace : Trace} {after : Lexer}
      (draws : lexer.Draws trace after)
      (silent : trace.tokens = [])
      (atEnd : after.remaining = 0) :
      Nexts lexer { result := .ok none, trace, lexer := after }
  | token
      {token : Token} {trace : Trace} {after : Lexer}
      (draws : lexer.Draws trace after)
      (drawn : trace.tokens = [token])
      (onwards : after.remaining < lexer.remaining) :
      Nexts lexer { result := .ok (some token), trace, lexer := after }
  | refused
      {error : ScanError} {trace : Trace} {after : Lexer}
      (draws : lexer.Draws trace after)
      (silent : trace.tokens = []) :
      Nexts lexer { result := .error (.reported error), trace, lexer := after }

variable {lexer : Lexer}

/-- At a boundary, drawing a token ends in one of these ways. -/
theorem AtBoundary.nexts
    (boundary : lexer.AtBoundary) :
    lexer.Nexts lexer.next := by
  rcases lexer.rules.exists_walks boundary.index_le with ⟨skips, ending, walks⟩
  have draws : lexer.Draws (skips.map .skipped ++ ending.notes lexer.source)
      (lexer.atIndex (ending.place lexer.source)) :=
    .intro walks.bounds.2.2 walks.covers
  rw [boundary.next_eq walks]
  cases ending with
  | finished =>
      have atEnd : (lexer.atIndex lexer.source.text.length).remaining = 0 := Nat.sub_self _
      exact .finished draws (by simp [Ending.notes]) atEnd
  | token kind start stop =>
      have nonempty := walks.token_lt
      have bounds := walks.bounds
      have onwards : (lexer.atIndex stop).remaining < lexer.remaining :=
        Nat.sub_lt_sub_left
          (Nat.lt_of_le_of_lt bounds.1 (Nat.lt_of_lt_of_le nonempty bounds.2.2))
          (Nat.lt_of_le_of_lt bounds.1 nonempty)
      exact .token draws (by simp [Ending.notes]) onwards
  | unrecognized character index =>
      exact .refused draws (by simp [Ending.notes])

/-! ## Tokens in a row -/

/--
Drawing tokens in a row is drawing, and the tokens that are answered are those that are noted.
-/
theorem AtBoundary.take_draws
    (boundary : lexer.AtBoundary)
    (count : Nat) :
    lexer.Draws (lexer.take count).trace (lexer.take count).lexer ∧
      (lexer.take count).trace.tokens = (lexer.take count).result.tokens := by
  induction count generalizing lexer with
  | zero =>
      exact ⟨.refl boundary, rfl⟩
  | succ count ih =>
      have nexts := boundary.nexts
      rw [take]
      generalize lexer.next = step at nexts ⊢
      cases nexts with
      | finished draws silent atEnd =>
          exact ⟨draws, silent⟩
      | token draws drawn onwards =>
          rcases ih draws.atBoundary with ⟨later, tokens⟩
          refine ⟨draws.trans later, ?_⟩
          simp only [Trace.tokens_append, drawn, tokens, List.singleton_append]
      | refused draws silent =>
          exact ⟨draws, silent⟩

/-! ## A forest -/

/-- How drawing tokens into a matcher ends. -/
inductive GroupsInto
    (matcher : Matcher Token)
    (lexer : Lexer) :
    Step (Except (Fault GroupError) (List (Tree Token))) → Prop where
  | finished
      {forest : List (Tree Token)} {trace : Trace} {after : Lexer}
      (draws : lexer.Draws trace after)
      (walked : Tree.walkAll forest = matcher.taken ++ trace.tokens)
      (atEnd : after.remaining = 0) :
      GroupsInto matcher lexer { result := .ok forest, trace, lexer := after }
  | refused
      {error : GroupError} {trace : Trace} {after : Lexer}
      (draws : lexer.Draws trace after) :
      GroupsInto matcher lexer { result := .error (.reported error), trace, lexer := after }

/-- Finishing an aligned matcher where the source ends answers a forest or an open group. -/
theorem GroupsInto.finish
    {matcher : Matcher Token} {trace : Trace} {after : Lexer}
    (aligned : Matcher.Aligned lexer.pairs matcher)
    (draws : lexer.Draws trace after)
    (silent : trace.tokens = [])
    (atEnd : after.remaining = 0) :
    GroupsInto matcher lexer
      { result := (matcher.finish lexer.pairs).1.mapError (Fault.map .unbalanced)
        trace
        lexer := after } := by
  cases finished : (matcher.finish lexer.pairs).1 with
  | ok forest =>
      refine .finished draws ?_ atEnd
      rw [Matcher.walkAll_of_finish finished, silent, List.append_nil]
  | error fault =>
      cases fault with
      | reported error =>
          exact .refused draws
      | broken breakdown =>
          exact absurd finished (aligned.finish_not_broken breakdown)

/-- From a boundary, with an aligned matcher, drawing into it ends in one of these ways. -/
theorem AtBoundary.groupsInto
    {count : Nat} {matcher : Matcher Token}
    (boundary : lexer.AtBoundary)
    (aligned : Matcher.Aligned lexer.pairs matcher)
    (enough : lexer.remaining < count) :
    GroupsInto matcher lexer (groupInto count matcher lexer) := by
  induction count generalizing lexer matcher with
  | zero =>
      exact absurd enough (Nat.not_lt_zero _)
  | succ count ih =>
      have nexts := boundary.nexts
      rw [groupInto]
      generalize lexer.next = step at nexts ⊢
      cases nexts with
      | @finished trace after draws silent atEnd =>
          have ends := GroupsInto.finish aligned draws silent atEnd
          rwa [← draws.pairs_eq] at ends
      | @token token trace after draws drawn onwards =>
          have fewer := Nat.lt_of_lt_of_le onwards (Nat.le_of_lt_succ enough)
          rw [← draws.pairs_eq] at aligned
          rcases aligned.exists_feeds token with ⟨fed, feeds⟩
          have later := ih draws.atBoundary (feeds.aligned aligned) fewer
          simp only [feeds.feed_eq]
          generalize groupInto count fed after = rest at later ⊢
          have noted : lexer.Draws
              (trace ++ Event.ofDepths matcher.depth fed.depth token) after :=
            draws.trans (.silent draws.atBoundary (covers_ofDepths _ _ _))
          cases later with
          | finished onwards walked atEnd =>
              refine .finished (noted.trans onwards) ?_ atEnd
              rw [walked, feeds.taken_eq]
              simp [drawn]
          | refused onwards =>
              exact .refused (noted.trans onwards)
      | refused draws silent =>
          exact .refused draws

/-- How grouping ends: it answers the forest that is kept, keeps a new one, or undoes everything. -/
inductive Groups
    (lexer : Lexer) :
    Step (Except (Fault GroupError) (List (Tree Token))) → Prop where
  | again
      {forest : List (Tree Token)}
      (kept : lexer.forest = some forest) :
      Groups lexer { result := .ok forest, trace := [], lexer }
  | anew
      {forest : List (Tree Token)} {trace : Trace} {after : Lexer}
      (absent : lexer.forest = none)
      (draws : lexer.Draws trace after)
      (walked : Tree.walkAll forest = trace.tokens)
      (atEnd : after.remaining = 0) :
      Groups lexer
        { result := .ok forest, trace, lexer := { after with forest := some forest } }
  | undone
      {error : GroupError} {trace : Trace} {after : Lexer}
      (absent : lexer.forest = none)
      (draws : lexer.Draws trace after) :
      Groups lexer { result := .error (.reported error), trace, lexer }

theorem group_of_kept
    {forest : List (Tree Token)}
    (kept : lexer.forest = some forest) :
    lexer.group = { result := .ok forest, trace := [], lexer } := by
  simp only [group, kept]

/-- At a boundary, grouping ends in one of these ways. -/
theorem AtBoundary.groups
    (boundary : lexer.AtBoundary) :
    lexer.Groups lexer.group := by
  cases kept : lexer.forest with
  | some forest =>
      rw [group_of_kept kept]
      exact .again kept
  | none =>
      have into := boundary.groupsInto Matcher.aligned_empty (Nat.lt_succ_self _)
      simp only [group, kept]
      generalize groupInto (lexer.remaining + 1) {} lexer = pass at into ⊢
      cases into with
      | finished draws walked atEnd =>
          exact .anew kept draws walked atEnd
      | refused draws =>
          simp only [draws.rewind_eq]
          exact .undone kept draws

end Lexer

end TokenForest
