import TokenForest.Grouping.Row
import TokenForest.Proofs.Grouping.Gaining
import TokenForest.Proofs.Lexer.Batch

/-!
# Passes that are interrupted

A pass over a row of tokens can fail in three ways.  A group may be open at the end, a token may
have no lexeme, and the row itself may end in a fault.  Only the first failure goes through the
matcher, which is new after it.  The others pass it by: it goes on holding every token that came
before the fault, so it is new only if none did.
-/

namespace TokenForest

namespace Roster

variable
    {roster : Roster}
    {pairs : Pairs}
    {matcher : Matcher Member}

/-- A matcher that took its tokens one by one finishes with a forest or an open group. -/
theorem exists_finish_result
    (aligned : Matcher.Aligned pairs matcher)
    (roster : Roster) :
    ∃ outcome : Except (Unbalanced Token) (List (Tree Token)),
      (roster.finish pairs matcher).result = outcome.mapError .reported := by
  rw [finish_eq]
  cases finished : (matcher.finish pairs).1 with
  | ok forest =>
      exact ⟨.ok (roster.forestOf forest), rfl⟩
  | error fault =>
      cases fault with
      | reported error =>
          exact ⟨.error (unbalanced error), rfl⟩
      | broken breakdown =>
          exact absurd finished (aligned.finish_not_broken breakdown)

/-! ## The ends of a pass over a row -/

/-- The ways in which a pass of a new matcher over a row ends, and what they leave in it. -/
inductive Ends (pairs : Pairs) (roster : Roster) (row : Row) : Row.Pass → Prop where
  | finished
      {outcome : Except (Unbalanced Token) (List (Tree Token))} {left : Roster}
      (whole : row.fault = none) :
      Ends pairs roster row
        { result := outcome.mapError fun error => .reported (.unbalanced error)
          roster := left
          matcher := {} }
  | interrupted
      {fault : Fault GroupError} {left : Roster} {fed : Matcher Member}
      (passing : ∀ error, fault ≠ .reported (.unbalanced error))
      (same : left.tokens = roster.tokens)
      (taken : Matcher.feedAll pairs {} (roster.readable row.numbers) = .ok fed) :
      Ends pairs roster row { result := .error fault, roster := left, matcher := fed }

theorem ends_groupRow
    (pairs : Pairs)
    (roster : Roster)
    (row : Row) :
    Ends pairs roster row (roster.groupRow pairs {} row) := by
  have empty : Matcher.Aligned pairs ({} : Matcher Member) := Matcher.aligned_empty
  rcases feedAll_eq empty roster row.numbers with ⟨taken, gained⟩
  have same := congrArg Roster.tokens gained
  unfold groupRow
  generalize roster.feedAll pairs {} row.numbers = fed at taken same
  cases broken : fed.error with
  | some breakdown =>
      simp only [broken]
      exact .interrupted (by simp) same taken
  | none =>
      cases faulty : row.fault with
      | some fault =>
          simp only [broken]
          exact .interrupted (by cases fault <;> simp [Fault.map]) same taken
      | none =>
          have aligned := Matcher.aligned_of_feedAll taken
          rcases exists_finish_result aligned fed.roster with ⟨outcome, answered⟩
          have emptied : (fed.roster.finish pairs fed.matcher).matcher = {} :=
            aligned.finish_empties
          simp only [broken, answered, emptied]
          have reported :
              (outcome.mapError Fault.reported).mapError (Fault.map GroupError.unbalanced) =
                outcome.mapError fun error => .reported (.unbalanced error) := by
            cases outcome <;> rfl
          rw [reported]
          exact .finished faulty

/-- With no fault in the row, a pass over it is a pass over its tokens. -/
theorem groupRow_of_whole
    (pairs : Pairs)
    (roster : Roster)
    (matcher : Matcher Member)
    (numbers : List Nat) :
    let pass := roster.group pairs matcher numbers
    roster.groupRow pairs matcher { numbers } =
      { result := pass.result.mapError (Fault.map .unbalanced)
        roster := pass.roster
        matcher := pass.matcher } := by
  intro pass
  simp only [groupRow, pass, group]
  cases (roster.feedAll pairs matcher numbers).error with
  | some breakdown =>
      rfl
  | none =>
      rfl

theorem unreadable?_ofTokens
    (tokens : List Token)
    (number : Nat) :
    (ofTokens tokens).unreadable? number = none := by
  cases found : tokens[number]? with
  | none =>
      simp [unreadable?, ofTokens, found]
  | some token =>
      simp [unreadable?, ofTokens, found]

/-- What a lexer draws, as a row of tokens that nobody else owns. -/
def groupDrawn
    (pairs : Pairs)
    (drawn : Lexer.Drawn) :
    Row.Pass :=
  (ofTokens drawn.tokens).groupRow pairs {}
    { numbers := List.range drawn.tokens.length, fault := drawn.fault }

/-- These tokens all have a lexeme, so nothing stops the pass before the fault of the lexer does. -/
theorem groupDrawn_of_fault
    (pairs : Pairs)
    {drawn : Lexer.Drawn} {fault : Fault ScanError}
    (faulty : drawn.fault = some fault) :
    (groupDrawn pairs drawn).result = .error (fault.map .scan) := by
  have unbroken :
      ((ofTokens drawn.tokens).feedAll pairs {} (List.range drawn.tokens.length)).error = none := by
    rw [feedAll_error Matcher.aligned_empty, List.findSome?_eq_none_iff]
    intro number _
    exact unreadable?_ofTokens drawn.tokens number
  simp only [groupDrawn, groupRow, unbroken, faulty]

/-- A lexer answers what grouping the row of its tokens does. -/
theorem groupDrawn_result
    {lexer : Lexer}
    (boundary : lexer.AtBoundary)
    (absent : lexer.forest = none) :
    (groupDrawn lexer.pairs lexer.tokens.result).result = lexer.group.result := by
  rw [boundary.group_result absent]
  rcases lexer.tokens.result with ⟨tokens, fault⟩
  cases fault with
  | none =>
      rw [groupDrawn, groupRow_of_whole]
      rfl
  | some fault =>
      rw [groupDrawn_of_fault lexer.pairs rfl]
      rfl

/-! ## Matchers that are as good as new -/

/--
No group is open, finishing answers no tree, and the next pass answers what grouping its own tokens
does, if these are distinct and have no children.
-/
structure Renewed (pairs : Pairs) (roster : Roster) (matcher : Matcher Member) : Prop where
  closed : matcher.depth = 0
  finished : (roster.finish pairs matcher).result = .ok []
  grouped :
    ∀ numbers : List Nat,
      numbers.Nodup →
        (∀ number ∈ numbers, ∃ token, roster.tokens[number]? = some (.ok token)) →
          (∀ number ∈ numbers, ∀ link ∈ roster.links, link.1 ≠ number) →
            (roster.group pairs matcher numbers).result =
              seen (TokenForest.group pairs (numbers.filterMap roster.member?))

theorem renewed_empty
    (pairs : Pairs)
    (roster : Roster) :
    Renewed pairs roster {} where
  closed := rfl
  finished := rfl
  grouped := fun _ => group_result_of_readable

/-- Where a tree is built, finishing shows it, if it is a tree of the roster. -/
theorem eq_nil_of_forestOf
    {forest : List (Tree Member)}
    (present : ∀ tree ∈ forest,
      roster.tokens[tree.label.number]? = some (.ok tree.label.token))
    (hidden : roster.forestOf forest = []) :
    forest = [] := by
  cases forest with
  | nil =>
      rfl
  | cons tree rest =>
      have shown := List.filterMap_eq_nil_iff.mp hidden tree List.mem_cons_self
      simp [Roster.tree, present tree List.mem_cons_self] at shown

/-- A matcher with tokens of a roster is as good as new only if it holds none. -/
theorem Renewed.eq_empty
    {members : List Member}
    (renewed : Renewed pairs roster matcher)
    (taken : Matcher.feedAll pairs {} members = .ok matcher)
    (present : ∀ member ∈ members, roster.tokens[member.number]? = some (.ok member.token)) :
    members = [] := by
  have held : matcher.taken = members := Matcher.taken_feedAll taken
  have closed : matcher.pending = [] := List.length_eq_zero_iff.mp renewed.closed
  have hidden : roster.forestOf matcher.built.reverse = [] := by
    have finished := renewed.finished
    simpa [finish, Matcher.finish, closed, Except.map, Except.mapError] using finished
  have empty : matcher.built.reverse = [] := by
    refine eq_nil_of_forestOf ?_ hidden
    intro tree built
    apply present
    rw [← held]
    exact Matcher.label_mem_taken (List.mem_reverse.mp built)
  rw [← held, Matcher.taken, empty]
  rfl

/--
A pass of a new matcher over a row that fails with a report of an open group leaves the matcher as
good as new.  A pass that fails otherwise leaves in it exactly the tokens that came before the
fault, so that the matcher is as good as new only if there were none.
-/
theorem interrupted_matcher_holds_what_came_before
    (pairs : Pairs)
    (roster : Roster)
    (row : Row)
    (fault : Fault GroupError)
    (failed : (roster.groupRow pairs {} row).result = .error fault) :
    let pass := roster.groupRow pairs {} row
    (∀ error, fault = .reported (.unbalanced error) → Renewed pairs pass.roster pass.matcher) ∧
      ((∀ error, fault ≠ .reported (.unbalanced error)) →
        Matcher.feedAll pairs {} (roster.readable row.numbers) = .ok pass.matcher ∧
          (Renewed pairs pass.roster pass.matcher ↔ roster.readable row.numbers = [])) := by
  intro pass
  have ends : Ends pairs roster row pass := ends_groupRow pairs roster row
  have wrong : pass.result = .error fault := failed
  generalize pass = pass at ends wrong
  cases ends with
  | @finished outcome left whole =>
      refine ⟨fun _ _ => renewed_empty pairs left, ?_⟩
      intro passing
      cases outcome with
      | ok forest =>
          cases wrong
      | error error =>
          cases wrong
          exact absurd rfl (passing error)
  | @interrupted other left fed passing same taken =>
      cases wrong
      refine ⟨fun error unbalanced => absurd unbalanced (passing error), fun _ => ⟨taken, ?_⟩⟩
      constructor
      · intro renewed
        refine renewed.eq_empty taken ?_
        intro member listed
        rw [same]
        exact present_of_mem_members listed
      · intro nothing
        rw [nothing] at taken
        cases taken
        exact renewed_empty pairs left

theorem interrupted_matcher_holds_what_came_before_nested :
    let pairs := Pairs.ofList Config.standard.pairs
    let fault : Fault ScanError :=
      .reported { character := '?', position := { line := 1, column := 4, offset := 3 } }
    let row : Row := { numbers := [0, 1, 2], fault := some fault }
    let pass := nestedRoster.groupRow pairs {} row
    pass.result = .error (fault.map .scan) ∧
      Matcher.feedAll pairs {} (nestedRoster.readable row.numbers) = .ok pass.matcher ∧
      ¬Renewed pairs pass.roster pass.matcher := by
  intro pairs fault row pass
  have failed : pass.result = .error (fault.map .scan) := rfl
  have held :=
    (interrupted_matcher_holds_what_came_before pairs nestedRoster row _ failed).2
      (by simp [fault, Fault.map])
  refine ⟨failed, held.1, ?_⟩
  rw [held.2]
  exact List.cons_ne_nil _ _

/--
Behind an opener, a token that ends inside a character or an unrecognized character under strict
rules ends the pass, and the group stays open.
-/
theorem interrupted_matcher_is_not_renewed :
    let pairs : Pairs := [(("lit", "("), ")")]
    let literal (start : Nat) : Stretch := { kind := "lit", line := 1, start, stop := start + 1 }
    let roster := ofStretches { text := "(é".toList } [literal 0, literal 1]
    let cut := roster.groupRow pairs {} { numbers := [0, 1] }
    let drawn :=
      (Lexer.ofSource { text := "(x".toList } { Config.standard with strict := true }).tokens.result
    let stopped := groupDrawn pairs drawn
    (∃ error, cut.result = .error (.broken (.undecodable error))) ∧
      ¬Renewed pairs cut.roster cut.matcher ∧
      (∃ error, stopped.result = .error (.reported (.scan error))) ∧
      ¬Renewed pairs stopped.roster stopped.matcher := by
  intro pairs literal roster cut drawn stopped
  have cutDepth : cut.matcher.depth = 1 := by
    decide +kernel
  have stoppedDepth : stopped.matcher.depth = 1 := by
    decide +kernel
  let offender : ScanError :=
    { character := 'x', position := { line := 1, column := 2, offset := 1 } }
  have refused : drawn.fault = some (.reported offender) := by
    decide +kernel
  have failed := groupDrawn_of_fault pairs refused
  refine ⟨⟨_, rfl⟩, ?_, ⟨_, failed⟩, ?_⟩
  · intro renewed
    rw [renewed.closed] at cutDepth
    cases cutDepth
  · intro renewed
    rw [renewed.closed] at stoppedDepth
    cases stoppedDepth

end Roster

end TokenForest
