import TokenForest.Pattern.Match

/-!
# Progress of matching

Whatever way a pattern finds through a text, it never leaves the text and never goes back: what
follows the pattern is tried at a place of the same text, at or behind the place where the pattern
began.  Looking around moves nothing, since only its captures are kept.

The statement about nodes speaks of every continuation, which carries the induction through
sequences and repetitions.  For a whole pattern it says that a match ends between its start and the
end of the text.
-/

namespace TokenForest.Pattern

namespace Place

/-- The second place stands in the same text as the first, at it or behind it. -/
def LeadsTo (first second : Place) : Prop :=
  ∃ passed : List Char,
    second.before = passed.reverse ++ first.before ∧
      first.after = passed ++ second.after

namespace LeadsTo

@[refl]
theorem refl (place : Place) : LeadsTo place place :=
  ⟨[], rfl, rfl⟩

theorem trans
    {first second third : Place}
    (left : LeadsTo first second)
    (right : LeadsTo second third) :
    LeadsTo first third := by
  obtain ⟨passed, beforeEqual, afterEqual⟩ := left
  obtain ⟨further, furtherBefore, furtherAfter⟩ := right
  refine ⟨passed ++ further, ?_, ?_⟩
  · rw [furtherBefore, beforeEqual, List.reverse_append, List.append_assoc]
  · rw [afterEqual, furtherAfter, List.append_assoc]

/-- Captures do not count for where a place stands. -/
theorem of_marks
    {first second : Place}
    (leads : LeadsTo first second)
    (marks : List (Nat × Nat)) :
    LeadsTo first { second with marks } :=
  leads

/-- A later place has all the characters before it that an earlier one has. -/
theorem position_le
    {first second : Place}
    (leads : LeadsTo first second) :
    first.position ≤ second.position := by
  obtain ⟨passed, beforeEqual, _⟩ := leads
  simp [position, beforeEqual]

/-- No place stands behind the end of the text. -/
theorem position_le_end
    {first second : Place}
    (leads : LeadsTo first second) :
    second.position ≤ first.position + first.after.length := by
  obtain ⟨passed, beforeEqual, afterEqual⟩ := leads
  simp only [position, beforeEqual, afterEqual, List.length_append, List.length_reverse]
  omega

end LeadsTo

theorem step?_leadsTo
    {test : Char → Bool}
    {place next : Place}
    (stepped : place.step? test = some next) :
    LeadsTo place next := by
  unfold step? at stepped
  cases rest : place.after with
  | nil =>
      simp [rest] at stepped
  | cons character after =>
      simp only [rest] at stepped
      split at stepped
      · cases stepped
        exact ⟨[character], rfl, rest⟩
      · simp at stepped

theorem along?_leadsTo
    {agree : Char → Char → Bool}
    {characters : List Char}
    {place next : Place}
    (moved : place.along? agree characters = some next) :
    LeadsTo place next := by
  induction characters generalizing place with
  | nil =>
      cases moved
      exact .refl _
  | cons character rest ih =>
      unfold along? at moved
      cases stepped : place.step? (agree character) with
      | none =>
          simp [stepped] at moved
      | some middle =>
          rw [stepped] at moved
          exact (step?_leadsTo stepped).trans (ih moved)

end Place

open Place (LeadsTo)

/--
A way on from a place, given what is to follow: it succeeds only by what follows succeeding at a
place that it leads to.
-/
def Progresses (way : Place → Continuation → Option Place) : Prop :=
  ∀ (place : Place) (follow : Continuation) (result : Place),
    way place follow = some result →
      ∃ next, LeadsTo place next ∧ follow next = some result

section Repetition

variable
    {round : Place → Continuation → Option Place}
    (progress : Progresses round)
    (least : Nat)
    (most : Option Nat)

include progress

theorem repeatGreedy_progresses
    (fuel count : Nat)
    (last : Option Nat) :
    Progresses fun place follow => repeatGreedy round least most follow fuel count last place := by
  induction fuel generalizing count last with
  | zero =>
      intro place follow result found
      simp [repeatGreedy] at found
  | succ fuel ih =>
      intro place follow result found
      simp only [repeatGreedy] at found
      split at found
      · obtain ⟨middle, reached, rest⟩ := progress _ _ _ found
        obtain ⟨next, further, followed⟩ := ih _ _ _ _ _ rest
        exact ⟨next, reached.trans further, followed⟩
      · split at found
        · rename_i further
          cases found
          split at further
          · obtain ⟨middle, reached, rest⟩ := progress _ _ _ further
            obtain ⟨next, later, followed⟩ := ih _ _ _ _ _ rest
            exact ⟨next, reached.trans later, followed⟩
          · simp at further
        · exact ⟨place, .refl place, found⟩

theorem repeatLazy_progresses
    (fuel count : Nat)
    (last : Option Nat) :
    Progresses fun place follow => repeatLazy round least most follow fuel count last place := by
  induction fuel generalizing count last with
  | zero =>
      intro place follow result found
      simp [repeatLazy] at found
  | succ fuel ih =>
      intro place follow result found
      simp only [repeatLazy] at found
      split at found
      · obtain ⟨middle, reached, rest⟩ := progress _ _ _ found
        obtain ⟨next, further, followed⟩ := ih _ _ _ _ _ rest
        exact ⟨next, reached.trans further, followed⟩
      · split at found
        · rename_i followed
          cases found
          exact ⟨_, .refl _, followed⟩
        · split at found
          · obtain ⟨middle, reached, rest⟩ := progress _ _ _ found
            obtain ⟨next, further, followed⟩ := ih _ _ _ _ _ rest
            exact ⟨next, reached.trans further, followed⟩
          · simp at found

/-- A possessive repetition takes its rounds one at a time, so each leads to where it ends. -/
theorem repeatPossessive_leadsTo
    {fuel count : Nat}
    {last : Option Nat}
    {place result : Place}
    (found : repeatPossessive round least most fuel count last place = some result) :
    LeadsTo place result := by
  have single
      {start stop : Place}
      (taken : round start some = some stop) :
      LeadsTo start stop := by
    obtain ⟨next, reached, ended⟩ := progress _ _ _ taken
    cases ended
    exact reached
  induction fuel generalizing count last place with
  | zero =>
      simp [repeatPossessive] at found
  | succ fuel ih =>
      simp only [repeatPossessive] at found
      split at found
      · split at found
        · simp at found
        · rename_i taken
          exact (single taken).trans (ih found)
      · split at found
        · split at found
          · cases found
            exact .refl _
          · rename_i taken
            exact (single taken).trans (ih found)
        · cases found
          exact .refl _

end Repetition

/-- Every node leads on within the text. -/
theorem Node.run_progresses
    (text : List Char)
    (node : Node) :
    Progresses (node.run text) := by
  induction node with
  | empty =>
      intro place follow result found
      exact ⟨place, .refl place, found⟩
  | any acrossLines =>
      intro place follow result found
      obtain ⟨next, stepped, followed⟩ := Option.bind_eq_some_iff.mp found
      exact ⟨next, Place.step?_leadsTo stepped, followed⟩
  | set negated ignoreCase ascii items =>
      intro place follow result found
      obtain ⟨next, stepped, followed⟩ := Option.bind_eq_some_iff.mp found
      exact ⟨next, Place.step?_leadsTo stepped, followed⟩
  | anchor condition =>
      intro place follow result found
      simp only [run] at found
      split at found
      · exact ⟨place, .refl place, found⟩
      · simp at found
  | seq first second firstProgress secondProgress =>
      intro place follow result found
      obtain ⟨middle, reached, rest⟩ := firstProgress _ _ _ found
      obtain ⟨next, further, followed⟩ := secondProgress _ _ _ rest
      exact ⟨next, reached.trans further, followed⟩
  | alt first second firstProgress secondProgress =>
      intro place follow result found
      simp only [run] at found
      split at found
      · rename_i taken
        cases found
        exact firstProgress _ _ _ taken
      · exact secondProgress _ _ _ found
  | capture group body bodyProgress =>
      intro place follow result found
      obtain ⟨inner, reached, followed⟩ := bodyProgress _ _ _ found
      exact ⟨inner.mark (2 * group + 1), reached.of_marks _, followed⟩
  | enclosed body bodyProgress =>
      intro place follow result found
      exact bodyProgress _ _ _ found
  | repeated least most greed body bodyProgress =>
      intro place follow result found
      cases greed with
      | greedy =>
          exact repeatGreedy_progresses bodyProgress least most _ _ _ _ _ _ found
      | lazy =>
          exact repeatLazy_progresses bodyProgress least most _ _ _ _ _ _ found
      | possessive =>
          obtain ⟨next, taken, followed⟩ := Option.bind_eq_some_iff.mp found
          exact ⟨next, repeatPossessive_leadsTo bodyProgress least most taken, followed⟩
  | look behind negated body bodyProgress =>
      intro place follow result found
      simp only [run] at found
      split at found
      · exact ⟨_, (LeadsTo.refl place).of_marks _, found⟩
      · exact ⟨place, .refl place, found⟩
      · simp at found
  | atomic body bodyProgress =>
      intro place follow result found
      obtain ⟨inner, taken, followed⟩ := Option.bind_eq_some_iff.mp found
      obtain ⟨next, reached, ended⟩ := bodyProgress _ _ _ taken
      cases ended
      exact ⟨inner, reached, followed⟩
  | backref group ignoreCase ascii =>
      intro place follow result found
      simp only [run] at found
      split at found
      · simp at found
      · obtain ⟨next, moved, followed⟩ := Option.bind_eq_some_iff.mp found
        exact ⟨next, Place.along?_leadsTo moved, followed⟩
  | conditional group present absent presentProgress absentProgress =>
      intro place follow result found
      simp only [run] at found
      split at found
      · exact presentProgress _ _ _ found
      · exact absentProgress _ _ _ found

end TokenForest.Pattern

namespace TokenForest

open Pattern (Place)

/-- A match ends between its start and the end of the text. -/
theorem Pattern.matchEnd?_bounds
    {pattern : Pattern}
    {text : List Char}
    {start stop : Nat}
    (within : start ≤ text.length)
    (found : pattern.matchEnd? text start = some stop) :
    start ≤ stop ∧ stop ≤ text.length := by
  obtain ⟨result, run, rfl⟩ := Option.map_eq_some_iff.mp found
  obtain ⟨next, leads, ended⟩ := Pattern.Node.run_progresses text pattern.node _ _ _ run
  cases ended
  have begun : (Place.ofIndex text start).position = start := by
    simp [Place.position, Place.ofIndex, within]
  have ahead : (Place.ofIndex text start).after.length = text.length - start := by
    simp [Place.ofIndex]
  have lower := leads.position_le
  have upper := leads.position_le_end
  omega

end TokenForest
