import TokenForest.Proofs.Text.Boundary
import TokenForest.Trace

/-!
# Tokens and skipped characters divide a text

Some tokens and some skipped characters divide a stretch of a text if each of its characters lies
either in one of the tokens or is one of those that were skipped, while the tokens stand in their
order without overlap.  Stretches that meet are divided by the tokens and the skipped characters of
both.
-/

namespace TokenForest

open Text (Source)

/-- A token reaches over the byte at an offset. -/
def Token.Spans (token : Token) (offset : Nat) : Prop :=
  token.start ≤ offset ∧ offset < token.stop

/-- The tokens and the skipped characters divide the characters from an index up to another. -/
structure Divides
    (source : Source)
    (start stop : Nat)
    (tokens : List Token)
    (skips : List Skip) :
    Prop where
  /-- Every token holds some of the characters, and only whole ones. -/
  token_within :
    ∀ token ∈ tokens, ∃ first last,
      start ≤ first ∧ first < last ∧ last ≤ stop ∧
        token.start = source.offsetOf first ∧ token.stop = source.offsetOf last
  /-- Every skipped character is one of the characters. -/
  skip_within :
    ∀ skip ∈ skips, ∃ place,
      start ≤ place ∧ place < stop ∧
        source.text[place]? = some skip.character ∧ skip.offset = source.offsetOf place
  /-- A token begins where the tokens before it have ended, or later. -/
  tokens_ordered : tokens.Pairwise fun earlier later => earlier.stop ≤ later.start
  /-- The characters were skipped from the left. -/
  skips_ordered : skips.Pairwise fun earlier later => earlier.offset < later.offset
  /-- What was skipped is exactly what lies in no token. -/
  skipped_iff :
    ∀ place, start ≤ place → place < stop →
      ((∃ skip ∈ skips, skip.offset = source.offsetOf place) ↔
        ∀ token ∈ tokens, ¬ token.Spans (source.offsetOf place))

namespace Divides

variable
    {source : Source}
    {start middle stop place : Nat}
    {tokens laterTokens : List Token}
    {skips laterSkips : List Skip}

theorem nil (start : Nat) : Divides source start start [] [] where
  token_within := by simp
  skip_within := by simp
  tokens_ordered := List.Pairwise.nil
  skips_ordered := List.Pairwise.nil
  skipped_iff := by
    intro place later before
    exact absurd later (Nat.not_le_of_lt before)

theorem skip
    {skip : Skip}
    (present : source.text[start]? = some skip.character)
    (offset : skip.offset = source.offsetOf start) :
    Divides source start (start + 1) [] [skip] where
  token_within := by simp
  skip_within := by
    intro other member
    rw [List.mem_singleton] at member
    subst member
    exact ⟨start, Nat.le_refl start, Nat.lt_succ_self start, present, offset⟩
  tokens_ordered := List.Pairwise.nil
  skips_ordered := List.pairwise_singleton _ _
  skipped_iff := by
    intro place later before
    have same : place = start := Nat.le_antisymm (Nat.le_of_lt_succ before) later
    subst same
    simp [offset]

theorem token
    {token : Token}
    (nonempty : start < stop)
    (within : stop ≤ source.text.length)
    (starts : token.start = source.offsetOf start)
    (stops : token.stop = source.offsetOf stop) :
    Divides source start stop [token] [] where
  token_within := by
    intro other member
    rw [List.mem_singleton] at member
    subst member
    exact ⟨start, stop, Nat.le_refl start, nonempty, Nat.le_refl stop, starts, stops⟩
  skip_within := by simp
  tokens_ordered := List.pairwise_singleton _ _
  skips_ordered := List.Pairwise.nil
  skipped_iff := by
    intro place later before
    have spanned : token.Spans (source.offsetOf place) := by
      rw [Token.Spans, starts, stops]
      exact ⟨Source.offsetOf_le later, Source.offsetOf_lt before within⟩
    simp [spanned]

/-! ## Stretches that meet -/

/-- A token of a stretch does not reach over characters before it. -/
theorem not_spans_of_lt
    (divides : Divides source start stop tokens skips)
    (within : stop ≤ source.text.length)
    {token : Token}
    (member : token ∈ tokens)
    (before : place < start) :
    ¬ token.Spans (source.offsetOf place) := by
  rcases divides.token_within token member with
    ⟨first, last, afterStart, nonempty, beforeStop, starts, stops⟩
  rintro ⟨reached, _⟩
  rw [starts, Source.offsetOf_le_iff (by omega)] at reached
  omega

/-- A token of a stretch does not reach over characters behind it. -/
theorem not_spans_of_le
    (divides : Divides source start stop tokens skips)
    {token : Token}
    (member : token ∈ tokens)
    (behind : stop ≤ place) :
    ¬ token.Spans (source.offsetOf place) := by
  rcases divides.token_within token member with
    ⟨first, last, afterStart, nonempty, beforeStop, starts, stops⟩
  rintro ⟨_, reached⟩
  rw [stops] at reached
  have ordered : source.offsetOf last ≤ source.offsetOf place :=
    Source.offsetOf_le (Nat.le_trans beforeStop behind)
  omega

/-- The characters that were skipped in a stretch stand between its ends. -/
theorem offset_bounds
    (divides : Divides source start stop tokens skips)
    (within : stop ≤ source.text.length)
    {skip : Skip}
    (member : skip ∈ skips) :
    source.offsetOf start ≤ skip.offset ∧ skip.offset < source.offsetOf stop := by
  rcases divides.skip_within skip member with ⟨place, afterStart, beforeStop, _, offset⟩
  rw [offset]
  exact ⟨Source.offsetOf_le afterStart, Source.offsetOf_lt beforeStop within⟩

theorem filter_skips_of_le
    (divides : Divides source start stop tokens skips)
    (within : stop ≤ source.text.length)
    (behind : stop ≤ place) :
    (skips.filter fun skip => skip.offset < source.offsetOf place) = skips := by
  apply List.filter_eq_self.mpr
  intro skip member
  have bounds := divides.offset_bounds within member
  have ordered : source.offsetOf stop ≤ source.offsetOf place := Source.offsetOf_le behind
  exact decide_eq_true (Nat.lt_of_lt_of_le bounds.2 ordered)

theorem filter_skips_start
    (divides : Divides source start stop tokens skips)
    (within : stop ≤ source.text.length) :
    (skips.filter fun skip => skip.offset < source.offsetOf start) = [] := by
  apply List.filter_eq_nil_iff.mpr
  intro skip member
  have bounds := divides.offset_bounds within member
  simpa using bounds.1

/-- Where two stretches meet, what was skipped is what lies in no token of both. -/
theorem skipped_iff_append
    (first : Divides source start middle tokens skips)
    (second : Divides source middle stop laterTokens laterSkips)
    (onwards : middle ≤ stop)
    (within : stop ≤ source.text.length)
    (later : start ≤ place)
    (before : place < stop) :
    (∃ skip ∈ skips ++ laterSkips, skip.offset = source.offsetOf place) ↔
      ∀ token ∈ tokens ++ laterTokens, ¬ token.Spans (source.offsetOf place) := by
  have middleWithin := Nat.le_trans onwards within
  rw [List.forall_mem_append]
  rcases Nat.lt_or_ge place middle with inFirst | inSecond
  · have ahead : source.offsetOf place < source.offsetOf middle :=
      Source.offsetOf_lt inFirst middleWithin
    have untouched : ∀ token ∈ laterTokens, ¬ token.Spans (source.offsetOf place) :=
      fun token member => second.not_spans_of_lt within member inFirst
    rw [← first.skipped_iff place later inFirst]
    constructor
    · rintro ⟨skip, member, offset⟩
      rcases List.mem_append.mp member with member | member
      · exact ⟨⟨skip, member, offset⟩, untouched⟩
      · have bounds := second.offset_bounds within member
        omega
    · rintro ⟨⟨skip, member, offset⟩, _⟩
      exact ⟨skip, List.mem_append_left _ member, offset⟩
  · have behind : source.offsetOf middle ≤ source.offsetOf place :=
      Source.offsetOf_le inSecond
    have untouched : ∀ token ∈ tokens, ¬ token.Spans (source.offsetOf place) :=
      fun token member => first.not_spans_of_le member inSecond
    rw [← second.skipped_iff place inSecond before]
    constructor
    · rintro ⟨skip, member, offset⟩
      rcases List.mem_append.mp member with member | member
      · have bounds := first.offset_bounds middleWithin member
        omega
      · exact ⟨untouched, skip, member, offset⟩
    · rintro ⟨_, skip, member, offset⟩
      exact ⟨skip, List.mem_append_right _ member, offset⟩

/-- Two stretches that meet are divided by the tokens and skipped characters of both. -/
theorem append
    (first : Divides source start middle tokens skips)
    (second : Divides source middle stop laterTokens laterSkips)
    (ordered : start ≤ middle)
    (onwards : middle ≤ stop)
    (within : stop ≤ source.text.length) :
    Divides source start stop (tokens ++ laterTokens) (skips ++ laterSkips) where
  token_within := by
    intro token member
    rcases List.mem_append.mp member with member | member
    · rcases first.token_within token member with ⟨begins, ends, bounds⟩
      exact ⟨begins, ends, by omega⟩
    · rcases second.token_within token member with ⟨begins, ends, bounds⟩
      exact ⟨begins, ends, by omega⟩
  skip_within := by
    intro skip member
    rcases List.mem_append.mp member with member | member
    · rcases first.skip_within skip member with ⟨place, later, before, found⟩
      exact ⟨place, later, Nat.lt_of_lt_of_le before onwards, found⟩
    · rcases second.skip_within skip member with ⟨place, later, before, found⟩
      exact ⟨place, Nat.le_trans ordered later, before, found⟩
  tokens_ordered := by
    apply List.pairwise_append.mpr
    refine ⟨first.tokens_ordered, second.tokens_ordered, ?_⟩
    intro earlier member later laterMember
    rcases first.token_within earlier member with ⟨_, ends, _, _, beforeMiddle, _, stops⟩
    rcases second.token_within later laterMember with ⟨begins, _, afterMiddle, _, _, starts, _⟩
    rw [stops, starts]
    exact Source.offsetOf_le (Nat.le_trans beforeMiddle afterMiddle)
  skips_ordered := by
    apply List.pairwise_append.mpr
    refine ⟨first.skips_ordered, second.skips_ordered, ?_⟩
    intro earlier member later laterMember
    have here := first.offset_bounds (Nat.le_trans onwards within) member
    have there := second.offset_bounds within laterMember
    exact Nat.lt_of_lt_of_le here.2 there.1
  skipped_iff := by
    intro place later before
    exact first.skipped_iff_append second onwards within later before

end Divides

end TokenForest
