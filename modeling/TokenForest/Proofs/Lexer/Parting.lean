import TokenForest.Proofs.Lexer.Drawing

/-!
# Where two sets of rules part

Two sets of rules may go over one source in the same way for a while: the second makes the tokens
that the first makes, and passes over what the first passes over, except perhaps for some characters
that are marked.  Then a lexer that goes by the second draws what a lexer that goes by the first
draws, up to the first marked character that the first one skips.  From there on it draws what it
would draw if it had begun at that character.
-/

namespace TokenForest

open Text (Source)

/--
The other rules do what the rules do, except at characters that are marked when they are skipped.
-/
structure ScanRules.Leads
    (rules : ScanRules)
    (source : Source)
    (marked : Skip → Bool)
    (other : ScanRules) :
    Prop where
  ignore_eq : other.ignore = rules.ignore
  lexes :
    ∀ kind start stop,
      rules.Lexes source.text kind start stop → other.Lexes source.text kind start stop
  passes :
    ∀ index character,
      rules.Passes source.text index character →
        marked (rules.skipAt source index character) = false →
          other.Passes source.text index character

namespace ScanRules

variable
    {rules other : ScanRules}
    {source : Source}
    {marked : Skip → Bool}
    {index : Nat}
    {skips : List Skip}
    {ending : Ending}

theorem Leads.skipAt_eq
    (leads : rules.Leads source marked other)
    (index : Nat)
    (character : Char) :
    other.skipAt source index character = rules.skipAt source index character := by
  rw [skipAt, skipAt, leads.ignore_eq]

theorem Leads.walks
    (leads : rules.Leads source marked other)
    (walks : rules.Walks source index skips ending)
    (unmarked : skips.find? marked = none)
    (unstopped : ∀ character place, ending ≠ .unrecognized character place) :
    other.Walks source index skips ending := by
  induction walks with
  | finished =>
      exact .finished
  | @passes index character skips ending present passes rest ih =>
      rw [List.find?_eq_none, List.forall_mem_cons] at unmarked
      rcases unmarked with ⟨here, later⟩
      have follows := leads.passes index character passes (Bool.eq_false_iff.mpr here)
      rw [← leads.skipAt_eq]
      exact .passes present follows (ih (List.find?_eq_none.mpr later) unstopped)
  | lexes lexes =>
      exact .lexes (leads.lexes _ _ _ lexes)
  | @stops index character present unrecognized strict =>
      exact absurd rfl (unstopped character index)

/-- A walk that skips a marked character is the way to this character for the other rules. -/
theorem Leads.walks_from
    (leads : rules.Leads source marked other)
    (walks : rules.Walks source index skips ending)
    {skip : Skip}
    (found : skips.find? marked = some skip) :
    ∃ place,
      place < ending.reach source ∧
        source.text[place]? = some skip.character ∧
        rules.Passes source.text place skip.character ∧
        skip = rules.skipAt source place skip.character ∧
        ∀ others last,
          other.Walks source place others last →
            ∃ before, other.Walks source index (before ++ others) last := by
  induction walks with
  | finished =>
      cases found
  | @passes index character skips ending present passes rest ih =>
      cases mark : marked (rules.skipAt source index character) with
      | true =>
          rw [List.find?_cons_of_pos mark] at found
          cases found
          refine ⟨index, rest.bounds.1, present, passes, rfl, ?_⟩
          intro others last onwards
          exact ⟨[], onwards⟩
      | false =>
          rw [List.find?_cons_of_neg (by simp [mark])] at found
          rcases ih found with ⟨place, before, there, passed, same, onwards⟩
          refine ⟨place, before, there, passed, same, ?_⟩
          intro others last walks
          rcases onwards others last walks with ⟨earlier, whole⟩
          exact ⟨other.skipAt source index character :: earlier,
            .passes present (leads.passes index character passes mark) whole⟩
  | lexes lexes =>
      cases found
  | stops present unrecognized strict =>
      cases found

end ScanRules

namespace Lexer

/-- The lexer with other rules. -/
def under (lexer : Lexer) (rules : ScanRules) : Lexer := { lexer with rules }

variable
    {lexer after : Lexer}
    {count : Nat}
    {skips : List Skip}

theorem under_atIndex
    (rules : ScanRules)
    (index : Nat) :
    (lexer.under rules).atIndex index = (lexer.atIndex index).under rules :=
  rfl

theorem AtBoundary.under
    (boundary : lexer.AtBoundary)
    (rules : ScanRules) :
    (lexer.under rules).AtBoundary :=
  boundary.of_eq rfl rfl

/-! ## Drawing along a walk -/

theorem AtBoundary.take_of_finished
    (boundary : lexer.AtBoundary)
    (walks : lexer.rules.Walks lexer.source lexer.cursor.index skips .finished)
    (count : Nat) :
    lexer.take (count + 1) =
      { result := { tokens := [] }
        trace := skips.map .skipped
        lexer := lexer.atIndex lexer.source.text.length } := by
  rw [take, boundary.next_eq walks]
  simp only [Ending.answer, Ending.notes, Ending.place, List.append_nil]

theorem AtBoundary.take_of_token
    {kind : String} {start stop : Nat}
    (boundary : lexer.AtBoundary)
    (walks : lexer.rules.Walks lexer.source lexer.cursor.index skips (.token kind start stop))
    (count : Nat) :
    lexer.take (count + 1) =
      let token := Token.between lexer.source kind start stop
      let later := (lexer.atIndex stop).take count
      { result := { later.result with tokens := token :: later.result.tokens }
        trace := skips.map .skipped ++ [.drawn token] ++ later.trace
        lexer := later.lexer } := by
  rw [take, boundary.next_eq walks]
  rfl

theorem AtBoundary.take_of_unrecognized
    {character : Char} {index : Nat}
    (boundary : lexer.AtBoundary)
    (walks : lexer.rules.Walks lexer.source lexer.cursor.index skips
      (.unrecognized character index))
    (count : Nat) :
    lexer.take (count + 1) =
      { result :=
          { tokens := []
            fault := some (.reported {
              character
              position := lexer.source.positionAt (lexer.source.offsetOf index) }) }
        trace := skips.map .skipped
        lexer := lexer.atIndex index } := by
  rw [take, boundary.next_eq walks]
  simp only [Ending.answer, Ending.notes, Ending.place, List.append_nil]

/--
Only the end of a walk and what follows it matter for what is drawn, not where the walk began.
-/
theorem AtBoundary.take_result_eq
    {others : List Skip} {ending : Ending} {place : Nat}
    (boundary : lexer.AtBoundary)
    (within : place ≤ lexer.source.text.length)
    (walks : lexer.rules.Walks lexer.source lexer.cursor.index skips ending)
    (again : lexer.rules.Walks lexer.source place others ending) :
    (lexer.take (count + 1)).result = ((lexer.atIndex place).take (count + 1)).result := by
  have there : (lexer.atIndex place).AtBoundary := atBoundary_atIndex within
  rw [take, boundary.next_eq walks, take, there.next_eq again]
  cases ending with
  | finished =>
      rfl
  | token kind start stop =>
      rfl
  | unrecognized character index =>
      rfl

theorem AtBoundary.exists_skips_take
    {ending : Ending}
    (boundary : lexer.AtBoundary)
    (walks : lexer.rules.Walks lexer.source lexer.cursor.index skips ending)
    (count : Nat) :
    ∃ later, (lexer.take (count + 1)).trace.skips = skips ++ later := by
  cases ending with
  | finished =>
      rw [boundary.take_of_finished walks]
      exact ⟨[], by simp⟩
  | token kind start stop =>
      rw [boundary.take_of_token walks]
      exact ⟨((lexer.atIndex stop).take count).trace.skips, by simp⟩
  | unrecognized character index =>
      rw [boundary.take_of_unrecognized walks]
      exact ⟨[], by simp⟩

/-! ## What is drawn lies ahead -/

/-- What is drawn lies behind the place from which it is drawn. -/
theorem Draws.lt_stop_of_mem
    {trace : Trace} {token : Token}
    (draws : lexer.Draws trace after)
    (member : token ∈ trace.tokens) :
    lexer.source.offsetOf lexer.cursor.index < token.stop := by
  rcases draws with ⟨within, covers⟩
  rcases (covers.divides within).token_within token member with
    ⟨first, last, behind, nonempty, before, _, stops⟩
  rw [stops]
  exact Source.offsetOf_lt (Nat.lt_of_le_of_lt behind nonempty) (Nat.le_trans before within)

theorem Draws.le_offset_of_mem
    {trace : Trace} {skip : Skip}
    (draws : lexer.Draws trace after)
    (member : skip ∈ trace.skips) :
    lexer.source.offsetOf lexer.cursor.index ≤ skip.offset := by
  rcases draws with ⟨within, covers⟩
  rcases (covers.divides within).skip_within skip member with ⟨place, behind, _, _, offset⟩
  rw [offset]
  exact Source.offsetOf_le behind

/-- A walk reaches the first of the tokens that are drawn along it. -/
theorem AtBoundary.reach_lt_stop
    {ending : Ending} {token : Token}
    (boundary : lexer.AtBoundary)
    (walks : lexer.rules.Walks lexer.source lexer.cursor.index skips ending)
    (member : token ∈ (lexer.take (count + 1)).result.tokens) :
    lexer.source.offsetOf (ending.reach lexer.source) < token.stop := by
  cases ending with
  | finished =>
      rw [boundary.take_of_finished walks] at member
      cases member
  | token kind start stop =>
      have nonempty : lexer.source.offsetOf start < lexer.source.offsetOf stop :=
        Source.offsetOf_lt walks.token_lt walks.bounds.2.2
      rw [boundary.take_of_token walks] at member
      rcases List.mem_cons.mp member with rfl | later
      · exact nonempty
      · have there : (lexer.atIndex stop).AtBoundary := atBoundary_atIndex walks.bounds.2.2
        rcases there.take_draws count with ⟨draws, tokens⟩
        exact Nat.lt_trans nonempty (draws.lt_stop_of_mem (tokens ▸ later))
  | unrecognized character index =>
      rw [boundary.take_of_unrecognized walks] at member
      cases member

/-! ## Drawing by other rules -/

variable
    {marked : Skip → Bool}
    {other : ScanRules}

/-- Where nothing marked is skipped, the other rules draw the same. -/
theorem AtBoundary.take_leads
    (boundary : lexer.AtBoundary)
    (leads : lexer.rules.Leads lexer.source marked other)
    (unfailed : (lexer.take count).result.fault = none)
    (unmarked : (lexer.take count).trace.skips.find? marked = none) :
    ((lexer.under other).take count).result = (lexer.take count).result := by
  induction count generalizing lexer with
  | zero =>
      rfl
  | succ count ih =>
      rcases lexer.rules.exists_walks boundary.index_le with ⟨skips, ending, walks⟩
      cases ending with
      | finished =>
          rw [boundary.take_of_finished walks] at unmarked ⊢
          have follows := leads.walks walks (by simpa using unmarked) (by simp)
          rw [(boundary.under other).take_of_finished follows]
      | token kind start stop =>
          rw [boundary.take_of_token walks] at unfailed unmarked ⊢
          simp only [Trace.skips_append, Trace.skips_map_skipped, Trace.skips_cons_drawn,
            Trace.skips_nil, List.append_nil, List.find?_append, Option.or_eq_none_iff] at unmarked
          have follows := leads.walks walks unmarked.1 (by simp)
          have there : (lexer.atIndex stop).AtBoundary := atBoundary_atIndex walks.bounds.2.2
          have later := ih there leads unfailed unmarked.2
          rw [(boundary.under other).take_of_token follows]
          simp only [under_atIndex, later]
          rfl
      | unrecognized character index =>
          rw [boundary.take_of_unrecognized walks] at unfailed
          cases unfailed

/--
By other rules the lexer draws the tokens that end before a skipped character, and then what it
draws from this character on.
-/
inductive PartsAt (lexer : Lexer) (other : ScanRules) (count : Nat) (skip : Skip) : Prop where
  | intro
      (place left : Nat)
      (present : lexer.source.text[place]? = some skip.character)
      (passes : lexer.rules.Passes lexer.source.text place skip.character)
      (noted : skip = lexer.rules.skipAt lexer.source place skip.character)
      (drawn :
        let rest := (((lexer.under other).atIndex place).take (left + 1)).result
        ((lexer.under other).take count).result =
          { rest with
            tokens :=
              ((lexer.take count).result.tokens.filter fun token => token.stop ≤ skip.offset) ++
                rest.tokens }) :
      PartsAt lexer other count skip

theorem AtBoundary.partsAt_of_walks
    {ending : Ending} {skip : Skip}
    (boundary : lexer.AtBoundary)
    (leads : lexer.rules.Leads lexer.source marked other)
    (walks : lexer.rules.Walks lexer.source lexer.cursor.index skips ending)
    (found : skips.find? marked = some skip) :
    lexer.PartsAt other (count + 1) skip := by
  rcases leads.walks_from walks found with ⟨place, before, there, passed, same, onwards⟩
  have within : place ≤ lexer.source.text.length :=
    Nat.le_of_lt (List.getElem?_eq_some_iff.mp there).1
  rcases other.exists_walks within with ⟨others, last, rest⟩
  rcases onwards others last rest with ⟨earlier, whole⟩
  refine .intro place count there passed same ?_
  have behind : ((lexer.take (count + 1)).result.tokens.filter fun token =>
      token.stop ≤ skip.offset) = [] := by
    apply List.filter_eq_nil_iff.mpr
    intro token member
    have further := boundary.reach_lt_stop walks member
    have ahead : lexer.source.offsetOf place ≤
        lexer.source.offsetOf (ending.reach lexer.source) :=
      Source.offsetOf_le (Nat.le_of_lt before)
    have offset : skip.offset = lexer.source.offsetOf place := congrArg Skip.offset same
    rw [decide_eq_true_eq, offset]
    exact Nat.not_le_of_lt (Nat.lt_of_le_of_lt ahead further)
  rw [behind]
  exact (boundary.under other).take_result_eq within whole rest

/-- Where something marked is skipped, the first such character is where the other rules part. -/
theorem AtBoundary.partsAt
    {skip : Skip}
    (boundary : lexer.AtBoundary)
    (leads : lexer.rules.Leads lexer.source marked other)
    (found : (lexer.take count).trace.skips.find? marked = some skip) :
    lexer.PartsAt other count skip := by
  induction count generalizing lexer with
  | zero =>
      cases found
  | succ count ih =>
      rcases lexer.rules.exists_walks boundary.index_le with ⟨skips, ending, walks⟩
      cases first : skips.find? marked with
      | some earliest =>
          rcases boundary.exists_skips_take walks count with ⟨later, noted⟩
          rw [noted, List.find?_append, first] at found
          cases found
          exact boundary.partsAt_of_walks leads walks first
      | none =>
          cases ending with
          | finished =>
              rw [boundary.take_of_finished walks, Trace.skips_map_skipped, first] at found
              cases found
          | token kind start stop =>
              have there : (lexer.atIndex stop).AtBoundary := atBoundary_atIndex walks.bounds.2.2
              have drawn := boundary.take_of_token walks count
              rw [drawn] at found
              simp only [Trace.skips_append, Trace.skips_map_skipped, Trace.skips_cons_drawn,
                Trace.skips_nil, List.append_nil, List.find?_append, first, Option.none_or] at found
              have behind : (Token.between lexer.source kind start stop).stop ≤ skip.offset :=
                (there.take_draws count).1.le_offset_of_mem (List.mem_of_find?_eq_some found)
              rcases ih there leads found with ⟨place, left, present, passes, noted, later⟩
              refine .intro place left present passes noted ?_
              have follows := leads.walks walks first (by simp)
              rw [drawn, (boundary.under other).take_of_token follows]
              simp only [under_atIndex, later]
              rw [List.filter_cons, if_pos (decide_eq_true behind)]
              rfl
          | unrecognized character index =>
              rw [boundary.take_of_unrecognized walks, Trace.skips_map_skipped, first] at found
              cases found

end Lexer

end TokenForest
