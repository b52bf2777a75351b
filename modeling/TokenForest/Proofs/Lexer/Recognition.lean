import TokenForest.Lexer.Scan
import TokenForest.Proofs.Pattern.Progress

/-!
# What rules make of a character

The character at an index of a text is passed over, begins a token, or stops the scan.  The three
cases are stated here over the text alone: a character is passed over if it is to be ignored, or if
nothing recognizes it and the rules are lenient; it begins a token if it is literal, or if a rule
matches some characters from it on, and then the first such rule counts; under strict rules a
character that nothing recognizes stops the scan.  The verdict of the rules is exactly this.
-/

namespace TokenForest

/-- A rule matches the characters from an index up to a later one. -/
def PatternRule.Matches
    (rule : PatternRule)
    (text : List Char)
    (start stop : Nat) :
    Prop :=
  rule.pattern.matchEnd? text start = some stop ∧ start < stop

/-- No rule of a list matches any characters from an index on. -/
def NoMatch (patterns : List PatternRule) (text : List Char) (start : Nat) : Prop :=
  ∀ rule ∈ patterns, ∀ stop, ¬ rule.Matches text start stop

/-- A rule of a list matches from an index, and no rule before it matches any characters there. -/
def FirstMatch
    (patterns : List PatternRule)
    (text : List Char)
    (start : Nat)
    (rule : PatternRule)
    (stop : Nat) :
    Prop :=
  ∃ earlier later,
    patterns = earlier ++ rule :: later ∧
      rule.Matches text start stop ∧
        NoMatch earlier text start

namespace ScanRules

/-- The character is neither ignored nor literal, and no rule matches from it. -/
structure Unrecognized
    (rules : ScanRules)
    (text : List Char)
    (index : Nat)
    (character : Char) :
    Prop where
  kept : rules.ignore.contains character = false
  plain : rules.literals.contains character = false
  unmatched : NoMatch rules.patterns text index

/-- The character at an index is passed over. -/
inductive Passes
    (rules : ScanRules)
    (text : List Char)
    (index : Nat)
    (character : Char) :
    Prop where
  | ignored
      (ignored : rules.ignore.contains character = true)
  | lenient
      (unrecognized : rules.Unrecognized text index character)
      (lenient : rules.strict = false)

/-- The characters from an index up to a later one are a token of a kind. -/
inductive Lexes
    (rules : ScanRules)
    (text : List Char) :
    (kind : String) → (start stop : Nat) → Prop where
  | literal
      {index : Nat} {character : Char}
      (present : text[index]? = some character)
      (kept : rules.ignore.contains character = false)
      (literal : rules.literals.contains character = true) :
      Lexes rules text literalKind index (index + 1)
  | matched
      {index stop : Nat} {character : Char} {rule : PatternRule}
      (present : text[index]? = some character)
      (kept : rules.ignore.contains character = false)
      (plain : rules.literals.contains character = false)
      (first : FirstMatch rules.patterns text index rule stop) :
      Lexes rules text rule.kind index stop

end ScanRules

/-! ## The first rule that matches -/

theorem PatternRule.Matches.stop_le
    {rule : PatternRule}
    {text : List Char}
    {start stop : Nat}
    (matched : rule.Matches text start stop)
    (within : start ≤ text.length) :
    stop ≤ text.length :=
  (Pattern.matchEnd?_bounds within matched.1).2

theorem FirstMatch.mem
    {patterns : List PatternRule}
    {text : List Char}
    {start stop : Nat}
    {rule : PatternRule}
    (first : FirstMatch patterns text start rule stop) :
    rule ∈ patterns ∧ rule.Matches text start stop := by
  obtain ⟨earlier, later, rfl, matched, _⟩ := first
  exact ⟨by simp, matched⟩

theorem FirstMatch.append_right
    {patterns : List PatternRule}
    {text : List Char}
    {start stop : Nat}
    {rule : PatternRule}
    (first : FirstMatch patterns text start rule stop)
    (added : List PatternRule) :
    FirstMatch (patterns ++ added) text start rule stop := by
  rcases first with ⟨earlier, later, rfl, matched, silent⟩
  exact ⟨earlier, later ++ added, by simp, matched, silent⟩

theorem FirstMatch.append_left
    {patterns added : List PatternRule}
    {text : List Char}
    {start stop : Nat}
    {rule : PatternRule}
    (first : FirstMatch added text start rule stop)
    (silent : NoMatch patterns text start) :
    FirstMatch (patterns ++ added) text start rule stop := by
  rcases first with ⟨earlier, later, rfl, matched, quiet⟩
  refine ⟨patterns ++ earlier, later, by simp, matched, ?_⟩
  intro other member
  rcases List.mem_append.mp member with here | there
  · exact silent other here
  · exact quiet other there

/-- A rule that matches nothing leaves the choice to the rules after it. -/
theorem firstMatch?_cons_of_not_matches
    {rule : PatternRule}
    {text : List Char}
    {start : Nat}
    (within : start ≤ text.length)
    (silent : ∀ stop, ¬ rule.Matches text start stop)
    (rest : List PatternRule) :
    ScanRules.firstMatch? text start (rule :: rest) = ScanRules.firstMatch? text start rest := by
  rw [ScanRules.firstMatch?]
  cases found : rule.pattern.matchEnd? text start with
  | none =>
      rfl
  | some stop =>
      have bounds := Pattern.matchEnd?_bounds within found
      have empty : stop = start := by
        apply Nat.le_antisymm _ bounds.1
        exact Nat.le_of_not_lt fun later => silent stop ⟨found, later⟩
      simp only
      rw [if_pos empty]

theorem firstMatch?_append_of_noMatch
    {earlier : List PatternRule}
    {text : List Char}
    {start : Nat}
    (within : start ≤ text.length)
    (silent : NoMatch earlier text start)
    (rest : List PatternRule) :
    ScanRules.firstMatch? text start (earlier ++ rest) =
      ScanRules.firstMatch? text start rest := by
  induction earlier with
  | nil =>
      rfl
  | cons rule earlier ih =>
      rw [List.cons_append, firstMatch?_cons_of_not_matches within]
      · exact ih fun other member => silent other (List.mem_cons_of_mem rule member)
      · exact silent rule List.mem_cons_self

theorem firstMatch?_eq_none_of_noMatch
    {patterns : List PatternRule}
    {text : List Char}
    {start : Nat}
    (within : start ≤ text.length)
    (silent : NoMatch patterns text start) :
    ScanRules.firstMatch? text start patterns = none := by
  simpa [ScanRules.firstMatch?] using firstMatch?_append_of_noMatch within silent []

theorem FirstMatch.firstMatch?_eq
    {patterns : List PatternRule}
    {text : List Char}
    {start stop : Nat}
    {rule : PatternRule}
    (first : FirstMatch patterns text start rule stop)
    (within : start ≤ text.length) :
    ScanRules.firstMatch? text start patterns = some (rule.kind, stop) := by
  obtain ⟨earlier, later, rfl, ⟨found, nonempty⟩, silent⟩ := first
  rw [firstMatch?_append_of_noMatch within silent, ScanRules.firstMatch?, found]
  simp only
  rw [if_neg (by omega)]

/-- Either no rule of a list matches, or there is a first one that does. -/
theorem noMatch_or_firstMatch
    (patterns : List PatternRule)
    (text : List Char)
    (start : Nat) :
    NoMatch patterns text start ∨
      ∃ rule stop, FirstMatch patterns text start rule stop := by
  induction patterns with
  | nil =>
      exact Or.inl fun rule member => absurd member List.not_mem_nil
  | cons rule rest ih =>
      by_cases matched : ∃ stop, rule.Matches text start stop
      · obtain ⟨stop, matches'⟩ := matched
        exact Or.inr
          ⟨rule, stop, [], rest, rfl, matches', fun other member =>
            absurd member List.not_mem_nil⟩
      have silent : ∀ stop, ¬ rule.Matches text start stop :=
        fun stop matches' => matched ⟨stop, matches'⟩
      have extend
          {earlier : List PatternRule}
          (quiet : NoMatch earlier text start) :
          NoMatch (rule :: earlier) text start := by
        intro other member
        rcases List.mem_cons.mp member with rfl | member
        · exact silent
        · exact quiet other member
      rcases ih with quiet | ⟨found, stop, earlier, later, rfl, matches', quiet⟩
      · exact Or.inl (extend quiet)
      · exact Or.inr ⟨found, stop, rule :: earlier, later, rfl, matches', extend quiet⟩

/-- The search for a match finds none only if there is none. -/
theorem noMatch_iff_firstMatch?
    {patterns : List PatternRule}
    {text : List Char}
    {start : Nat}
    (within : start ≤ text.length) :
    NoMatch patterns text start ↔ ScanRules.firstMatch? text start patterns = none := by
  constructor
  · exact firstMatch?_eq_none_of_noMatch within
  · intro none
    rcases noMatch_or_firstMatch patterns text start with silent | ⟨rule, stop, first⟩
    · exact silent
    · rw [first.firstMatch?_eq within] at none
      cases none

/-- What the search finds is the first match. -/
theorem exists_firstMatch_of_firstMatch?
    {patterns : List PatternRule}
    {text : List Char}
    {start stop : Nat}
    {kind : String}
    (within : start ≤ text.length)
    (found : ScanRules.firstMatch? text start patterns = some (kind, stop)) :
    ∃ rule, rule.kind = kind ∧ FirstMatch patterns text start rule stop := by
  rcases noMatch_or_firstMatch patterns text start with silent | ⟨rule, last, first⟩
  · rw [firstMatch?_eq_none_of_noMatch within silent] at found
    cases found
  · rw [first.firstMatch?_eq within] at found
    cases found
    exact ⟨rule, rfl, first⟩

/-! ## The three cases -/

namespace ScanRules

variable
    {rules : ScanRules}
    {text : List Char}

/-- What is a token has at least one character, and lies within the text. -/
theorem Lexes.bounds
    {kind : String} {start stop : Nat}
    (lexes : rules.Lexes text kind start stop) :
    start < stop ∧ stop ≤ text.length := by
  cases lexes with
  | literal present kept literal =>
      have inside := (List.getElem?_eq_some_iff.mp present).1
      exact ⟨Nat.lt_succ_self start, inside⟩
  | matched present kept plain first =>
      have inside := (List.getElem?_eq_some_iff.mp present).1
      have matched := first.mem.2
      exact ⟨matched.2, matched.stop_le (Nat.le_of_lt inside)⟩

/-- Every character is passed over, begins a token, or stops the scan. -/
theorem passes_or_lexes_or_stops
    (rules : ScanRules)
    {index : Nat} {character : Char}
    (present : text[index]? = some character) :
    rules.Passes text index character ∨
      (∃ kind stop, rules.Lexes text kind index stop) ∨
        (rules.Unrecognized text index character ∧ rules.strict = true) := by
  cases ignored : rules.ignore.contains character with
  | true =>
      exact Or.inl (.ignored ignored)
  | false =>
      cases plain : rules.literals.contains character with
      | true =>
          exact Or.inr (Or.inl ⟨_, _, .literal present ignored plain⟩)
      | false =>
          rcases noMatch_or_firstMatch rules.patterns text index with
            silent | ⟨rule, stop, first⟩
          · have unrecognized : rules.Unrecognized text index character :=
              ⟨ignored, plain, silent⟩
            cases strict : rules.strict with
            | true =>
                exact Or.inr (Or.inr ⟨unrecognized, rfl⟩)
            | false =>
                exact Or.inl (.lenient unrecognized strict)
          · exact Or.inr (Or.inl ⟨_, _, .matched present ignored plain first⟩)

/-- An ignored character is seen as such, whatever else it is. -/
theorem verdict_of_ignored
    {index : Nat} {character : Char}
    (ignored : rules.ignore.contains character = true) :
    rules.verdict text index character = .ignored := by
  rw [verdict, if_pos ignored]

theorem verdict_of_literal
    {index : Nat} {character : Char}
    (kept : rules.ignore.contains character = false)
    (literal : rules.literals.contains character = true) :
    rules.verdict text index character = .literal := by
  rw [verdict, if_neg (by simp [kept]), if_pos literal]

theorem verdict_of_firstMatch
    {index stop : Nat} {character : Char} {rule : PatternRule}
    (within : index ≤ text.length)
    (kept : rules.ignore.contains character = false)
    (plain : rules.literals.contains character = false)
    (first : FirstMatch rules.patterns text index rule stop) :
    rules.verdict text index character = .matched rule.kind stop := by
  rw [verdict, if_neg (by simp [kept]), if_neg (by simp [plain]), first.firstMatch?_eq within]

theorem Unrecognized.verdict_eq
    {index : Nat} {character : Char}
    (unrecognized : rules.Unrecognized text index character)
    (within : index ≤ text.length) :
    rules.verdict text index character = .unrecognized := by
  rw [verdict, if_neg (by simp [unrecognized.kept]), if_neg (by simp [unrecognized.plain]),
    firstMatch?_eq_none_of_noMatch within unrecognized.unmatched]

end ScanRules

end TokenForest
