import TokenForest.Proofs.Lexer.Registry

/-!
# Literal tokens

A delimiter pair of the literal kind is refused if one of its lexemes is not a single character,
since literal tokens are said to be single characters.  The literal characters make such tokens, but
a pattern rule may name the literal kind as well, wherever it comes from, and nothing bounds what it
matches.  The literal tokens that are not single characters are exactly those that such a rule made
of a longer match.  Where no such rule has a longer match in the source, the pairs that are refused
are indeed pairs that could not be matched.
-/

namespace TokenForest

open Text (Source)

/-- The rule makes a literal token of more than one character of the text. -/
structure PatternRule.Overlong
    (rule : PatternRule)
    (text : List Char)
    (start stop : Nat) :
    Prop where
  kind_eq : rule.kind = literalKind
  matched : rule.Matches text start stop
  longer : start + 1 < stop
  within : stop ≤ text.length

namespace PatternRule

variable
    {rule : PatternRule}
    {text : List Char}

/-- Whether the rule makes a literal token of more than one character somewhere in the text. -/
def overruns (rule : PatternRule) (text : List Char) : Bool :=
  rule.kind == literalKind &&
    (List.range text.length).any fun start =>
      match rule.pattern.matchEnd? text start with
      | some stop => start + 1 < stop
      | none => false

theorem overruns_iff :
    rule.overruns text = true ↔ ∃ start stop, rule.Overlong text start stop := by
  rw [overruns, Bool.and_eq_true, beq_iff_eq, List.any_eq_true]
  constructor
  · rintro ⟨kind_eq, start, listed, longer⟩
    rw [List.mem_range] at listed
    cases found : rule.pattern.matchEnd? text start with
    | none =>
        simp [found] at longer
    | some stop =>
        have longer : start + 1 < stop := by simpa [found] using longer
        have bounds := Pattern.matchEnd?_bounds (Nat.le_of_lt listed) found
        exact ⟨start, stop, kind_eq, ⟨found, by omega⟩, longer, bounds.2⟩
  · rintro ⟨start, stop, kind_eq, ⟨found, _⟩, longer, within⟩
    refine ⟨kind_eq, start, List.mem_range.mpr (by omega), ?_⟩
    simpa [found] using longer

end PatternRule

/-- The lexeme of a token between two places has all characters that stand there. -/
theorem Token.length_lexeme_between
    {source : Source} {start stop : Nat}
    (kind : String)
    (within : stop ≤ source.text.length) :
    (Token.between source kind start stop).lexeme.length = stop - start := by
  rw [Token.between, String.length_ofList, Source.length_between within]

namespace ScanRules

variable
    {rules : ScanRules}
    {source : Source}
    {kind : String}
    {start stop : Nat}

/-- A literal token of another length than one is made by a rule with an overlong match. -/
theorem Lexes.exists_overlong
    (lexes : rules.Lexes source.text kind start stop)
    (literal : kind = literalKind)
    (long : (Token.between source kind start stop).lexeme.length ≠ 1) :
    ∃ rule,
      FirstMatch rules.patterns source.text start rule stop ∧
        rule.Overlong source.text start stop := by
  have bounds := lexes.bounds
  rw [Token.length_lexeme_between kind bounds.2] at long
  cases lexes with
  | literal present kept literal =>
      exact absurd (Nat.add_sub_cancel_left start 1) long
  | @matched _ _ _ rule present kept plain first =>
      exact ⟨rule, first, literal, first.mem.2, by omega, bounds.2⟩

end ScanRules

/-- A pair that is refused has a lexeme that is not a single character. -/
theorem DelimiterPair.exists_of_refused
    {pair : DelimiterPair} {refusal : ConfigError}
    (refused : DelimiterPair.checked pair = .error refusal) :
    ∃ lexeme, (lexeme = pair.opener ∨ lexeme = pair.closer) ∧ lexeme.length ≠ 1 := by
  by_cases opener : pair.opener.length = 1
  · by_cases closer : pair.closer.length = 1
    · have nonempty {lexeme : String} (one : lexeme.length = 1) : lexeme.isEmpty = false := by
        rw [String.isEmpty_eq_false_iff]
        rintro rfl
        cases one
      rw [checked, nonempty opener, nonempty closer] at refused
      simp [opener, closer] at refused
    · exact ⟨pair.closer, .inr rfl, closer⟩
  · exact ⟨pair.opener, .inl rfl, opener⟩

section Session

variable
    {source : Source}
    {config : Config}
    {filename : String}
    {operations : List Operation}
    {rules : ScanRules}
    {token : Token}

/-- A first match among rules of a session is that of a rule which the session has registered. -/
theorem mem_registered_of_firstMatch
    [Text.CharacterNames]
    {rule : PatternRule} {start stop : Nat}
    (made : (rules, token) ∈ (session source config filename operations).emitted)
    (first : FirstMatch rules.patterns source.text start rule stop) :
    rule ∈ config.patterns ++ rulesAdded operations := by
  rcases rules_of_mem_emitted_session made with ⟨earlier, ⟨later, whole⟩, rfl⟩
  rw [← whole, rulesAdded_append, ← List.append_assoc]
  exact List.mem_append_left _ first.mem.1

/-- The literal tokens of other lengths than one are those of overlong matches. -/
theorem length_ne_one_iff_of_literal
    [Text.CharacterNames]
    (made : (rules, token) ∈ (session source config filename operations).emitted)
    (literal : token.kind = literalKind) :
    token.lexeme.length ≠ 1 ↔
      ∃ rule ∈ config.patterns ++ rulesAdded operations, ∃ start stop,
        FirstMatch rules.patterns source.text start rule stop ∧
          rule.Overlong source.text start stop ∧
          token = Token.between source literalKind start stop := by
  constructor
  · intro long
    rcases (sound_session source config filename operations).lexes _ made with
      ⟨kind, start, stop, lexes, cut⟩
    have cut : token = Token.between source kind start stop := cut
    subst cut
    have kind_eq : kind = literalKind := literal
    rcases lexes.exists_overlong kind_eq long with ⟨rule, first, overlong⟩
    refine ⟨rule, mem_registered_of_firstMatch made first, start, stop, first, overlong, ?_⟩
    rw [kind_eq]
  · rintro ⟨rule, _, start, stop, _, overlong, rfl⟩
    have longer := overlong.longer
    rw [Token.length_lexeme_between _ overlong.within]
    omega

/-- Where no registered rule has an overlong match, literal tokens are single characters. -/
theorem length_eq_one_of_literal
    [Text.CharacterNames]
    (single :
      ∀ rule ∈ config.patterns ++ rulesAdded operations, ∀ start stop,
        ¬ rule.Overlong source.text start stop)
    (made : (rules, token) ∈ (session source config filename operations).emitted)
    (literal : token.kind = literalKind) :
    token.lexeme.length = 1 := by
  by_contra long
  rcases (length_ne_one_iff_of_literal made literal).mp long with
    ⟨rule, registered, start, stop, _, overlong, _⟩
  exact single rule registered start stop overlong

end Session

/--
In every session a literal token is a single character, unless a rule that names the literal kind
has made it of a longer match.  So if none of the rules of the configuration and of those that were
added matches more than one character of the source, all literal tokens are single characters, and a
pair of the literal kind that is refused has a lexeme that no literal token has.
-/
theorem literal_tokens_are_long_by_rules_only
    [Text.CharacterNames]
    (source : Source)
    (config : Config)
    (filename : String)
    (operations : List Operation) :
    let emitted := (session source config filename operations).emitted
    let registered := config.patterns ++ rulesAdded operations
    (∀ rules token,
      (rules, token) ∈ emitted →
        token.kind = literalKind →
          (token.lexeme.length ≠ 1 ↔
            ∃ rule ∈ registered, ∃ start stop,
              FirstMatch rules.patterns source.text start rule stop ∧
                rule.Overlong source.text start stop ∧
                token = Token.between source literalKind start stop)) ∧
      ((∀ rule ∈ registered, ∀ start stop, ¬ rule.Overlong source.text start stop) →
        (∀ rules token,
          (rules, token) ∈ emitted →
            token.kind = literalKind →
              token.lexeme.length = 1) ∧
          ∀ pair refusal,
            DelimiterPair.checked pair = .error refusal →
              pair.kind = literalKind →
                ∃ lexeme,
                  (lexeme = pair.opener ∨ lexeme = pair.closer) ∧
                    ∀ rules token,
                      (rules, token) ∈ emitted →
                        token.kind = pair.kind →
                          token.lexeme ≠ lexeme) := by
  intro emitted registered
  refine ⟨fun rules token => length_ne_one_iff_of_literal, ?_⟩
  intro single
  refine ⟨fun rules token => length_eq_one_of_literal single, ?_⟩
  intro pair refusal refused literal
  rcases DelimiterPair.exists_of_refused refused with ⟨lexeme, either, long⟩
  refine ⟨lexeme, either, ?_⟩
  rintro rules token made sameKind rfl
  exact long (length_eq_one_of_literal single made (sameKind.trans literal))

/-- Rules for a literal letter and for words, and a pass over the source. -/
def accentCalls : List Operation := [
  .addPattern { kind := literalKind, pattern := "é" },
  .addPattern { kind := "id", pattern := "[a-z]+" },
  .tokens]

open scoped Text.CharacterNames

theorem literal_tokens_are_long_by_rules_only_accent :
    let account := session { text := "é(ab".toList } Config.standard "<input>" accentCalls
    account.emitted.map (fun entry => (entry.2.kind, entry.2.lexeme)) =
        [("lit", "é"), ("lit", "("), ("id", "ab")] ∧
      (∀ rules token,
        (rules, token) ∈ account.emitted →
          token.kind = literalKind →
            token.lexeme.length = 1) := by
  intro account
  have single : ∀ rule ∈ Config.standard.patterns ++ rulesAdded accentCalls, ∀ start stop,
      ¬ rule.Overlong "é(ab".toList start stop := by
    have none : (Config.standard.patterns ++ rulesAdded accentCalls).any
        (fun rule => rule.overruns "é(ab".toList) = false := by
      decide +kernel
    intro rule listed start stop overlong
    have overruns := List.any_eq_false.mp none rule listed
    exact overruns (PatternRule.overruns_iff.mpr ⟨start, stop, overlong⟩)
  have lengths := (literal_tokens_are_long_by_rules_only { text := "é(ab".toList } Config.standard
    "<input>" accentCalls).2 single
  exact ⟨by decide +kernel, lengths.1⟩

/-- Rules of the literal kind may match words, even both lexemes of a pair that is refused. -/
theorem literal_tokens_of_two_characters :
    let account :=
      session { text := "abba".toList } Config.standard "<input>" [
        .addPattern { kind := literalKind, pattern := "ab" },
        .addPattern { kind := literalKind, pattern := "ba" },
        .tokens]
    let pair : DelimiterPair := { kind := literalKind, opener := "ab", closer := "ba" }
    ¬ (∀ rules token,
        (rules, token) ∈ account.emitted →
          token.kind = literalKind →
            token.lexeme.length = 1) ∧
      DelimiterPair.checked pair = .error (.longLiteralDelimiter "ab" "ba") ∧
      ∀ lexeme ∈ [pair.opener, pair.closer],
        ∃ rules token,
          (rules, token) ∈ account.emitted ∧
            token.kind = pair.kind ∧
            token.lexeme = lexeme := by
  intro account pair
  have made : account.emitted.map (fun entry => (entry.2.kind, entry.2.lexeme)) =
      [pair.opener, pair.closer].map fun lexeme => (pair.kind, lexeme) := by
    decide +kernel
  have words : ∀ lexeme ∈ [pair.opener, pair.closer],
      ∃ rules token,
        (rules, token) ∈ account.emitted ∧
          token.kind = pair.kind ∧
          token.lexeme = lexeme := by
    intro lexeme listed
    have drawn := List.mem_map_of_mem (f := fun lexeme => (pair.kind, lexeme)) listed
    rw [← made] at drawn
    rcases List.mem_map.mp drawn with ⟨⟨rules, token⟩, emitted, same⟩
    rcases Prod.mk.inj same with ⟨kind, lexeme⟩
    exact ⟨rules, token, emitted, kind, lexeme⟩
  have refused : DelimiterPair.checked pair = .error (.longLiteralDelimiter "ab" "ba") := by
    rw [DelimiterPair.checked, if_neg (by decide +kernel), if_pos (by decide +kernel)]
  refine ⟨?_, refused, words⟩
  intro single
  rcases words "ab" List.mem_cons_self with ⟨rules, token, emitted, kind, lexeme⟩
  have one := single rules token emitted kind
  rw [lexeme] at one
  exact absurd one (by decide)

end TokenForest
