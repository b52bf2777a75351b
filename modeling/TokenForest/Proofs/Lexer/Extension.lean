import Mathlib.Order.Bounds.Defs
import TokenForest.Proofs.Lexer.Strictness

/-!
# More rules behind the old ones

Rules go in order, so rules that are added behind others have a say only where the others match
nothing.  Under lenient rules this is where a character is skipped without being ignored.  The scan
with more rules draws the tokens of the scan without them up to the first such character from which
one of the added rules matches; there it draws a token of its own.  Under strict rules there is no
such place in a scan that succeeds.
-/

namespace TokenForest

open Text (Source)

/--
A character that was not recognized when it was skipped, but that one of the patterns matches.
-/
def Skip.MatchedBy
    (source : Source)
    (added : List PatternRule)
    (skip : Skip) :
    Prop :=
  skip.ignored = false ∧
    ∃ index stop,
      skip.offset = source.offsetOf index ∧
        ∃ rule ∈ added, rule.Matches source.text index stop

namespace ScanRules

variable
    {rules : ScanRules}
    {source : Source}

/-- The rules with patterns added behind theirs, strict or lenient. -/
def extended
    (rules : ScanRules)
    (added : List PatternRule)
    (strict : Bool) :
    ScanRules :=
  { rules with patterns := rules.patterns ++ added, strict }

theorem Lexes.extended
    {text : List Char} {kind : String} {start stop : Nat}
    (lexes : rules.Lexes text kind start stop)
    (added : List PatternRule)
    (strict : Bool) :
    (rules.extended added strict).Lexes text kind start stop := by
  cases lexes with
  | literal present kept literal =>
      exact .literal present kept literal
  | matched present kept plain first =>
      exact .matched present kept plain (first.append_right added)

/-- Rules that pass over nothing but what is to be ignored do not part from extended ones. -/
theorem leads_extended_of_strict
    (strict : rules.strict = true)
    (added : List PatternRule)
    (stricter : Bool) :
    rules.Leads source (fun _ => false) (rules.extended added stricter) where
  ignore_eq := rfl
  lexes := by
    intro kind start stop lexes
    exact lexes.extended added stricter
  passes := by
    intro index character passes _
    cases passes with
    | ignored ignored =>
        exact .ignored ignored
    | lenient unrecognized lenient =>
        rw [strict] at lenient
        cases lenient

/-- Lenient rules part from extended ones where an added pattern matches a skipped character. -/
theorem leads_extended
    (added : List PatternRule)
    [DecidablePred (Skip.MatchedBy source added)] :
    rules.Leads source (fun skip => skip.MatchedBy source added) (rules.extended added false) where
  ignore_eq := rfl
  lexes := by
    intro kind start stop lexes
    exact lexes.extended added false
  passes := by
    intro index character passes unmarked
    cases passes with
    | ignored ignored =>
        exact .ignored ignored
    | lenient unrecognized lenient =>
        apply Passes.lenient _ rfl
        constructor
        · exact unrecognized.kept
        · exact unrecognized.plain
        · intro rule member stop matched
          rcases List.mem_append.mp member with old | new
          · exact unrecognized.unmatched rule old stop matched
          · have marked : (rules.skipAt source index character).MatchedBy source added :=
              ⟨unrecognized.kept, index, stop, rfl, rule, new, matched⟩
            exact of_decide_eq_false unmarked marked

/-- An added pattern that matches from an unrecognized character makes a token of it. -/
theorem Unrecognized.lexes_extended
    {text : List Char} {index stop : Nat} {character : Char} {rule : PatternRule}
    {added : List PatternRule}
    (unrecognized : rules.Unrecognized text index character)
    (present : text[index]? = some character)
    (first : FirstMatch added text index rule stop)
    (strict : Bool) :
    (rules.extended added strict).Lexes text rule.kind index stop :=
  .matched present unrecognized.kept unrecognized.plain (first.append_left unrecognized.unmatched)

end ScanRules

/-- From a skipped character that some patterns match, one of them is the first to match. -/
theorem Skip.MatchedBy.exists_firstMatch
    {source : Source} {added : List PatternRule} {skip : Skip} {place : Nat}
    (matched : skip.MatchedBy source added)
    (offset : skip.offset = source.offsetOf place)
    (within : place < source.text.length) :
    ∃ rule stop, FirstMatch added source.text place rule stop := by
  rcases matched with ⟨_, index, stop, here, rule, member, found⟩
  have same : place = index := Source.eq_of_offsetOf_eq within (offset.symm.trans here)
  rw [← same] at found
  rcases noMatch_or_firstMatch added source.text place with silent | first
  · exact absurd found (silent rule member stop)
  · exact first

/-- Of skipped characters in their order, the first that is marked has the least offset. -/
theorem exists_find?_of_isLeast
    {marked : Skip → Prop} [DecidablePred marked]
    {skips : List Skip} {offset : Nat}
    (ordered : skips.Pairwise fun earlier later => earlier.offset < later.offset)
    (least : IsLeast {offset | ∃ skip ∈ skips, marked skip ∧ skip.offset = offset} offset) :
    ∃ skip, skips.find? (fun skip => marked skip) = some skip ∧ skip.offset = offset := by
  rcases least with ⟨⟨skip, member, mark, rfl⟩, below⟩
  cases found : skips.find? (fun skip => marked skip) with
  | none =>
      rw [List.find?_eq_none] at found
      exact absurd (decide_eq_true mark) (found skip member)
  | some first =>
      refine ⟨first, rfl, ?_⟩
      rcases List.find?_eq_some_iff_append.mp found with ⟨firstMark, before, after, rfl, unmarked⟩
      apply Nat.le_antisymm
      · rcases List.mem_append.mp member with earlier | later
        · have unmarkedHere := unmarked skip earlier
          simp [mark] at unmarkedHere
        · rcases List.mem_cons.mp later with rfl | later
          · exact Nat.le_refl _
          · have behind := (List.pairwise_append.mp ordered).2.1
            exact Nat.le_of_lt (List.rel_of_pairwise_cons behind later)
      · exact below ⟨first, by simp, of_decide_eq_true firstMark, rfl⟩

namespace Lexer

variable {lexer : Lexer}

/-- No token reaches over a character that was skipped. -/
theorem Draws.not_spans_of_mem
    {trace : Trace} {after : Lexer} {token : Token} {skip : Skip}
    (draws : lexer.Draws trace after)
    (drawn : token ∈ trace.tokens)
    (skipped : skip ∈ trace.skips) :
    ¬ token.Spans skip.offset := by
  rcases draws with ⟨within, covers⟩
  have divides := covers.divides within
  rcases divides.skip_within skip skipped with ⟨place, later, before, _, offset⟩
  rw [offset]
  exact (divides.skipped_iff place later before).mp ⟨skip, skipped, offset⟩ token drawn

theorem Draws.skips_ordered
    {trace : Trace} {after : Lexer}
    (draws : lexer.Draws trace after) :
    trace.skips.Pairwise fun earlier later => earlier.offset < later.offset := by
  rcases draws with ⟨within, covers⟩
  exact (covers.divides within).skips_ordered

/--
With added patterns a lenient lexer draws the tokens that end before the first skipped character
that one of them matches, and a token that begins with this character.
-/
theorem AtBoundary.take_extended
    {added : List PatternRule} {count : Nat} {skip : Skip}
    [DecidablePred (Skip.MatchedBy lexer.source added)]
    (boundary : lexer.AtBoundary)
    (found :
      (lexer.take count).trace.skips.find? (fun skip => skip.MatchedBy lexer.source added) =
        some skip) :
    let before := fun token : Token => decide (token.stop ≤ skip.offset)
    let wider := ((lexer.under (lexer.rules.extended added false)).take count).result.tokens
    wider.filter before = (lexer.take count).result.tokens.filter before ∧
      ∃ rule start stop,
        FirstMatch added lexer.source.text start rule stop ∧
          lexer.source.offsetOf start = skip.offset ∧
          Token.between lexer.source rule.kind start stop ∈ wider := by
  intro before wider
  rcases boundary.partsAt (ScanRules.leads_extended added) found with
    ⟨place, left, present, passes, noted, drawn⟩
  have matched : skip.MatchedBy lexer.source added := by
    simpa using List.find?_some found
  have offset : skip.offset = lexer.source.offsetOf place := congrArg Skip.offset noted
  have within := (List.getElem?_eq_some_iff.mp present).1
  have unrecognized := passes.unrecognized (noted ▸ matched.1)
  rcases matched.exists_firstMatch offset within with ⟨rule, stop, first⟩
  let parted := (lexer.under (lexer.rules.extended added false)).atIndex place
  have there : parted.AtBoundary := atBoundary_atIndex (Nat.le_of_lt within)
  have walks : (lexer.rules.extended added false).Walks lexer.source place []
      (.token rule.kind place stop) :=
    .lexes (unrecognized.lexes_extended present first false)
  have tokens : wider = (lexer.take count).result.tokens.filter before ++
      (parted.take (left + 1)).result.tokens :=
    congrArg Drawn.tokens drawn
  refine ⟨?_, rule, place, stop, first, offset.symm, ?_⟩
  · have behind : (parted.take (left + 1)).result.tokens.filter before = [] := by
      apply List.filter_eq_nil_iff.mpr
      intro token member
      rcases there.take_draws (left + 1) with ⟨draws, noted⟩
      have further : lexer.source.offsetOf place < token.stop :=
        draws.lt_stop_of_mem (noted ▸ member)
      rw [decide_eq_true_eq, offset]
      exact Nat.not_le_of_lt further
    rw [tokens, List.filter_append, behind, List.append_nil, List.filter_filter]
    simp only [Bool.and_self]
  · rw [tokens, there.take_of_token walks]
    apply List.mem_append_right
    exact List.mem_cons_self

end Lexer

/--
Patterns may be added to a configuration behind those that it has.  If a strict scan succeeds
without them, then with them every scan, strict or lenient, draws the same tokens.  A lenient scan
never fails, and without the added patterns it may skip characters that nothing recognizes.  If none
of them is one from which an added pattern matches, the tokens are the same with the added patterns.
Otherwise the tokens that end at or before the first such character are the same; no token of the
scan without the added patterns reaches over this character, and with them the first of them that
matches there makes a token that begins with it.
-/
theorem later_patterns_keep_earlier_tokens
    (source : Source)
    (config : Config)
    (added : List PatternRule)
    (filename : String) :
    let scan (patterns : List PatternRule) (strict : Bool) :=
      (Lexer.ofSource source { config with patterns, strict } filename).tokens
    let wider := config.patterns ++ added
    let disturbed : Set Nat :=
      {offset |
        ∃ skip ∈ (scan config.patterns false).trace.skips,
          skip.MatchedBy source added ∧ skip.offset = offset}
    ((scan config.patterns true).result.fault = none →
      ∀ strict, (scan wider strict).result = (scan config.patterns true).result) ∧
      (∀ patterns, (scan patterns false).result.fault = none) ∧
      (disturbed = ∅ → (scan wider false).result = (scan config.patterns false).result) ∧
      ∀ offset,
        IsLeast disturbed offset →
          ((scan wider false).result.tokens.filter fun token => token.stop ≤ offset) =
              ((scan config.patterns false).result.tokens.filter fun token =>
                token.stop ≤ offset) ∧
            (∀ token ∈ (scan config.patterns false).result.tokens, ¬ token.Spans offset) ∧
            ∃ rule start stop,
              FirstMatch added source.text start rule stop ∧
                source.offsetOf start = offset ∧
                Token.between source rule.kind start stop ∈ (scan wider false).result.tokens := by
  classical
  intro scan wider disturbed
  have boundary (strict : Bool) :
      (Lexer.ofSource source { config with strict } filename).AtBoundary :=
    Lexer.atBoundary_ofSource source _ filename
  refine ⟨?_, ?_, ?_, ?_⟩
  · intro unfailed strict
    apply (boundary true).take_leads (ScanRules.leads_extended_of_strict rfl added strict) unfailed
    rw [List.find?_eq_none]
    simp
  · intro patterns
    exact (Lexer.atBoundary_ofSource source _ filename).take_fault_of_lenient rfl _
  · intro undisturbed
    apply (boundary false).take_leads (ScanRules.leads_extended added)
    · exact (boundary false).take_fault_of_lenient rfl _
    · rw [List.find?_eq_none]
      intro skip skipped marked
      have member : skip.offset ∈ disturbed := ⟨skip, skipped, of_decide_eq_true marked, rfl⟩
      rw [undisturbed] at member
      exact member
  · intro offset least
    rcases (boundary false).take_draws _ with ⟨draws, tokens⟩
    rcases exists_find?_of_isLeast draws.skips_ordered least with ⟨skip, found, rfl⟩
    have extended := (boundary false).take_extended found
    refine ⟨extended.1, ?_, extended.2⟩
    intro token drawn
    exact draws.not_spans_of_mem (tokens ▸ drawn) (List.mem_of_find?_eq_some found)

/-- A rule for digits. -/
def digitRule : PatternRule where
  kind := "digit"
  pattern := {
    written := "[0-9]"
    mode := {}
    node := .set false false false [.range 0x30 0x39] }

/-- A source with a digit between two literal characters. -/
def digitSource : Source :=
  { text := "+1-".toList }

theorem later_patterns_keep_earlier_tokens_digit :
    let narrow := (Lexer.ofSource digitSource Config.standard "<input>").tokens
    let wider :=
      (Lexer.ofSource digitSource { Config.standard with patterns := [digitRule] } "<input>").tokens
    IsLeast
        {offset |
          ∃ skip ∈ narrow.trace.skips,
            skip.MatchedBy digitSource [digitRule] ∧ skip.offset = offset}
        1 ∧
      (wider.result.tokens.filter fun token => token.stop ≤ 1) =
        (narrow.result.tokens.filter fun token => token.stop ≤ 1) ∧
      ∃ rule start stop,
        FirstMatch [digitRule] digitSource.text start rule stop ∧
          digitSource.offsetOf start = 1 ∧
          Token.between digitSource rule.kind start stop ∈ wider.result.tokens := by
  intro narrow wider
  have skips : narrow.trace.skips = [{ character := '1', offset := 1, ignored := false }] := by
    decide +kernel
  have least : IsLeast
      {offset |
        ∃ skip ∈ narrow.trace.skips,
          skip.MatchedBy digitSource [digitRule] ∧ skip.offset = offset}
      1 := by
    rw [skips]
    constructor
    · refine ⟨_, List.mem_singleton_self _, ⟨rfl, 1, 2, ?_, digitRule, ?_, ?_, ?_⟩, rfl⟩
      · decide +kernel
      · exact List.mem_singleton_self _
      · decide +kernel
      · decide
    · rintro offset ⟨skip, member, _, rfl⟩
      rw [List.mem_singleton] at member
      rw [member]
  have keeps := later_patterns_keep_earlier_tokens digitSource Config.standard [digitRule] "<input>"
  rcases keeps.2.2.2 1 least with ⟨same, _, first⟩
  exact ⟨least, same, first⟩

end TokenForest
