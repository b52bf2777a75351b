import TokenForest.Proofs.Lexer.Batch
import TokenForest.Proofs.Lexer.Parting

/-!
# Strict and lenient rules

Rules that differ in nothing but strictness part at one kind of character only, which the lenient
rules skip because nothing recognizes it.  A lenient scan without such a character is therefore a
strict scan as well, and so is the grouping.  Otherwise the strict scan draws the tokens before the
first such character and fails at this character.
-/

namespace TokenForest

open Text (Source)

namespace ScanRules

variable
    {rules : ScanRules}
    {source : Source}

/-- The rules under which a character that nothing recognizes is an error. -/
def strictly (rules : ScanRules) : ScanRules := { rules with strict := true }

theorem Lexes.strictly
    {text : List Char} {kind : String} {start stop : Nat}
    (lexes : rules.Lexes text kind start stop) :
    rules.strictly.Lexes text kind start stop := by
  cases lexes with
  | literal present kept literal =>
      exact .literal present kept literal
  | matched present kept plain first =>
      exact .matched present kept plain first

/-- Strict rules part from lenient ones where a character is skipped that is not to be ignored. -/
theorem leads_strictly :
    rules.Leads source (fun skip => !skip.ignored) rules.strictly where
  ignore_eq := rfl
  lexes := by
    intro kind start stop lexes
    exact lexes.strictly
  passes := by
    intro index character passes unmarked
    cases passes with
    | ignored ignored =>
        exact .ignored ignored
    | lenient unrecognized lenient =>
        rw [skipAt, unrecognized.kept] at unmarked
        cases unmarked

theorem Unrecognized.strictly
    {text : List Char} {index : Nat} {character : Char}
    (unrecognized : rules.Unrecognized text index character) :
    rules.strictly.Unrecognized text index character where
  kept := unrecognized.kept
  plain := unrecognized.plain
  unmatched := unrecognized.unmatched

end ScanRules

/-- What strict rules report about a character that lenient ones skip. -/
def Skip.error (source : Source) (skip : Skip) : ScanError :=
  { character := skip.character, position := source.positionAt skip.offset }

namespace Lexer

variable
    {lexer : Lexer}
    {skip : Skip}

theorem AtBoundary.take_fault_of_lenient
    (boundary : lexer.AtBoundary)
    (lenient : lexer.rules.strict = false)
    (count : Nat) :
    (lexer.take count).result.fault = none := by
  induction count generalizing lexer with
  | zero =>
      rfl
  | succ count ih =>
      rcases lexer.rules.exists_walks boundary.index_le with ⟨skips, ending, walks⟩
      cases ending with
      | finished =>
          rw [boundary.take_of_finished walks]
      | token kind start stop =>
          rw [boundary.take_of_token walks]
          exact ih (atBoundary_atIndex walks.bounds.2.2) lenient
      | unrecognized character place =>
          rw [walks.strict] at lenient
          cases lenient

/-- Where nothing recognizes a character, strict rules draw nothing. -/
theorem take_strictly_of_unrecognized
    {place : Nat}
    (present : lexer.source.text[place]? = some skip.character)
    (unrecognized : lexer.rules.Unrecognized lexer.source.text place skip.character)
    (offset : skip.offset = lexer.source.offsetOf place)
    (count : Nat) :
    (((lexer.under lexer.rules.strictly).atIndex place).take (count + 1)).result =
      { tokens := [], fault := some (.reported (skip.error lexer.source)) } := by
  have within := (List.getElem?_eq_some_iff.mp present).1
  have boundary : ((lexer.under lexer.rules.strictly).atIndex place).AtBoundary :=
    atBoundary_atIndex (Nat.le_of_lt within)
  have stops : lexer.rules.strictly.Walks lexer.source place []
      (.unrecognized skip.character place) :=
    .stops present unrecognized.strictly rfl
  rw [boundary.take_of_unrecognized stops, Skip.error, offset]
  rfl

/-- By strict rules a lexer draws up to the first character that it skips without ignoring it. -/
theorem AtBoundary.take_strictly
    {count : Nat}
    (boundary : lexer.AtBoundary)
    (found : (lexer.take count).trace.skips.find? (fun skip => !skip.ignored) = some skip) :
    (∃ place,
        skip.offset = lexer.source.offsetOf place ∧
          lexer.source.text[place]? = some skip.character ∧
            lexer.rules.Unrecognized lexer.source.text place skip.character) ∧
      ((lexer.under lexer.rules.strictly).take count).result =
        { tokens := (lexer.take count).result.tokens.filter fun token => token.stop ≤ skip.offset
          fault := some (.reported (skip.error lexer.source)) } := by
  rcases boundary.partsAt ScanRules.leads_strictly found with
    ⟨place, left, present, passes, noted, drawn⟩
  have kept : skip.ignored = false := by
    simpa using List.find?_some found
  have offset : skip.offset = lexer.source.offsetOf place := congrArg Skip.offset noted
  have unrecognized := passes.unrecognized (noted ▸ kept)
  refine ⟨⟨place, offset, present, unrecognized⟩, ?_⟩
  rw [drawn, take_strictly_of_unrecognized present unrecognized offset, List.append_nil]

end Lexer

/--
Two lexers for one source may differ in nothing but strictness.  The lenient one never fails to
scan.  If it skips no character that nothing recognizes, the strict one draws the same tokens and
groups them with the same outcome.  Otherwise the strict one draws exactly the tokens that end at or
before the first such character, and then reports this character and its place; and so does its
grouping.
-/
theorem strict_scan_fails_at_first_unrecognized
    (source : Source)
    (config : Config)
    (filename : String) :
    let lenient := Lexer.ofSource source { config with strict := false } filename
    let strict := Lexer.ofSource source { config with strict := true } filename
    lenient.tokens.result.fault = none ∧
      match lenient.tokens.trace.skips.find? fun skip => !skip.ignored with
      | none =>
        strict.tokens.result = lenient.tokens.result ∧
          strict.group.result = lenient.group.result
      | some skip =>
        (∃ place,
            skip.offset = source.offsetOf place ∧
              source.text[place]? = some skip.character ∧
                lenient.rules.Unrecognized source.text place skip.character) ∧
          strict.tokens.result =
            { tokens := lenient.tokens.result.tokens.filter fun token => token.stop ≤ skip.offset
              fault := some (.reported (skip.error source)) } ∧
          strict.group.result = .error (.reported (.scan (skip.error source))) := by
  intro lenient strict
  have boundary : lenient.AtBoundary := Lexer.atBoundary_ofSource source _ filename
  have strictBoundary : strict.AtBoundary := Lexer.atBoundary_ofSource source _ filename
  have unfailed : lenient.tokens.result.fault = none := boundary.take_fault_of_lenient rfl _
  refine ⟨unfailed, ?_⟩
  rw [strictBoundary.group_result rfl, boundary.group_result rfl]
  cases found : lenient.tokens.trace.skips.find? fun skip => !skip.ignored with
  | none =>
      have drawn : strict.tokens.result = lenient.tokens.result :=
        boundary.take_leads ScanRules.leads_strictly unfailed found
      rw [drawn]
      exact ⟨rfl, rfl⟩
  | some skip =>
      rcases boundary.take_strictly found with ⟨place, drawn⟩
      have stopped : strict.tokens.result = _ := drawn
      rw [stopped]
      exact ⟨place, rfl, rfl⟩

end TokenForest
