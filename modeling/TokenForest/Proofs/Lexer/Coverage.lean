import TokenForest.Proofs.Lexer.Division
import TokenForest.Proofs.Lexer.Next

/-!
# Traces that cover a stretch of text

What a lexer notes accounts for every character that it passes: the character was skipped, for a
reason, or it belongs to the token that was made there.  `Covers` follows the characters from one
index to another and demands such a note for each, in order.  From it are read off what the tokens
hold, why characters were skipped, and that the two divide the text between them.
-/

namespace TokenForest

open Text (Source)

/-- The trace accounts for the characters from an index up to another one. -/
inductive Covers (rules : ScanRules) (source : Source) : Nat → Trace → Nat → Prop where
  | nil
      {index : Nat} :
      Covers rules source index [] index
  | skipped
      {index stop : Nat} {character : Char} {trace : Trace}
      (present : source.text[index]? = some character)
      (passes : rules.Passes source.text index character)
      (rest : Covers rules source (index + 1) trace stop) :
      Covers rules source index
        (.skipped (rules.skipAt source index character) :: trace) stop
  | drawn
      {kind : String} {index middle stop : Nat} {trace : Trace}
      (lexes : rules.Lexes source.text kind index middle)
      (rest : Covers rules source middle trace stop) :
      Covers rules source index
        (.drawn (Token.between source kind index middle) :: trace) stop
  | opened
      {lexeme : String} {line depth index stop : Nat} {trace : Trace}
      (rest : Covers rules source index trace stop) :
      Covers rules source index (.opened lexeme line depth :: trace) stop
  | closed
      {lexeme : String} {line depth index stop : Nat} {trace : Trace}
      (rest : Covers rules source index trace stop) :
      Covers rules source index (.closed lexeme line depth :: trace) stop

/-- The notes of a walk cover the text from its index to the place where it leaves the cursor. -/
theorem ScanRules.Walks.covers
    {rules : ScanRules} {source : Source}
    {index : Nat} {skips : List Skip} {ending : Ending}
    (walks : rules.Walks source index skips ending) :
    Covers rules source index
      (skips.map .skipped ++ ending.notes source) (ending.place source) := by
  induction walks with
  | finished =>
      exact .nil
  | passes present passes rest ih =>
      exact .skipped present passes ih
  | lexes lexes =>
      exact .drawn lexes .nil
  | stops present unrecognized strict =>
      exact .nil

/-- Notes about groups cover nothing. -/
theorem covers_ofDepths
    {rules : ScanRules} {source : Source} {index : Nat}
    (before after : Nat)
    (token : Token) :
    Covers rules source index (Event.ofDepths before after token) index := by
  unfold Event.ofDepths
  split
  · exact .opened .nil
  · split
    · exact .closed .nil
    · exact .nil

namespace Covers

variable
    {rules : ScanRules}
    {source : Source}
    {index middle stop : Nat}
    {trace : Trace}

/-- Two traces, the second of which goes on where the first stops, cover both stretches. -/
theorem append
    {later : Trace}
    (first : Covers rules source index trace middle)
    (second : Covers rules source middle later stop) :
    Covers rules source index (trace ++ later) stop := by
  induction first with
  | nil =>
      exact second
  | skipped present passes rest ih =>
      exact .skipped present passes (ih second)
  | drawn lexes rest ih =>
      exact .drawn lexes (ih second)
  | opened rest ih =>
      exact .opened (ih second)
  | closed rest ih =>
      exact .closed (ih second)

/-- The stretch that is covered does not end before it begins. -/
theorem index_le
    (covers : Covers rules source index trace stop) :
    index ≤ stop := by
  induction covers with
  | nil =>
      exact Nat.le_refl _
  | skipped present passes rest ih =>
      exact Nat.le_of_succ_le ih
  | drawn lexes rest ih =>
      exact Nat.le_trans (Nat.le_of_lt lexes.bounds.1) ih
  | opened rest ih =>
      exact ih
  | closed rest ih =>
      exact ih

/-- Every token that is noted holds characters that the rules make a token of. -/
theorem lexes_of_mem
    (covers : Covers rules source index trace stop)
    {token : Token}
    (member : token ∈ trace.tokens) :
    ∃ kind start last,
      rules.Lexes source.text kind start last ∧ token = Token.between source kind start last := by
  induction covers with
  | nil =>
      simp at member
  | skipped present passes rest ih =>
      exact ih (by simpa using member)
  | drawn lexes rest ih =>
      rw [Trace.tokens_cons_drawn] at member
      rcases List.mem_cons.mp member with rfl | member
      · exact ⟨_, _, _, lexes, rfl⟩
      · exact ih member
  | opened rest ih =>
      exact ih (by simpa using member)
  | closed rest ih =>
      exact ih (by simpa using member)

/-- Every character that is noted as skipped is one that the rules pass over. -/
theorem passes_of_mem
    (covers : Covers rules source index trace stop)
    {skip : Skip}
    (member : skip ∈ trace.skips) :
    ∃ place character,
      source.text[place]? = some character ∧
        rules.Passes source.text place character ∧
          skip = rules.skipAt source place character := by
  induction covers with
  | nil =>
      simp at member
  | skipped present passes rest ih =>
      rw [Trace.skips_cons_skipped] at member
      rcases List.mem_cons.mp member with rfl | member
      · exact ⟨_, _, present, passes, rfl⟩
      · exact ih member
  | drawn lexes rest ih =>
      exact ih (by simpa using member)
  | opened rest ih =>
      exact ih (by simpa using member)
  | closed rest ih =>
      exact ih (by simpa using member)

/-- The tokens and the skipped characters that are noted divide the stretch that is covered. -/
theorem divides
    (covers : Covers rules source index trace stop)
    (within : stop ≤ source.text.length) :
    Divides source index stop trace.tokens trace.skips := by
  induction covers with
  | nil =>
      exact .nil _
  | @skipped index stop character trace present passes rest ih =>
      have first : Divides source index (index + 1) [] [rules.skipAt source index character] :=
        .skip present rfl
      exact first.append (ih within) (Nat.le_succ _) rest.index_le within
  | @drawn kind index middle stop trace lexes rest ih =>
      have bounds := lexes.bounds
      have first : Divides source index middle [Token.between source kind index middle] [] :=
        .token bounds.1 bounds.2 rfl rfl
      exact first.append (ih within) (Nat.le_of_lt bounds.1) rest.index_le within
  | opened rest ih =>
      exact ih within
  | closed rest ih =>
      exact ih within

end Covers

end TokenForest
