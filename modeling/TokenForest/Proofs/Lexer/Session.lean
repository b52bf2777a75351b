import TokenForest.Proofs.Lexer.Operation

/-!
# Sessions

A session is a list of operations on one lexer, one after another and in any order.  Its account
keeps what happened so far: every token that was made, every token that was handed out, and every
character that was skipped and is not ahead of the cursor again, each with the rules that held at
the time.  An account is sound from the start, and every operation keeps it sound.  This is all that
is needed to say what a lexer answers and has answered in any state that a caller can bring it to.
-/

namespace TokenForest

open Text (Source)

/-- What happened in a session so far. -/
structure Account where
  lexer : Lexer
  /-- Every token that was made, also by attempts that failed. -/
  emitted : List (ScanRules × Token) := []
  /-- The tokens that were handed out, in the order in which they were. -/
  handed : List Token := []
  /-- The characters before the cursor that were skipped. -/
  skipped : List (ScanRules × Skip) := []

namespace Account

/-- The account after another operation. -/
def after [Text.CharacterNames] (account : Account) (operation : Operation) : Account :=
  let rules := account.lexer.rules
  let report := account.lexer.perform operation
  let skipped := account.skipped ++ report.trace.skips.map fun skip => (rules, skip)
  { lexer := report.lexer
    emitted := account.emitted ++ report.trace.tokens.map fun token => (rules, token)
    handed := account.handed ++ report.handed
    skipped := skipped.filter fun entry => entry.2.offset < report.lexer.cursor.offset }

/-- The account of a session that goes on for some operations. -/
def afterAll [Text.CharacterNames] (account : Account) (operations : List Operation) : Account :=
  operations.foldl after account

end Account

/-- The account of a session on a lexer for a source. -/
def session
    [Text.CharacterNames]
    (source : Source)
    (config : Config)
    (filename : String)
    (operations : List Operation) :
    Account :=
  Account.afterAll { lexer := Lexer.ofSource source config filename } operations

/-- The lexer after some operations. -/
def Lexer.performAll [Text.CharacterNames] (lexer : Lexer) (operations : List Operation) : Lexer :=
  operations.foldl (fun lexer operation => (lexer.perform operation).lexer) lexer

theorem Account.lexer_afterAll
    [Text.CharacterNames]
    (account : Account)
    (operations : List Operation) :
    (account.afterAll operations).lexer = account.lexer.performAll operations := by
  induction operations generalizing account with
  | nil =>
      rfl
  | cons operation rest ih =>
      exact ih (account.after operation)

theorem lexer_session
    [Text.CharacterNames]
    (source : Source)
    (config : Config)
    (filename : String)
    (operations : List Operation) :
    (session source config filename operations).lexer =
      (Lexer.ofSource source config filename).performAll operations :=
  Account.lexer_afterAll _ operations

namespace Account

/-- The account agrees with the source. -/
structure Sound (source : Source) (account : Account) : Prop where
  source_eq : account.lexer.source = source
  boundary : account.lexer.AtBoundary
  /-- Every token is one that the rules of its time make of the text. -/
  lexes :
    ∀ entry ∈ account.emitted, ∃ kind start stop,
      entry.1.Lexes source.text kind start stop ∧
        entry.2 = Token.between source kind start stop
  /-- Every skipped character is one that the rules of its time pass over. -/
  passes :
    ∀ entry ∈ account.skipped, ∃ index character,
      source.text[index]? = some character ∧
        entry.1.Passes source.text index character ∧
          entry.2 = entry.1.skipAt source index character
  divides :
    Divides source 0 account.lexer.cursor.index account.handed (account.skipped.map Prod.snd)

theorem sound_ofSource
    (source : Source)
    (config : Config)
    (filename : String) :
    Sound source { lexer := Lexer.ofSource source config filename } where
  source_eq := rfl
  boundary := {
    index_le := Nat.zero_le _
    offset_eq := Source.offsetOf_zero.symm }
  lexes := by simp
  passes := by simp
  divides := .nil 0

namespace Sound

variable
    {source : Source}
    {account : Account}
    {trace : Trace}
    {last : Lexer}

/-- The tokens that an operation makes are tokens by the rules of its time. -/
theorem lexes_append
    (sound : Sound source account)
    (draws : account.lexer.Draws trace last) :
    ∀ entry ∈ account.emitted ++ trace.tokens.map (fun token => (account.lexer.rules, token)),
      ∃ kind start stop,
        entry.1.Lexes source.text kind start stop ∧
          entry.2 = Token.between source kind start stop := by
  intro entry member
  rcases List.mem_append.mp member with earlier | now
  · exact sound.lexes entry earlier
  · rcases List.mem_map.mp now with ⟨token, drawn, rfl⟩
    rw [← sound.source_eq]
    exact draws.lexes_of_mem drawn

/-- The characters that an operation skips are passed over by the rules of its time. -/
theorem passes_append
    (sound : Sound source account)
    (draws : account.lexer.Draws trace last) :
    ∀ entry ∈ account.skipped ++ trace.skips.map (fun skip => (account.lexer.rules, skip)),
      ∃ index character,
        source.text[index]? = some character ∧
          entry.1.Passes source.text index character ∧
            entry.2 = entry.1.skipAt source index character := by
  intro entry member
  rcases List.mem_append.mp member with earlier | now
  · exact sound.passes entry earlier
  · rcases List.mem_map.mp now with ⟨skip, noted, rfl⟩
    rcases draws with ⟨_, covers⟩
    rw [← sound.source_eq]
    exact covers.passes_of_mem noted

end Sound

theorem map_snd_filter_append
    (rules : ScanRules)
    (skipped : List (ScanRules × Skip))
    (skips : List Skip)
    (offset : Nat) :
    ((skipped ++ skips.map fun skip => (rules, skip)).filter fun entry =>
        entry.2.offset < offset).map Prod.snd =
      ((skipped.map Prod.snd).filter fun skip => skip.offset < offset) ++
        skips.filter fun skip => skip.offset < offset := by
  simp [List.filter_map, Function.comp_def]

/-- What an operation hands out and skips divides the text it passes, or leaves it divided. -/
theorem Sound.divides_append
    {source : Source} {account : Account} {report : Report}
    (sound : Sound source account)
    (yields : account.lexer.Yields report) :
    let skipped := account.skipped ++ report.trace.skips.map fun skip =>
      (account.lexer.rules, skip)
    Divides source 0 report.lexer.cursor.index
      (account.handed ++ report.handed)
      ((skipped.filter fun entry =>
        entry.2.offset < report.lexer.cursor.offset).map Prod.snd) := by
  intro skipped
  have divides := sound.divides
  have start := sound.boundary.index_le
  rw [sound.source_eq] at start
  rw [map_snd_filter_append]
  cases yields with
  | onwards draws source_eq cursor_eq =>
      rcases draws with ⟨within, covers⟩
      rw [sound.source_eq] at within covers
      have further := covers.divides within
      rw [cursor_eq, Lexer.cursor_atIndex, Cursor.ofIndex, sound.source_eq,
        divides.filter_skips_of_le start covers.index_le,
        further.filter_skips_of_le within (Nat.le_refl _)]
      exact divides.append further (Nat.zero_le _) covers.index_le within
  | back draws source_eq cursor_eq =>
      rcases draws with ⟨within, covers⟩
      rw [sound.source_eq] at within covers
      -- Whatever this attempt skipped is ahead of the cursor again.
      have undone := covers.divides within
      have offset := sound.boundary.offset_eq
      rw [sound.source_eq] at offset
      rw [cursor_eq, offset, divides.filter_skips_of_le start (Nat.le_refl _),
        undone.filter_skips_start within, List.append_nil, List.append_nil]
      exact divides

/-- Every operation keeps an account sound. -/
theorem Sound.after
    [Text.CharacterNames]
    {source : Source} {account : Account}
    (sound : Sound source account)
    (operation : Operation) :
    Sound source (account.after operation) := by
  have yields := sound.boundary.yields operation
  rcases yields.exists_draws with ⟨last, draws⟩
  constructor
  · exact yields.source_eq.trans sound.source_eq
  · exact yields.atBoundary sound.boundary
  · exact sound.lexes_append draws
  · intro entry member
    exact sound.passes_append draws entry (List.mem_filter.mp member).1
  · exact sound.divides_append yields

/-- Operations keep an account sound, however many there are. -/
theorem Sound.afterAll
    [Text.CharacterNames]
    {source : Source} {account : Account}
    (sound : Sound source account)
    (operations : List Operation) :
    Sound source (account.afterAll operations) := by
  induction operations generalizing account with
  | nil =>
      exact sound
  | cons operation rest ih =>
      exact ih (sound.after operation)

end Account

theorem Lexer.atBoundary_ofSource
    (source : Source)
    (config : Config)
    (filename : String) :
    (Lexer.ofSource source config filename).AtBoundary :=
  (Account.sound_ofSource source config filename).boundary

variable [Text.CharacterNames]

/-- The account of every session is sound. -/
theorem sound_session
    (source : Source)
    (config : Config)
    (filename : String)
    (operations : List Operation) :
    (session source config filename operations).Sound source :=
  (Account.sound_ofSource source config filename).afterAll operations

/-! ## What holds in every session -/

/--
In every state that a session can reach there is exactly one walk from the cursor, and drawing the
next token answers what the walk ends with: the token, nothing, or the error about the character
that stopped it.  The cursor goes to where the walk ends and nothing else changes.  If nothing is
answered, no character from the cursor on begins a token.
-/
theorem next_answers_walk
    (source : Source)
    (config : Config)
    (filename : String)
    (operations : List Operation) :
    let lexer := (session source config filename operations).lexer
    lexer.source = source ∧
      ∃ skips ending,
        lexer.rules.Walks source lexer.cursor.index skips ending ∧
          (∀ others other,
            lexer.rules.Walks source lexer.cursor.index others other →
              others = skips ∧ other = ending) ∧
          lexer.next.result = ending.answer source ∧
          lexer.next.trace = skips.map .skipped ++ ending.notes source ∧
          lexer.next.lexer = lexer.atIndex (ending.place source) ∧
          (lexer.next.result = .ok none →
            ∀ index character,
              lexer.cursor.index ≤ index →
                source.text[index]? = some character →
                  lexer.rules.Passes source.text index character) := by
  intro lexer
  have sound := sound_session source config filename operations
  have source_eq : lexer.source = source := sound.source_eq
  have boundary : lexer.AtBoundary := sound.boundary
  rcases lexer.rules.exists_walks boundary.index_le with ⟨skips, ending, walks⟩
  have next_eq := boundary.next_eq walks
  rw [source_eq] at walks next_eq
  refine ⟨source_eq, skips, ending, walks, ?_, ?_, ?_, ?_, ?_⟩
  · intro others other again
    exact again.unique walks
  · rw [next_eq]
  · rw [next_eq]
  · rw [next_eq]
  · intro nothing index character later present
    rw [next_eq] at nothing
    cases ending with
    | finished =>
        exact walks.passes_of_lt_reach later (List.getElem?_eq_some_iff.mp present).1 present
    | token kind start stop =>
        cases nothing
    | unrecognized character index =>
        cases nothing

/--
In every state that a session can reach the two cursors agree: the one stands within the text, and
the other counts the bytes of the characters before it.  Every token that was ever made begins and
ends at character boundaries, holds exactly the characters that were literal or were matched by the
first rule that matched, and carries the line where it begins.
-/
theorem cursors_agree_and_tokens_are_cut
    (source : Source)
    (config : Config)
    (filename : String)
    (operations : List Operation) :
    let account := session source config filename operations
    account.lexer.cursor.index ≤ source.text.length ∧
      account.lexer.cursor.offset =
        (Text.Utf8.encode (source.text.take account.lexer.cursor.index)).length ∧
      ∀ rules token, (rules, token) ∈ account.emitted →
        token.start < token.stop ∧
          ∃ start stop,
            start < stop ∧ stop ≤ source.text.length ∧
              token.start = source.offsetOf start ∧
              token.stop = source.offsetOf stop ∧
              rules.Lexes source.text token.kind start stop ∧
              source.slice token.start token.stop = .ok (source.between start stop) ∧
              token.lexeme = String.ofList (source.between start stop) ∧
              token.line = source.lineAt token.start := by
  intro account
  have sound := sound_session source config filename operations
  have within := sound.boundary.index_le
  have offset := sound.boundary.offset_eq
  rw [sound.source_eq] at within offset
  refine ⟨within, offset, ?_⟩
  intro rules token member
  rcases sound.lexes (rules, token) member with ⟨kind, start, stop, lexes, cut⟩
  have bounds := lexes.bounds
  have ordered := Nat.le_of_lt bounds.1
  simp only at lexes cut
  subst cut
  refine ⟨Source.offsetOf_lt bounds.1 bounds.2, start, stop, bounds.1, bounds.2, rfl, rfl, lexes,
    Source.slice_offsetOf ordered, rfl, rfl⟩

/--
In every state that a session can reach, the tokens that were handed out and the characters that
were skipped divide the text before the cursor: the tokens have some characters each, stand in the
order in which they were handed out and do not overlap, and a character lies in none of them exactly
if it is one of those that were skipped.  Each of these was to be ignored when it was skipped, or it
was neither literal nor the beginning of a match, and the rules were lenient.
-/
theorem tokens_and_skips_divide_text
    (source : Source)
    (config : Config)
    (filename : String)
    (operations : List Operation) :
    let account := session source config filename operations
    Divides source 0 account.lexer.cursor.index account.handed (account.skipped.map Prod.snd) ∧
      ∀ rules skip, (rules, skip) ∈ account.skipped →
        ∃ index,
          source.text[index]? = some skip.character ∧
            skip.offset = source.offsetOf index ∧
            rules.Passes source.text index skip.character := by
  intro account
  have sound := sound_session source config filename operations
  refine ⟨sound.divides, ?_⟩
  intro rules skip member
  rcases sound.passes (rules, skip) member with ⟨index, character, present, passes, noted⟩
  simp only at passes noted
  subst noted
  exact ⟨index, present, rfl, passes⟩

end TokenForest
