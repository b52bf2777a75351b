import TokenForest.Command.Run
import TokenForest.Proofs.Lexer.Batch

/-!
# Flat dumps and dumps of forests

A flat dump has an entry for each token of a source, and the dump of its forest has one for each
node.  Walking the forest meets the tokens in the order in which they were drawn, so both dumps
speak of the same tokens in the same order.  An entry of the second dump is the entry of the first
one behind a mark, which tells how deep the token stands and whether it opens a group.
-/

namespace TokenForest

open Text (Source)

/-- The entry of a token in a flat dump. -/
def Token.entry (source : Source) (token : Token) : String :=
  token.description source ++ "\n"

/--
What stands before the entry of a token at a depth: two blanks a level, and what the token is.
-/
def Token.mark (pairs : Pairs) (depth : Nat) (token : Token) : String :=
  String.ofList (List.replicate (2 * depth) ' ') ++
    if (pairs.closer? token.kind token.lexeme).isSome then "Group " else "Token "

theorem dumpLine_eq
    {pairs : Pairs} {tree : Tree Token}
    (ends : tree.EndsAtFirstCloser pairs)
    (source : Source)
    (depth : Nat) :
    dumpLine source depth tree = tree.label.mark pairs depth ++ tree.label.entry source := by
  have group : tree.isGroup = (pairs.closer? tree.label.kind tree.label.lexeme).isSome := by
    rw [Bool.eq_iff_iff, Option.isSome_iff_exists]
    exact ends.isGroup_iff
  rw [dumpLine, Token.mark, Token.entry, group, ← String.append_assoc]

/-! ## Names of files -/

namespace Lexer

variable {lexer : Lexer}

/-- Only reports mention the name of the file. -/
theorem take_filename
    (lexer : Lexer)
    (filename : String)
    (count : Nat) :
    (take count { lexer with filename }).result = (lexer.take count).result := by
  induction count generalizing lexer with
  | zero =>
      rfl
  | succ count ih =>
      rw [take, take, next, next]
      rcases lexer.rules.scan lexer.source lexer.cursor with ⟨skips, found⟩
      cases found with
      | token token cursor =>
          simp only
          rw [ih { lexer with cursor }]
      | finished cursor =>
          rfl
      | unrecognized character cursor =>
          rfl
      | undecodable error cursor =>
          rfl

theorem tokens_ofSource
    (source : Source)
    (config : Config)
    (filename : String) :
    (ofSource source config filename).tokens.result = (ofSource source config).tokens.result :=
  take_filename (ofSource source config) filename _

/-! ## Tokens of a forest -/

/-- No token is drawn twice. -/
theorem Draws.nodup_tokens
    {trace : Trace} {after : Lexer}
    (draws : lexer.Draws trace after) :
    trace.tokens.Nodup := by
  rcases draws with ⟨within, covers⟩
  have divides := covers.divides within
  apply divides.tokens_ordered.imp_of_mem
  rintro earlier later member _ ordered rfl
  rcases divides.token_within earlier member with ⟨first, last, _, nonempty, _, starts, stops⟩
  have ahead : lexer.source.offsetOf first < lexer.source.offsetOf last :=
    Source.offsetOf_lt nonempty (by omega)
  omega

/-- Where grouping answers a forest, that is the forest of the tokens that are left. -/
theorem AtBoundary.group_tokens
    {forest : List (Tree Token)}
    (boundary : lexer.AtBoundary)
    (absent : lexer.forest = none)
    (grouped : lexer.group.result = .ok forest) :
    lexer.tokens.result.fault = none ∧
      TokenForest.group lexer.pairs lexer.tokens.result.tokens = .ok forest := by
  rw [boundary.group_result absent, Drawn.group] at grouped
  cases drawn : lexer.tokens.result.fault with
  | some fault =>
      rw [drawn] at grouped
      cases grouped
  | none =>
      rw [drawn] at grouped
      simp only [mapError_eq_ok_iff, Roster.groupFresh_eq] at grouped
      exact ⟨rfl, grouped⟩

theorem AtBoundary.nodup_tokens
    (boundary : lexer.AtBoundary) :
    lexer.tokens.result.tokens.Nodup := by
  rcases boundary.take_draws (lexer.remaining + 1) with ⟨draws, tokens⟩
  rw [Lexer.tokens, ← tokens]
  exact draws.nodup_tokens

end Lexer

/-- A fault of scanning is a fault of grouping. -/
theorem forest_of_tokenize_error
    {source : Source} {config : Config} {fault : Fault ScanError}
    (failed : tokenize source config = .error fault) :
    forest source config = .error (fault.map .scan) := by
  have start := Lexer.atBoundary_ofSource source config "<input>"
  rw [forest, start.group_result rfl, Lexer.Drawn.group]
  unfold tokenize at failed
  cases stopped : (Lexer.ofSource source config).tokens.result.fault with
  | some own =>
      simp only [stopped] at failed
      cases failed
      rfl
  | none =>
      simp only [stopped] at failed
      cases failed

/-! ## The two dumps -/

/-- The entries of the dump of a forest. -/
def forestEntries (source : Source) (roots : List (Tree Token)) : List String :=
  (Tree.levelsAll 0 roots).map fun (depth, tree) => dumpLine source depth tree

variable
    {pairs : Pairs}
    {tokens : List Token}
    {roots : List (Tree Token)}

theorem length_forestEntries
    (grouped : group pairs tokens = .ok roots)
    (source : Source) :
    (forestEntries source roots).length = tokens.length := by
  have labels := congrArg List.length (Tree.map_label_levelsAll 0 roots)
  rw [List.length_map, walkAll_of_group grouped] at labels
  rw [forestEntries, List.length_map, labels]

/-- Every token has an entry in the dump of its forest, with a mark that tells its only depth. -/
theorem forestEntries_getElem?
    {index : Nat} {token : Token}
    (grouped : group pairs tokens = .ok roots)
    (distinct : tokens.Nodup)
    (present : tokens[index]? = some token)
    (source : Source) :
    ∃ depth,
      (∀ other, (∃ tree ∈ roots, tree.HasAt token other) ↔ other = depth) ∧
        (forestEntries source roots)[index]? =
          some (token.mark pairs depth ++ token.entry source) := by
  rw [← walkAll_of_group grouped] at distinct present
  rw [← Tree.map_label_levelsAll 0, List.getElem?_map, Option.map_eq_some_iff] at present
  rcases present with ⟨⟨depth, tree⟩, found, rfl⟩
  have level := List.mem_of_getElem? found
  rcases Tree.mem_levelsAll_iff.mp level with ⟨root, member, standing⟩
  have ends := ((balanced_of_group grouped root member).of_mem_levels standing).endsAtFirstCloser
  refine ⟨depth, ?_, ?_⟩
  · intro other
    exact Tree.exists_hasAt_iff_of_nodup distinct level
  · rw [forestEntries, List.getElem?_map, found, Option.map_some]
    exact congrArg some (dumpLine_eq ends source depth)

namespace Command

theorem render_flat
    (options : Options)
    (source : Source) :
    (render { options with flat := true } source).1 =
      match tokenize source options.config with
      | .error fault => .error (fault.map .scan)
      | .ok tokens => .ok (dumpTokens source tokens) := by
  have named := Lexer.tokens_ofSource source options.config options.input.text
  simp only [render, if_true, tokenize]
  rw [named]
  cases (Lexer.ofSource source options.config).tokens.result.fault with
  | some fault =>
      rfl
  | none =>
      rfl

theorem group_ofSource
    (source : Source)
    (config : Config)
    (filename : String) :
    (Lexer.ofSource source config filename).group.result = forest source config := by
  have boundary := Lexer.atBoundary_ofSource source config filename
  have start := Lexer.atBoundary_ofSource source config "<input>"
  rw [forest, boundary.group_result rfl, start.group_result rfl, Lexer.tokens_ofSource]
  rfl

theorem render_nested
    (options : Options)
    (source : Source) :
    (render { options with flat := false } source).1 =
      match forest source options.config with
      | .error fault => .error fault
      | .ok forest => .ok (dumpForest source forest) := by
  simp only [render, Bool.false_eq_true, if_false]
  rw [group_ofSource]
  cases forest source options.config with
  | error fault =>
      rfl
  | ok forest =>
      rfl

end Command

/--
If the tokens of a source can be grouped, the flat dump and the dump of the forest have one entry
for each token, in the same order.  An entry of the dump of the forest is the entry of the flat dump
behind two blanks for each level above the token in the forest, and behind a word that tells whether
the token is an opener.  The command prints these dumps.  If scanning fails, so does grouping, and
the command reports the same fault in both modes.
-/
theorem dumps_show_same_tokens
    (source : Source)
    (options : Command.Options) :
    let rendered (flat : Bool) := (Command.render { options with flat } source).1
    (∀ roots,
      forest source options.config = .ok roots →
        ∃ (tokens : List Token) (entries nested : List String),
          tokenize source options.config = .ok tokens ∧
            rendered true = .ok (dumpTokens source tokens) ∧
            rendered false = .ok (dumpForest source roots) ∧
            dumpTokens source tokens = String.join entries ∧
            dumpForest source roots = String.join nested ∧
            entries.length = tokens.length ∧
            nested.length = tokens.length ∧
            ∀ (index : Nat) (token : Token),
              tokens[index]? = some token →
                ∃ depth,
                  (∀ other, (∃ tree ∈ roots, tree.HasAt token other) ↔ other = depth) ∧
                    entries[index]? = some (token.entry source) ∧
                    nested[index]? =
                      some
                        (token.mark (Pairs.ofList options.config.pairs) depth ++
                          token.entry source)) ∧
      ∀ fault,
        tokenize source options.config = .error fault →
          forest source options.config = .error (fault.map .scan) ∧
            rendered true = .error (fault.map .scan) ∧
            rendered false = .error (fault.map .scan) := by
  intro rendered
  have flat : rendered true = _ := Command.render_flat options source
  have nested : rendered false = _ := Command.render_nested options source
  have boundary := Lexer.atBoundary_ofSource source options.config "<input>"
  constructor
  · intro roots succeeded
    rcases boundary.group_tokens rfl succeeded with ⟨unfailed, grouped⟩
    have tokenized : tokenize source options.config =
        .ok (Lexer.ofSource source options.config).tokens.result.tokens := by
      rw [tokenize, unfailed]
    rw [tokenized] at flat
    rw [succeeded] at nested
    refine ⟨_, _, forestEntries source roots, tokenized, flat, nested, rfl, rfl,
      List.length_map _, length_forestEntries grouped source, ?_⟩
    intro index token present
    rcases forestEntries_getElem? grouped boundary.nodup_tokens present source with
      ⟨depth, only, entry⟩
    refine ⟨depth, only, ?_, entry⟩
    rw [List.getElem?_map, present]
    rfl
  · intro fault failed
    have ungrouped := forest_of_tokenize_error failed
    rw [failed] at flat
    rw [ungrouped] at nested
    exact ⟨ungrouped, flat, nested⟩

/-- A source with a group in a group, and its forest. -/
def nestedSource : Source :=
  { text := "(+[-])".toList }

/-- The forest of this source. -/
def nestedForest : List (Tree Token) :=
  let token (lexeme : String) (start : Nat) : Token :=
    { kind := literalKind, lexeme, line := 1, start, stop := start + 1 }
  [ .node (token "(" 0)
      [ .leaf (token "+" 1),
        .node (token "[" 2) [.leaf (token "-" 3), .leaf (token "]" 4)],
        .leaf (token ")" 5)]]

theorem dumps_show_same_tokens_nested :
    let token : Token := { kind := literalKind, lexeme := "-", line := 1, start := 3, stop := 4 }
    forest nestedSource Config.standard = .ok nestedForest ∧
      ∃ (tokens : List Token) (entries nested : List String),
        tokenize nestedSource Config.standard = .ok tokens ∧
          tokens[3]? = some token ∧
          dumpTokens nestedSource tokens = String.join entries ∧
          dumpForest nestedSource nestedForest = String.join nested ∧
          entries[3]? = some (token.entry nestedSource) ∧
          nested[3]? = some ("    Token " ++ token.entry nestedSource) := by
  intro token
  let options : Command.Options :=
    { input := Path.ofString "x", output := none, config := Config.standard, flat := false
      verbose := false }
  have succeeded : forest nestedSource Config.standard = .ok nestedForest := by
    with_unfolding_all rfl
  refine ⟨succeeded, ?_⟩
  rcases (dumps_show_same_tokens nestedSource options).1 nestedForest succeeded with
    ⟨tokens, entries, nested, tokenized, _, _, flat, indented, _, _, same⟩
  have walked : tokenize nestedSource Config.standard = .ok (Tree.walkAll nestedForest) := by
    with_unfolding_all rfl
  have present : tokens[3]? = some token := by
    rw [walked] at tokenized
    cases tokenized
    rfl
  rcases same 3 token present with ⟨depth, only, entry, marked⟩
  have deep : 2 = depth := by
    rw [← only 2]
    exact ⟨_, List.mem_cons_self, .inside (List.mem_cons_of_mem _ List.mem_cons_self)
      (.inside List.mem_cons_self .top)⟩
  subst deep
  exact ⟨tokens, entries, nested, tokenized, present, flat, indented, entry, marked⟩

end TokenForest
