import TokenForest.Grouping.Matcher
import TokenForest.Lexer.Scan

/-!
# Traces

What a lexer notes while it works: every character that it skips, every token that it makes, and
groups that open and close.  An event is one line of text, with the name of the part that notes it;
tokens, and characters that are skipped because they are to be ignored, are noted without a line.
-/

namespace TokenForest

/-- Something noted on the way. -/
inductive Event where
  | skipped (skip : Skip)
  | drawn (token : Token)
  | opened (lexeme : String) (line depth : Nat)
  | closed (lexeme : String) (line depth : Nat)
  deriving Repr

/-- What is noted, in order. -/
abbrev Trace := List Event

/-- The line that reports an event, if it is reported. -/
def Event.line? : Event → Option String
  | .skipped skip =>
    if skip.ignored then none
    else
      some ("nestlex.lexer: skipping unrecognized " ++ Text.Quoted.ofChar skip.character ++
        s!" at offset {skip.offset}")
  | .drawn _ => none
  | .opened lexeme line depth =>
    some ("nestlex.grouping: open " ++ Text.Quoted.ofString lexeme ++
      s!" at line {line} (depth {depth})")
  | .closed lexeme line depth =>
    some ("nestlex.grouping: close " ++ Text.Quoted.ofString lexeme ++
      s!" at line {line} (depth {depth})")

/-- The text of a trace, a line for each event that is reported. -/
def Trace.text (trace : Trace) : String :=
  String.join ((trace.filterMap Event.line?).map (· ++ "\n"))

/-- The tokens among what is noted. -/
def Trace.tokens (trace : Trace) : List Token :=
  trace.filterMap fun event =>
    match event with
    | .drawn token => some token
    | _ => none

/-- The skipped characters among what is noted. -/
def Trace.skips (trace : Trace) : List Skip :=
  trace.filterMap fun event =>
    match event with
    | .skipped skip => some skip
    | _ => none

/-- What is noted when a token takes a matcher from one depth to another. -/
def Event.ofDepths (before after : Nat) (token : Token) : Trace :=
  if before < after then [.opened token.lexeme token.line after]
  else if after < before then [.closed token.lexeme token.line after]
  else []

namespace Trace

variable {trace later : Trace}

@[simp]
theorem tokens_nil : tokens [] = [] :=
  rfl

@[simp]
theorem tokens_append : tokens (trace ++ later) = trace.tokens ++ later.tokens :=
  List.filterMap_append

@[simp]
theorem tokens_cons_skipped (skip : Skip) : tokens (.skipped skip :: trace) = trace.tokens :=
  rfl

@[simp]
theorem tokens_cons_drawn (token : Token) :
    tokens (.drawn token :: trace) = token :: trace.tokens :=
  rfl

@[simp]
theorem tokens_cons_opened
    (lexeme : String)
    (line depth : Nat) :
    tokens (.opened lexeme line depth :: trace) = trace.tokens :=
  rfl

@[simp]
theorem tokens_cons_closed
    (lexeme : String)
    (line depth : Nat) :
    tokens (.closed lexeme line depth :: trace) = trace.tokens :=
  rfl

@[simp]
theorem skips_nil : skips [] = [] :=
  rfl

@[simp]
theorem skips_append : skips (trace ++ later) = trace.skips ++ later.skips :=
  List.filterMap_append

@[simp]
theorem skips_cons_skipped (skip : Skip) :
    skips (.skipped skip :: trace) = skip :: trace.skips :=
  rfl

@[simp]
theorem skips_cons_drawn (token : Token) : skips (.drawn token :: trace) = trace.skips :=
  rfl

@[simp]
theorem skips_cons_opened
    (lexeme : String)
    (line depth : Nat) :
    skips (.opened lexeme line depth :: trace) = trace.skips :=
  rfl

@[simp]
theorem skips_cons_closed
    (lexeme : String)
    (line depth : Nat) :
    skips (.closed lexeme line depth :: trace) = trace.skips :=
  rfl

/-- Notes about skipped characters are about no tokens. -/
@[simp]
theorem tokens_map_skipped (skips : List Skip) : tokens (skips.map .skipped) = [] := by
  induction skips with
  | nil => rfl
  | cons skip rest ih => rw [List.map_cons, tokens_cons_skipped, ih]

@[simp]
theorem skips_map_skipped (skips : List Skip) : Trace.skips (skips.map .skipped) = skips := by
  induction skips with
  | nil => rfl
  | cons skip rest ih => rw [List.map_cons, skips_cons_skipped, ih]

/-- Notes about groups are about no tokens. -/
@[simp]
theorem tokens_ofDepths
    (before after : Nat)
    (token : Token) :
    tokens (Event.ofDepths before after token) = [] := by
  unfold Event.ofDepths
  split
  · rfl
  · split <;> rfl

end Trace

end TokenForest
