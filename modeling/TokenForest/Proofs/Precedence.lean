import Mathlib.Data.Finset.Card
import Mathlib.Data.List.Induction
import TokenForest.Precedence

/-!
# The last declaration

The table of precedence is filled rule after rule and, within a rule, lexeme after lexeme, and what
is entered later overwrites what was entered before.  So the entry of a lexeme is that of the last
rule that declares it, as if the rules had been searched from their end.  Nothing else is a key of
the table, and however often a lexeme is declared it is one key.
-/

namespace TokenForest

/-! ## Entries that are put one after another -/

namespace Entries

variable {Key Content : Type} [BEq Key] [LawfulBEq Key]

/-- What is found is what was put last, or what was there before if nothing was put. -/
theorem lookup_foldl_put
    (added entries : List (Key × Content))
    (key : Key) :
    (added.foldl (fun table entry => put entry.1 entry.2 table) entries).lookup key =
      (added.reverse.lookup key).or (entries.lookup key) := by
  induction added generalizing entries with
  | nil =>
      rfl
  | cons entry rest ih =>
      rcases entry with ⟨own, content⟩
      rw [List.foldl_cons, ih, List.reverse_cons, List.lookup_append, Option.or_assoc]
      by_cases same : key = own
      · subst same
        rw [lookup_put_self, List.lookup_cons_self, Option.some_or]
      · have other : (key == own) = false := beq_eq_false_iff_ne.mpr same
        rw [lookup_put_of_ne same, List.lookup_cons, other, List.lookup_nil, Option.none_or]

/-- No key is there twice. -/
theorem nodup_put
    {entries : List (Key × Content)}
    (nodup : (entries.map Prod.fst).Nodup)
    (key : Key)
    (content : Content) :
    ((put key content entries).map Prod.fst).Nodup := by
  rw [map_fst_put]
  split
  · exact nodup
  · rename_i absent
    rw [List.any_beq', List.contains_iff_mem] at absent
    rw [← List.concat_eq_append]
    exact nodup.concat absent

theorem nodup_foldl_put
    {entries : List (Key × Content)}
    (nodup : (entries.map Prod.fst).Nodup)
    (added : List (Key × Content)) :
    ((added.foldl (fun table entry => put entry.1 entry.2 table) entries).map Prod.fst).Nodup := by
  induction added generalizing entries with
  | nil =>
      exact nodup
  | cons entry rest ih =>
      exact ih (nodup_put nodup entry.1 entry.2)

/-- Where no key is there twice, there are as many entries as there are keys that have one. -/
theorem length_eq_card
    [DecidableEq Key]
    {entries : List (Key × Content)} {keys : List Key}
    (nodup : (entries.map Prod.fst).Nodup)
    (found : ∀ key, (entries.lookup key).isSome ↔ key ∈ keys) :
    entries.length = keys.toFinset.card := by
  have same : (entries.map Prod.fst).toFinset = keys.toFinset := by
    ext key
    rw [List.mem_toFinset, List.mem_toFinset, ← found, List.lookup_isSome_iff, List.mem_map]
    constructor
    · rintro ⟨entry, member, rfl⟩
      exact ⟨entry, member, beq_self_eq_true _⟩
    · rintro ⟨entry, member, same⟩
      exact ⟨entry, member, (beq_iff_eq.mp same).symm⟩
  rw [← same, List.toFinset_card_of_nodup nodup, List.length_map]

end Entries

/-! ## Rules of precedence -/

namespace PrecedenceRule

/-- A rule says how a lexeme of a kind binds. -/
def Declares (rule : PrecedenceRule) (kind lexeme : String) : Prop :=
  rule.kind = kind ∧ lexeme ∈ rule.lexemes

instance (rule : PrecedenceRule) (kind lexeme : String) : Decidable (rule.Declares kind lexeme) :=
  inferInstanceAs (Decidable (_ ∧ _))

/-- What a rule declares, a lexeme that it repeats as often as it is repeated. -/
def keys (rule : PrecedenceRule) : List (String × String) :=
  rule.lexemes.map fun lexeme => (rule.kind, lexeme)

theorem mem_keys_iff
    {rule : PrecedenceRule} {kind lexeme : String} :
    (kind, lexeme) ∈ rule.keys ↔ rule.Declares kind lexeme := by
  rw [keys, List.mem_map]
  constructor
  · rintro ⟨own, member, same⟩
    cases same
    exact ⟨rfl, member⟩
  · rintro ⟨rfl, member⟩
    exact ⟨lexeme, member, rfl⟩

end PrecedenceRule

/--
The entry has the index and the associativity of a rule that declares the lexeme, and no rule behind
it does.
-/
inductive PrecedenceEntry.IsLast (kind lexeme : String) :
    List PrecedenceRule → PrecedenceEntry → Prop where
  | intro
      {before after : List PrecedenceRule} {rule : PrecedenceRule}
      (declares : rule.Declares kind lexeme)
      (last : ∀ later ∈ after, ¬later.Declares kind lexeme) :
      IsLast kind lexeme
        (before ++ rule :: after)
        { associativity := rule.associativity, rank := before.length }

namespace PrecedenceTable

variable
    {rules : List PrecedenceRule}
    {kind lexeme : String}

/-! ## Declaring one rule -/

theorem declare_eq_foldl
    (rank : Nat)
    (rule : PrecedenceRule)
    (entries : List ((String × String) × PrecedenceEntry)) :
    declare rank rule entries =
      (rule.keys.map fun key => (key, { associativity := rule.associativity, rank })).foldl
        (fun table entry => Entries.put entry.1 entry.2 table) entries := by
  rw [declare, PrecedenceRule.keys, List.map_map, List.foldl_map]
  rfl

/-- A rule decides about what it declares, and leaves the rest as it was. -/
theorem lookup_declare
    (rank : Nat)
    (rule : PrecedenceRule)
    (entries : List ((String × String) × PrecedenceEntry)) :
    (declare rank rule entries).lookup (kind, lexeme) =
      if rule.Declares kind lexeme then some { associativity := rule.associativity, rank }
      else entries.lookup (kind, lexeme) := by
  rw [declare_eq_foldl, Entries.lookup_foldl_put, ← List.map_reverse]
  split
  · rename_i declares
    have member : (kind, lexeme) ∈ rule.keys.reverse :=
      List.mem_reverse.mpr (PrecedenceRule.mem_keys_iff.mpr declares)
    rw [List.lookup_graph _ member, Option.some_or]
  · rename_i undeclared
    have absent : (rule.keys.reverse.map fun key =>
        (key, { associativity := rule.associativity, rank : PrecedenceEntry })).lookup
          (kind, lexeme) = none := by
      rw [List.lookup_eq_none_iff]
      simp only [List.mem_map, List.mem_reverse]
      rintro _ ⟨key, member, rfl⟩
      rw [bne_iff_ne]
      rintro rfl
      exact undeclared (PrecedenceRule.mem_keys_iff.mp member)
    rw [absent, Option.none_or]

theorem declareFrom_concat
    (rank : Nat)
    (rule : PrecedenceRule)
    (entries : List ((String × String) × PrecedenceEntry)) :
    declareFrom rank (rules ++ [rule]) entries =
      declare (rank + rules.length) rule (declareFrom rank rules entries) := by
  induction rules generalizing rank entries with
  | nil =>
      rfl
  | cons first rest ih =>
      rw [List.cons_append, declareFrom, ih, declareFrom, List.length_cons, Nat.add_assoc,
        Nat.add_comm 1]

/-- A rule that is added at the end overrides the rules before it. -/
theorem lookup_concat
    (rules : List PrecedenceRule)
    (rule : PrecedenceRule)
    (kind lexeme : String) :
    (ofRules (rules ++ [rule])).lookup kind lexeme =
      if rule.Declares kind lexeme then
        some { associativity := rule.associativity, rank := rules.length }
      else (ofRules rules).lookup kind lexeme := by
  simp only [lookup, ofRules, declareFrom_concat, lookup_declare, Nat.zero_add]

/-! ## What is looked up -/

theorem isSome_lookup_iff :
    ((ofRules rules).lookup kind lexeme).isSome ↔ ∃ rule ∈ rules, rule.Declares kind lexeme := by
  induction rules using List.reverseRecOn with
  | nil =>
      simp [ofRules, lookup, declareFrom]
  | append_singleton rules rule ih =>
      rw [lookup_concat]
      split
      · rename_i declares
        simp [declares]
      · rename_i undeclared
        simp [undeclared, ih]

theorem lookup_eq_none_iff :
    (ofRules rules).lookup kind lexeme = none ↔ ∀ rule ∈ rules, ¬rule.Declares kind lexeme := by
  rw [← Option.not_isSome_iff_eq_none, isSome_lookup_iff]
  simp only [not_exists, not_and]

/-- Rules that are added at the end count on from the rules before them. -/
theorem lookup_append
    (rules later : List PrecedenceRule)
    (kind lexeme : String) :
    (ofRules (rules ++ later)).lookup kind lexeme =
      match (ofRules later).lookup kind lexeme with
      | some entry => some { entry with rank := entry.rank + rules.length }
      | none => (ofRules rules).lookup kind lexeme := by
  induction later using List.reverseRecOn with
  | nil =>
      rw [List.append_nil]
      rfl
  | append_singleton later rule ih =>
      rw [← List.append_assoc, lookup_concat, lookup_concat]
      split
      · rw [List.length_append, Nat.add_comm]
      · exact ih

theorem lookup_eq_some_iff
    {entry : PrecedenceEntry} :
    (ofRules rules).lookup kind lexeme = some entry ↔
      PrecedenceEntry.IsLast kind lexeme rules entry := by
  constructor
  · intro found
    induction rules using List.reverseRecOn with
    | nil =>
        cases found
    | append_singleton rules rule ih =>
        rw [lookup_concat] at found
        split at found
        · rename_i declares
          cases found
          exact .intro declares (by simp)
        · rename_i undeclared
          rcases ih found with ⟨declares, last⟩
          rw [List.append_assoc, List.cons_append]
          apply PrecedenceEntry.IsLast.intro declares
          intro later member
          rw [List.mem_append, List.mem_singleton] at member
          rcases member with earlier | rfl
          · exact last later earlier
          · exact undeclared
  · rintro ⟨declares, last⟩
    rw [List.append_cons, lookup_append, lookup_eq_none_iff.mpr last, lookup_concat,
      if_pos declares]

/-! ## How many keys there are -/

theorem nodup_declareFrom
    {entries : List ((String × String) × PrecedenceEntry)}
    (nodup : (entries.map Prod.fst).Nodup)
    (rank : Nat) :
    ((declareFrom rank rules entries).map Prod.fst).Nodup := by
  induction rules generalizing rank entries with
  | nil =>
      exact nodup
  | cons rule rest ih =>
      apply ih
      rw [declare_eq_foldl]
      exact Entries.nodup_foldl_put nodup _

theorem size_eq (rules : List PrecedenceRule) :
    (ofRules rules).size = (rules.flatMap PrecedenceRule.keys).toFinset.card := by
  have nodup : ((declareFrom 0 rules []).map Prod.fst).Nodup := by
    apply nodup_declareFrom
    exact List.nodup_nil
  apply Entries.length_eq_card nodup
  rintro ⟨kind, lexeme⟩
  rw [List.mem_flatMap]
  simp only [PrecedenceRule.mem_keys_iff]
  exact isSome_lookup_iff

theorem hasKey_iff
    {table : PrecedenceTable} {texts : List String} :
    table.hasKey texts = true ↔
      ∃ kind lexeme, texts = [kind, lexeme] ∧ table.lookup kind lexeme ≠ none := by
  constructor
  · intro isKey
    unfold hasKey at isKey
    split at isKey
    · rename_i kind lexeme
      exact ⟨kind, lexeme, rfl, Option.isSome_iff_ne_none.mp isKey⟩
    · cases isKey
  · rintro ⟨kind, lexeme, rfl, found⟩
    exact Option.isSome_iff_ne_none.mpr found

/--
What is looked up for a lexeme of a kind is the index and the associativity of the last rule that
declares it, and nothing if no rule does.  The keys of the table are the pairs for which something
is found, and its size is the number of different pairs that the rules declare, however often they
do.  Behind other rules, what is looked up in a list of rules has its rank raised by the number of
these, and what it does not declare is looked up in them.
-/
theorem last_declaration_wins (rules : List PrecedenceRule) :
    (∀ kind lexeme entry,
      (ofRules rules).lookup kind lexeme = some entry ↔
        PrecedenceEntry.IsLast kind lexeme rules entry) ∧
      (∀ kind lexeme,
        (ofRules rules).lookup kind lexeme = none ↔
          ∀ rule ∈ rules, ¬rule.Declares kind lexeme) ∧
      (∀ texts,
        (ofRules rules).hasKey texts = true ↔
          ∃ kind lexeme, texts = [kind, lexeme] ∧ (ofRules rules).lookup kind lexeme ≠ none) ∧
      (ofRules rules).size = (rules.flatMap PrecedenceRule.keys).toFinset.card ∧
      ∀ later kind lexeme,
        (ofRules (rules ++ later)).lookup kind lexeme =
          match (ofRules later).lookup kind lexeme with
          | some entry => some { entry with rank := entry.rank + rules.length }
          | none => (ofRules rules).lookup kind lexeme := by
  refine ⟨?_, ?_, ?_, size_eq rules, lookup_append rules⟩
  · intro kind lexeme entry
    exact lookup_eq_some_iff
  · intro kind lexeme
    exact lookup_eq_none_iff
  · intro texts
    exact hasKey_iff

/-- A lexeme that is repeated within a rule and declared again by another one. -/
example :
    let table := ofRules [
      { kind := "lit", associativity := .left, lexemes := ["+", "-", "+"] },
      { kind := "word", associativity := .left, lexemes := ["-"] },
      { kind := "lit", associativity := .right, lexemes := ["-"] }]
    table.lookup "lit" "-" = some { associativity := .right, rank := 2 } ∧ table.size = 3 := by
  decide

end PrecedenceTable

end TokenForest
