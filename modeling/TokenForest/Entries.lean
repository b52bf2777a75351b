/-!
# Entries in order of declaration

A table is a list of keys with their contents.  Setting a key that is present replaces the content
in place; setting a new key appends it.  Looking up what was set gives it back, and no other key is
affected.
-/

namespace TokenForest.Entries

variable {Key Content : Type} [BEq Key]

/-- Sets the content of a key: in its place if the key is present, at the end if it is new. -/
def put (key : Key) (content : Content) : List (Key × Content) → List (Key × Content)
  | [] => [(key, content)]
  | (present, old) :: rest =>
    if present == key then (present, content) :: rest
    else (present, old) :: put key content rest

/-- The entries that result from setting keys one after another. -/
def ofList (entries : List (Key × Content)) : List (Key × Content) :=
  entries.foldl (fun table entry => put entry.1 entry.2 table) []

/-- The content that was put last is the one that is found. -/
@[simp]
theorem lookup_put_self
    [LawfulBEq Key]
    (key : Key)
    (content : Content)
    (entries : List (Key × Content)) :
    (put key content entries).lookup key = some content := by
  induction entries with
  | nil => simp [put]
  | cons entry rest ih =>
    obtain ⟨present, old⟩ := entry
    by_cases same : present = key
    · simp [put, same]
    · have unequal : (key == present) = false := by
        simpa using fun equal : key = present => same equal.symm
      simp [put, same, List.lookup_cons, unequal, ih]

/-- Setting one key leaves every other key as it was. -/
theorem lookup_put_of_ne
    [LawfulBEq Key]
    {key other : Key}
    (differs : other ≠ key)
    (content : Content)
    (entries : List (Key × Content)) :
    (put key content entries).lookup other = entries.lookup other := by
  have unequal : (other == key) = false := by simpa using differs
  induction entries with
  | nil => simp [put, List.lookup_cons, unequal]
  | cons entry rest ih =>
    obtain ⟨present, old⟩ := entry
    by_cases same : present = key
    · subst same
      simp [put, List.lookup_cons, unequal]
    · simp [put, same, List.lookup_cons, ih]

/-- Setting a key keeps the keys in their places, and adds it behind them if it is new. -/
theorem map_fst_put
    (key : Key)
    (content : Content)
    (entries : List (Key × Content)) :
    (put key content entries).map Prod.fst =
      if (entries.map Prod.fst).any (· == key) then entries.map Prod.fst
      else entries.map Prod.fst ++ [key] := by
  induction entries with
  | nil => rfl
  | cons entry rest ih =>
    obtain ⟨present, old⟩ := entry
    cases same : present == key with
    | true => simp [put, same]
    | false =>
      simp only [put, same, List.map_cons, List.any_cons, Bool.false_or, ih,
        Bool.false_eq_true, if_false]
      split <;> rfl

end TokenForest.Entries
