import Mathlib.Data.List.Nodup
import TokenForest.Tree

/-!
# Trees with other labels

Changing every label of a tree changes nothing about its shape.  This module also says which labels
a walk meets: the one at the top, and all that a walk over a tree below meets.  The same is said of
the subtrees that stand at the levels of a tree, and the number of a level is how deep a label
stands.
-/

namespace TokenForest.Tree

variable {Label Other : Type}

mutual

/-- The tree with every label changed. -/
def map (change : Label → Other) : Tree Label → Tree Other
  | .node label children => .node (change label) (mapAll change children)

/-- Some trees with every label changed. -/
def mapAll (change : Label → Other) : List (Tree Label) → List (Tree Other)
  | [] => []
  | tree :: rest => tree.map change :: mapAll change rest

end

variable (change : Label → Other)

@[simp]
theorem mapAll_eq_map (trees : List (Tree Label)) :
    mapAll change trees = trees.map (map change) := by
  induction trees with
  | nil =>
      rw [mapAll, List.map_nil]
  | cons tree rest ih =>
      rw [mapAll, List.map_cons, ih]

@[simp]
theorem map_node
    (label : Label)
    (children : List (Tree Label)) :
    (node label children).map change = node (change label) (children.map (map change)) := by
  rw [map, mapAll_eq_map]

@[simp]
theorem map_leaf (label : Label) :
    (leaf label).map change = leaf (change label) := by
  simp [leaf]

/-- Changing labels commutes with adopting. -/
@[simp]
theorem map_adopt (tree child : Tree Label) :
    (tree.adopt child).map change = (tree.map change).adopt (child.map change) := by
  cases tree
  simp [adopt]

mutual

/-- Changing labels and walking commute. -/
@[simp]
theorem walk_map (tree : Tree Label) : (tree.map change).walk = tree.walk.map change := by
  cases tree with
  | node label children =>
      rw [map_node, walk_node, walk_node, List.map_cons, walkAll_map children]

@[simp]
theorem walkAll_map (trees : List (Tree Label)) :
    walkAll (trees.map (map change)) = (walkAll trees).map change := by
  cases trees with
  | nil =>
      rw [List.map_nil, walkAll_nil, walkAll_nil, List.map_nil]
  | cons tree rest =>
      rw [List.map_cons, walkAll_cons, walkAll_cons, List.map_append, walk_map tree,
        walkAll_map rest]

end

theorem walkAll_eq_flatMap (trees : List (Tree Label)) :
    walkAll trees = trees.flatMap walk := by
  induction trees with
  | nil =>
      rw [walkAll_nil, List.flatMap_nil]
  | cons tree rest ih =>
      rw [walkAll_cons, List.flatMap_cons, ih]

theorem label_mem_walk (tree : Tree Label) : tree.label ∈ tree.walk := by
  cases tree
  simp [label]

/-- What stands below a node is walked with it. -/
theorem walk_sublist_of_mem
    {tree : Tree Label} {trees : List (Tree Label)}
    (member : tree ∈ trees) :
    tree.walk.Sublist (walkAll trees) := by
  rw [walkAll_eq_flatMap, List.flatMap_def]
  exact List.sublist_flatten_of_mem (List.mem_map_of_mem member)

@[simp]
theorem label_leaf (label : Label) : (leaf label).label = label :=
  rfl

@[simp]
theorem isGroup_leaf (label : Label) : (leaf label).isGroup = false :=
  rfl

/-- A tree with something below its top is no leaf. -/
theorem node_append_ne_leaf
    {head label : Label}
    {children : List (Tree Label)} {child : Tree Label} :
    node head (children ++ [child]) ≠ leaf label := by
  simp [leaf]

@[simp]
theorem levels_node
    (depth : Nat)
    (label : Label)
    (children : List (Tree Label)) :
    (node label children).levels depth =
      (depth, node label children) :: levelsAll (depth + 1) children := by
  rw [levels]

/-- A leaf has no other level than its own. -/
theorem eq_leaf_of_mem_levels
    {depth : Nat} {label : Label} {entry : Nat × Tree Label}
    (present : entry ∈ (leaf label).levels depth) :
    entry.2 = leaf label := by
  rw [leaf, levels_node, levelsAll, List.mem_singleton] at present
  rw [present, leaf]

theorem levelsAll_eq_flatMap
    (depth : Nat)
    (trees : List (Tree Label)) :
    levelsAll depth trees = trees.flatMap (levels depth) := by
  induction trees with
  | nil =>
      rw [levelsAll, List.flatMap_nil]
  | cons tree rest ih =>
      rw [levelsAll, List.flatMap_cons, ih]

/-- A subtree at some level stands in one of the trees. -/
theorem mem_levelsAll_iff
    {depth : Nat} {trees : List (Tree Label)} {entry : Nat × Tree Label} :
    entry ∈ levelsAll depth trees ↔ ∃ tree ∈ trees, entry ∈ tree.levels depth := by
  rw [levelsAll_eq_flatMap, List.mem_flatMap]

mutual

/-- The subtrees at the levels are met in the order of their labels on a walk. -/
theorem map_label_levels
    (depth : Nat)
    (tree : Tree Label) :
    (tree.levels depth).map (fun entry => entry.2.label) = tree.walk := by
  cases tree with
  | node item children =>
      rw [levels_node, walk_node, List.map_cons, map_label_levelsAll (depth + 1) children, label]

theorem map_label_levelsAll
    (depth : Nat)
    (trees : List (Tree Label)) :
    (levelsAll depth trees).map (fun entry => entry.2.label) = walkAll trees := by
  cases trees with
  | nil =>
      rw [levelsAll, walkAll_nil, List.map_nil]
  | cons tree rest =>
      rw [levelsAll, walkAll_cons, List.map_append, map_label_levels depth tree,
        map_label_levelsAll depth rest]

end

/-! ## Depths -/

/-- The label stands so deep in a tree, the top having depth zero. -/
inductive HasAt (item : Label) : Nat → Tree Label → Prop where
  | top
      {children : List (Tree Label)} :
      HasAt item 0 (.node item children)
  | inside
      {label : Label} {children : List (Tree Label)} {child : Tree Label} {depth : Nat}
      (member : child ∈ children)
      (deeper : HasAt item depth child) :
      HasAt item (depth + 1) (.node label children)

variable {item : Label}

/-- What stands so deep is found at the level of this depth. -/
theorem HasAt.exists_mem_levels
    {depth : Nat} {tree : Tree Label}
    (stands : HasAt item depth tree)
    (base : Nat) :
    ∃ found, (base + depth, found) ∈ tree.levels base ∧ found.label = item := by
  induction stands generalizing base with
  | @top children =>
      exact ⟨.node item children, by simp, rfl⟩
  | @inside label children child depth member deeper ih =>
      rcases ih (base + 1) with ⟨found, present, same⟩
      have level : (base + (depth + 1), found) ∈ levelsAll (base + 1) children := by
        rw [Nat.add_comm depth 1, ← Nat.add_assoc]
        exact mem_levelsAll_iff.mpr ⟨child, member, present⟩
      refine ⟨found, ?_, same⟩
      rw [levels_node]
      exact List.mem_cons_of_mem _ level

mutual

/-- What is found at a level stands as deep as the level says. -/
theorem exists_hasAt_of_mem_levels
    {base : Nat} {tree : Tree Label} {entry : Nat × Tree Label}
    (present : entry ∈ tree.levels base) :
    ∃ depth, entry.1 = base + depth ∧ HasAt entry.2.label depth tree := by
  cases tree with
  | node label children =>
      rw [levels_node, List.mem_cons] at present
      rcases present with rfl | below
      · exact ⟨0, rfl, .top⟩
      · rcases exists_hasAt_of_mem_levelsAll below with ⟨depth, level, child, member, deeper⟩
        refine ⟨depth + 1, ?_, .inside member deeper⟩
        rw [level, Nat.add_assoc, Nat.add_comm 1 depth]

theorem exists_hasAt_of_mem_levelsAll
    {base : Nat} {trees : List (Tree Label)} {entry : Nat × Tree Label}
    (present : entry ∈ levelsAll base trees) :
    ∃ depth, entry.1 = base + depth ∧ ∃ tree ∈ trees, HasAt entry.2.label depth tree := by
  cases trees with
  | nil =>
      rw [levelsAll] at present
      cases present
  | cons tree rest =>
      rw [levelsAll, List.mem_append] at present
      rcases present with first | later
      · rcases exists_hasAt_of_mem_levels first with ⟨depth, level, stands⟩
        exact ⟨depth, level, tree, List.mem_cons_self, stands⟩
      · rcases exists_hasAt_of_mem_levelsAll later with ⟨depth, level, other, member, stands⟩
        exact ⟨depth, level, other, List.mem_cons_of_mem tree member, stands⟩

end

/-- Where no label stands twice, the level at which a label is found is its only depth. -/
theorem exists_hasAt_iff_of_nodup
    {trees : List (Tree Label)} {entry : Nat × Tree Label} {depth : Nat}
    (distinct : (walkAll trees).Nodup)
    (present : entry ∈ levelsAll 0 trees) :
    (∃ tree ∈ trees, HasAt entry.2.label depth tree) ↔ depth = entry.1 := by
  constructor
  · rintro ⟨tree, member, stands⟩
    rcases stands.exists_mem_levels 0 with ⟨found, level, same⟩
    rw [Nat.zero_add] at level
    rw [← map_label_levelsAll 0] at distinct
    have again := List.inj_on_of_nodup_map distinct
      (mem_levelsAll_iff.mpr ⟨tree, member, level⟩) present same
    exact congrArg Prod.fst again
  · rintro rfl
    rcases exists_hasAt_of_mem_levelsAll present with ⟨depth, level, stands⟩
    rw [Nat.zero_add] at level
    rwa [level]

end TokenForest.Tree
