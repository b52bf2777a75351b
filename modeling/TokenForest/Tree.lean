/-!
# Trees

Ordered trees with a label at every node.  A leaf is a node without children.  Walking a tree visits
a node before its children and the children from the left; the levels of a walk also tell how deep
each node stands.
-/

namespace TokenForest

/-- An ordered tree: a label and the trees below it. -/
inductive Tree (Label : Type) where
  | node (label : Label) (children : List (Tree Label))
  deriving Repr

namespace Tree

variable {Label : Type}

/-- A tree of one node. -/
def leaf (label : Label) : Tree Label := .node label []

/-- The label at the top of a tree. -/
def label : Tree Label → Label
  | .node label _ => label

/-- The trees right below the top. -/
def children : Tree Label → List (Tree Label)
  | .node _ children => children

/-- Whether there is anything below the top. -/
def isGroup (tree : Tree Label) : Bool := !tree.children.isEmpty

/-- The tree with another label at its top. -/
def relabel (change : Label → Label) : Tree Label → Tree Label
  | .node label children => .node (change label) children

/-- The tree with another one as the last below its top. -/
def adopt : (tree child : Tree Label) → Tree Label
  | .node label children, child => .node label (children ++ [child])

/-- Adopting a tree keeps the label at the top. -/
@[simp]
theorem label_adopt
    (tree child : Tree Label) :
    (tree.adopt child).label = tree.label := by
  cases tree
  rfl

mutual

/-- The labels of a tree, each node before its children. -/
def walk : Tree Label → List Label
  | .node label children => label :: walkAll children

/-- The labels of some trees, one tree after another. -/
def walkAll : List (Tree Label) → List Label
  | [] => []
  | tree :: rest => tree.walk ++ walkAll rest

end

mutual

/-- The subtrees of a tree that stands at a depth, in the order of walking, with their depths. -/
def levels (depth : Nat) : Tree Label → List (Nat × Tree Label)
  | .node label children => (depth, .node label children) :: levelsAll (depth + 1) children

/-- The subtrees of some trees that stand at a depth. -/
def levelsAll (depth : Nat) : List (Tree Label) → List (Nat × Tree Label)
  | [] => []
  | tree :: rest => tree.levels depth ++ levelsAll depth rest

end

mutual

/-- The tree whose labels are made from the labels of a tree, or the first failure on a walk. -/
def traverse {Failure Result : Type} (make : Label → Except Failure Result) :
    Tree Label → Except Failure (Tree Result)
  | .node label children => do
    let made ← make label
    return .node made (← traverseAll make children)

/-- The same for some trees, one after another. -/
def traverseAll {Failure Result : Type} (make : Label → Except Failure Result) :
    List (Tree Label) → Except Failure (List (Tree Result))
  | [] => return []
  | tree :: rest => do
    let made ← tree.traverse make
    return made :: (← traverseAll make rest)

end

@[simp]
theorem walk_node
    (label : Label)
    (children : List (Tree Label)) :
    (node label children).walk = label :: walkAll children := by
  rw [walk]

@[simp]
theorem walkAll_nil : walkAll ([] : List (Tree Label)) = [] := by
  rw [walkAll]

@[simp]
theorem walkAll_cons
    (tree : Tree Label)
    (rest : List (Tree Label)) :
    walkAll (tree :: rest) = tree.walk ++ walkAll rest := by
  rw [walkAll]

/-- Walking two forests in a row is walking the one after the other. -/
@[simp]
theorem walkAll_append
    (first second : List (Tree Label)) :
    walkAll (first ++ second) = walkAll first ++ walkAll second := by
  induction first with
  | nil => simp
  | cons tree rest ih => simp [ih]

/-- What is adopted is walked after everything else. -/
@[simp]
theorem walk_adopt
    (tree child : Tree Label) :
    (tree.adopt child).walk = tree.walk ++ child.walk := by
  cases tree
  simp [adopt]

/-- Walking a leaf visits it alone. -/
@[simp]
theorem walk_leaf (label : Label) : (leaf label).walk = [label] := by
  simp [leaf]

end Tree

end TokenForest
