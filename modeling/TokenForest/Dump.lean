import TokenForest.Token
import TokenForest.Tree

/-!
# Dumps

The readable forms of tokens and trees: a line for each token, a line for each node of a forest
indented by its depth, and the description of a tree on a single line.
-/

namespace TokenForest

/-- A line for each token. -/
def dumpTokens (source : Text.Source) (tokens : List Token) : String :=
  String.join (tokens.map fun token => token.description source ++ "\n")

/-- The line of a node at a depth. -/
def dumpLine (source : Text.Source) (depth : Nat) (tree : Tree Token) : String :=
  String.ofList (List.replicate (2 * depth) ' ') ++
    (if tree.isGroup then "Group " else "Token ") ++ tree.label.description source ++ "\n"

/-- A line for each node of a forest, groups before what stands inside them. -/
def dumpForest (source : Text.Source) (forest : List (Tree Token)) : String :=
  String.join ((Tree.levelsAll 0 forest).map fun (depth, tree) => dumpLine source depth tree)

/-- The fields of a token as a description shows them. -/
def Token.fields (token : Token) : String :=
  "type=" ++ Text.Quoted.ofString token.kind ++
    ", lexeme=" ++ Text.Quoted.ofString token.lexeme ++
    s!", line={token.line}, start={token.start}, end={token.stop}"

namespace Tree

mutual

/--
The description of a tree: the fields of its token, its children, and the value if there is one.
-/
def summary : Tree Token → String
  | .node token children =>
    "Token(" ++ token.fields ++
      (if children.isEmpty then ""
        else ", children=[" ++ ", ".intercalate (summaries children) ++ "]") ++
      (if token.value.isNull then "" else ", value=" ++ token.value.literal) ++ ")"

/-- The descriptions of some trees. -/
def summaries : List (Tree Token) → List String
  | [] => []
  | tree :: rest => tree.summary :: summaries rest

end

end Tree

end TokenForest
