import Conform.Yaml.Node

/-! Documents with every alias replaced by what it stands for. -/

namespace Conform.Yaml

/-- A node without aliases. -/
inductive Tree where
  | scalar (scalar : Scalar)
  | sequence (tag : Option (List Char)) (items : List Tree)
  | mapping (tag : Option (List Char)) (members : List (Tree × Tree))

/-- The node that an anchor was given to. -/
def Anchors.node? (anchors : Anchors) (slot : Nat) : Option Node := do
  anchors.nodes.lookup (← anchors.slots.lookup slot)

/-- Uses up one of the aliases that may still be followed. -/
def followAlias : StateT Nat Option Unit := do
  match ← get with
  | 0 => failure
  | left + 1 => set left

/-- What a node stands for: an alias is replaced by the node of its anchor. -/
def Node.target (anchors : Anchors) : Node → StateT Nat Option Node
  | reference slot => do
    followAlias
    anchors.node? slot
  | node => return node

/-- Replaces the aliases of a node in which at most `depth` collections lie inside one another. -/
def Node.expand (anchors : Anchors) : Nat → Node → StateT Nat Option Tree
  | depth, node => do
    -- The limit on aliases keeps a small text from growing without bound.
    match depth, ← node.target anchors with
    | _, .scalar leaf => return .scalar leaf
    | depth + 1, .sequence tag items =>
      return .sequence tag (← items.mapM fun item => item.expand anchors depth)
    | depth + 1, .mapping tag members =>
      return .mapping tag (← members.mapM fun (key, value) => do
        return (← key.expand anchors depth, ← value.expand anchors depth))
    | _, _ => failure

/-- How many collections a document may hold inside one another. -/
def depthLimit : Nat := 128

/-- How many aliases may be followed for each step of a document. -/
def aliasesPerStep : Nat := 100

/-- The root of a document without aliases; none in place of the root of an empty stream. -/
def Document.expand? (document : Document) : Option (Option Tree) :=
  match document.root with
  | none => some none
  | some root => do
    let aliases := aliasesPerStep * document.steps
    let (tree, _) ← (root.expand document.anchors depthLimit).run aliases
    return some tree

/-- The document that a text writes; none in place of the root of an empty stream. -/
def Tree.read? (text : String) : Option (Option Tree) := do
  (← Document.ofTokens? (← Token.scan? text.toList)).expand?

end Conform.Yaml
