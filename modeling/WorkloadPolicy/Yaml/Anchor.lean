import WorkloadPolicy.Yaml.Node

/-!
# Anchors and aliases

Anchors are numbered in the order of the text: an anchor gets the count of
names known before it.  A name that is used again keeps its place in that
count, so that two anchors may come to share a number; of the nodes with one
number the last in the text counts.  An alias must name an anchor in front of
it, which may be that of a node around it.
-/

namespace WorkloadPolicy
namespace Yaml

/-- The numbers of the anchors known so far. -/
abbrev AnchorNumbers := List (String × Nat)

namespace AnchorNumbers

/-- Give a number to an anchor. -/
def define (numbers : AnchorNumbers) (name : String) : AnchorNumbers :=
  let number := numbers.length
  if (numbers.lookup name).isSome then
    numbers.map fun entry => if entry.1 == name then (name, number) else entry
  else
    numbers ++ [(name, number)]

end AnchorNumbers

/-- The properties of a node with its anchor numbered. -/
def Properties.numbered
    (properties : Properties String)
    (numbers : AnchorNumbers) : Properties Nat × AnchorNumbers :=
  match properties.anchor with
  | none => ({ tag := properties.tag }, numbers)
  | some name =>
      ({ anchor := some numbers.length, tag := properties.tag }, numbers.define name)

namespace Node

mutual

/-- A node with its anchors and aliases numbered. -/
def numbered? (numbers : AnchorNumbers) :
    Node String → Option (Node Nat × AnchorNumbers)
  | reference name => (numbers.lookup name).map fun number => (reference number, numbers)
  | scalar properties style text =>
      let (properties, numbers) := properties.numbered numbers
      some (scalar properties style text, numbers)
  | sequence properties items => do
      let (properties, numbers) := properties.numbered numbers
      let (items, numbers) ← numberedItems? numbers items
      some (sequence properties items, numbers)
  | mapping properties entries => do
      let (properties, numbers) := properties.numbered numbers
      let (entries, numbers) ← numberedEntries? numbers entries
      some (mapping properties entries, numbers)

/-- Items with their anchors and aliases numbered. -/
def numberedItems? (numbers : AnchorNumbers) :
    List (Node String) → Option (List (Node Nat) × AnchorNumbers)
  | [] => some ([], numbers)
  | item :: items => do
      let (item, numbers) ← numbered? numbers item
      let (items, numbers) ← numberedItems? numbers items
      some (item :: items, numbers)

/-- Entries with their anchors and aliases numbered. -/
def numberedEntries? (numbers : AnchorNumbers) :
    List (Node String × Node String) → Option (List (Node Nat × Node Nat) × AnchorNumbers)
  | [] => some ([], numbers)
  | (key, value) :: entries => do
      let (key, numbers) ← numbered? numbers key
      let (value, numbers) ← numbered? numbers value
      let (entries, numbers) ← numberedEntries? numbers entries
      some ((key, value) :: entries, numbers)

end

/-- The anchor of a node with the node itself. -/
def anchorOf (properties : Properties Nat) (node : Node Nat) : List (Nat × Node Nat) :=
  properties.anchor.toList.map fun number => (number, node)

mutual

/-- The anchored nodes of a node in the order of the text. -/
def anchored : Node Nat → List (Nat × Node Nat)
  | reference _ => []
  | scalar properties style text => anchorOf properties (scalar properties style text)
  | sequence properties items =>
      anchorOf properties (sequence properties items) ++ anchoredItems items
  | mapping properties entries =>
      anchorOf properties (mapping properties entries) ++ anchoredEntries entries

/-- The anchored nodes of items. -/
def anchoredItems : List (Node Nat) → List (Nat × Node Nat)
  | [] => []
  | item :: items => anchored item ++ anchoredItems items

/-- The anchored nodes of entries. -/
def anchoredEntries : List (Node Nat × Node Nat) → List (Nat × Node Nat)
  | [] => []
  | (key, value) :: entries => anchored key ++ anchored value ++ anchoredEntries entries

end

end Node

/-- A node of a document together with the anchored nodes that its aliases may
stand for, the last one of the text first. -/
structure Tree where
  anchored : List (Nat × Node Nat)
  node : Node Nat

namespace Tree

/-- The node that a tree stands for; an alias stands for an anchored node. -/
def target? (tree : Tree) : Option (Node Nat) :=
  match tree.node with
  | .reference number => tree.anchored.lookup number
  | node => some node

/-- A node of the same document. -/
def withNode (tree : Tree) (node : Node Nat) : Tree :=
  { tree with node := node }

/-- Read the one document of a text. -/
def read? (text : String) : Option Tree := do
  let tokens ← tokens? text.toList
  let (node, _) ← (← document? tokens).numbered? []
  some ⟨node.anchored.reverse, node⟩

end Tree
end Yaml
end WorkloadPolicy
