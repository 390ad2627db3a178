/-! # Trees of YAML documents -/

namespace OpenApiGen.Yaml

inductive Style
  | plain | quoted | literal | folded
deriving DecidableEq, Repr

/-- Anchors are numbered in the order in which their names first come up. A name that comes up
again takes the number of names known so far. -/
structure Properties where
  anchor : Option Nat := none
  tag : Option String := none
deriving DecidableEq, Repr, Inhabited

inductive Node
  | scalar (properties : Properties) (style : Style) (text : String)
  | sequence (properties : Properties) (items : List Node)
  | mapping (properties : Properties) (entries : List (Node × Node))
  | anchored (anchor : Nat)
deriving Repr, Inhabited

namespace Node

def empty (properties : Properties) : Node := .scalar properties .plain ""

mutual

/-- Signs in the document: collections have one at either end. -/
def events : Node → Nat
  | .scalar .. | .anchored _ => 1
  | .sequence _ items => itemEvents items + 2
  | .mapping _ entries => entryEvents entries + 2

def itemEvents : List Node → Nat
  | [] => 0
  | item :: items => events item + itemEvents items

def entryEvents : List (Node × Node) → Nat
  | [] => 0
  | (key, value) :: entries => events key + events value + entryEvents entries

end

def anchorOf (properties : Properties) (node : Node) : List (Nat × Node) :=
  match properties.anchor with
  | some n => [(n, node)]
  | none => []

mutual

/-- Anchored nodes in the order in which they begin. -/
def anchors : Node → List (Nat × Node)
  | .scalar p style text => anchorOf p (.scalar p style text)
  | .sequence p items => anchorOf p (.sequence p items) ++ itemAnchors items
  | .mapping p entries => anchorOf p (.mapping p entries) ++ entryAnchors entries
  | .anchored _ => []

def itemAnchors : List Node → List (Nat × Node)
  | [] => []
  | item :: items => anchors item ++ itemAnchors items

def entryAnchors : List (Node × Node) → List (Nat × Node)
  | [] => []
  | (key, value) :: entries => anchors key ++ anchors value ++ entryAnchors entries

end

end Node
end OpenApiGen.Yaml
