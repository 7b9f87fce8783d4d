import Courier.Yaml.Token

/-!
# Nodes of settings

A node is a scalar, a list, a map, or an alias of a node elsewhere. A node may have a tag that says
what it is. Aliases and the nodes they stand for are numbered.
-/

namespace Courier.Yaml

/-- A node as written. -/
inductive Node
  | scalar (style : Style) (tag : Option String) (text : String)
  | list (tag : Option String) (items : List Node)
  | map (tag : Option String) (fields : List (Node × Node))
  | alias (number : Nat)
  deriving Inhabited

namespace Node

/-- The node where nothing is written. -/
def absent : Node := .scalar .plain none ""

/-- Fields from keys and values in turn. -/
def fieldsOf : List Node → List (Node × Node)
  | key :: value :: rest => (key, value) :: fieldsOf rest
  | _ => []

end Node

/-! ## Anchors -/

/-- The start of a node with an anchor: its number, and how many starts precede it. -/
structure Start where
  number : Nat
  place : Nat
  deriving DecidableEq, Repr, Inhabited

/-- The anchors of a document: the number that each name stands for now, and by number the start
    that it was given to last and the node there. -/
structure Anchors where
  numbers : List (String × Nat) := []
  places : Array Nat := #[]
  nodes : Array Node := #[]
  starts : Nat := 0
  deriving Inhabited

namespace Anchors

/-- The number that a name stands for. -/
def number? (a : Anchors) (name : String) : Option Nat := a.numbers.lookup name

/-- Starts a node with an anchor. Its number is how many names there have been, so a number is given
    again after a name that was there before. -/
def start (a : Anchors) (name : String) : Start × Anchors :=
  let others := a.numbers.filter (·.1 ≠ name)
  let number := a.numbers.length
  (⟨number, a.starts⟩,
    { numbers := (name, number) :: others
      places := (a.places.take number).push a.starts
      nodes := (a.nodes.take number).push .absent
      starts := a.starts + 1 })

/-- Keeps a node that is complete, unless its number has been given again. -/
def finish (a : Anchors) (s : Option Start) (n : Node) : Anchors :=
  match s with
  | some s =>
    if a.places[s.number]? = some s.place then
      { a with nodes := a.nodes.setIfInBounds s.number n }
    else a
  | none => a

end Anchors

end Courier.Yaml
