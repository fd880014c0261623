/-
  Converge.Yaml.Graph.Basic
  ─────────────────────────
  **A DOCUMENT AS A GRAPH OF NODES.**

  A node that is named can be used again, also within itself, so a document is a graph.  Its nodes are
  numbered in the order in which they begin, and refer to each other by number.
-/
import Converge.Yaml.Fault
import Converge.Yaml.Tag

namespace Converge.Yaml

/-- The number of a node. -/
abbrev NodeId := Nat

/-- What a node holds. -/
inductive Content where
  /-- A scalar. -/
  | scalar (text : String)
  /-- Items in order. -/
  | sequence (items : List NodeId)
  /-- Keys and values in order. -/
  | mapping (pairs : List (NodeId × NodeId))
deriving DecidableEq, Repr

/-- A node. -/
structure Node where
  /-- What it stands for. -/
  tag : Tag
  /-- What it holds. -/
  content : Content
deriving DecidableEq, Repr

/-- A graph of nodes. -/
structure Graph where
  /-- The nodes by number. -/
  nodes : Array Node := #[]
deriving Repr

namespace Graph

/-- The node with a number. -/
def node? (g : Graph) (id : NodeId) : Option Node := g.nodes[id]?

/-- How many nodes there are. -/
def size (g : Graph) : Nat := g.nodes.size

/-- Adds a node. -/
def push (g : Graph) (n : Node) : Graph := ⟨g.nodes.push n⟩

/-- Replaces a node. -/
def set (g : Graph) (id : NodeId) (n : Node) : Graph := ⟨g.nodes.setIfInBounds id n⟩

end Graph

/-- A document: its nodes and the node that it is, if there is one. -/
structure Document where
  /-- The nodes. -/
  graph : Graph
  /-- The outermost node. -/
  root : Option NodeId

end Converge.Yaml
