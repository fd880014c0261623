/-
  Converge.Yaml.Graph.Value
  ─────────────────────────
  **THE VALUE OF A DOCUMENT.**

  Each node comes to something once, however often it is used.  Nodes are taken level by level from
  the outermost one, and in order within a level; the first that comes to nothing is the fault of
  the document.  A node that holds itself has an endless value, of which only a start is ever looked
  at: on no way inwards is a node opened more than twice.
-/
import Converge.Value.Basic
import Converge.Yaml.Graph.Grammar
import Converge.Yaml.Scalar.Value
import Converge.Yaml.Token.Scan

namespace Converge.Yaml

/-! ## §1. Scalars and merged mappings. -/

namespace Graph

/-- What a node holds; a number that is none's holds nothing. -/
def content (g : Graph) (id : NodeId) : Content :=
  ((g.node? id).map (·.content)).getD (.scalar "")

/-- The kind of a node. -/
def tag (g : Graph) (id : NodeId) : Tag := ((g.node? id).map (·.tag)).getD .unknown

/-- The text of a node that stands for a scalar: its own, or that of its value under the default key.
    `depth` bounds how many values are looked through. -/
def scalarText (g : Graph) : Nat → NodeId → Except Fault String
  | 0, _ => .error .malformed
  | depth + 1, id =>
    match g.content id with
    | .scalar text => .ok text
    | .sequence _ => .error .malformed
    | .mapping pairs =>
      match pairs.find? fun p => g.tag p.1 = .default with
      | some p => scalarText g depth p.2
      | none => .error .malformed

/-- Whether a pair brings in the pairs of its value. -/
def isMerge (g : Graph) (p : NodeId × NodeId) : Bool := g.tag p.1 = .merge

/-- Joins what the items of a merged list bring in: the pairs of earlier items come last, so that they
    win. -/
def joinMerged (parts : List (List (NodeId × NodeId))) : List (NodeId × NodeId) :=
  parts.reverse.flatten

/-- The pairs of a mapping with the ones that it brings in before its own.  Within itself it brings in
    nothing more; `depth` bounds the mappings within one another. -/
def mergedPairs (g : Graph) : Nat → List NodeId → NodeId → Except Fault (List (NodeId × NodeId))
  | 0, _, _ => .error .malformed
  | depth + 1, within, id =>
    match g.content id with
    | .mapping pairs =>
      let own := pairs.filter fun p => !g.isMerge p
      -- a mapping that brings itself in stops here
      if within.contains id then .ok own
      else do
        let source (v : NodeId) : Except Fault (List (NodeId × NodeId)) :=
          match g.content v with
          | .mapping _ => mergedPairs g depth (id :: within) v
          | .sequence items =>
            (items.mapM (mergedPairs g depth (id :: within))).map joinMerged
          | .scalar _ => .error .malformed
        let merged ← (pairs.filter g.isMerge).mapM fun p => source p.2
        return merged.flatten ++ own
    | _ => .error .malformed

end Graph

/-! ## §2. What nodes come to. -/

/-- What a node comes to, other nodes by number. -/
inductive Native where
  /-- A value that holds no nodes. -/
  | atom (v : Value)
  /-- A collection that has been met but not opened. -/
  | closed
  /-- A list. -/
  | list (items : List NodeId)
  /-- A list of pairs. -/
  | tuples (pairs : List (NodeId × NodeId))
  /-- A set. -/
  | set (members : List Value)
  /-- A mapping. -/
  | mapping (pairs : List (Value × NodeId))

/-- How far the nodes have been taken. -/
structure Settling where
  /-- What nodes have come to, by number. -/
  natives : Array (Option Native)
  /-- The collections of the next level, last one first. -/
  next : List NodeId := []

/-- A step of taking nodes. -/
abbrev Settle := StateT Settling (Except Fault)

namespace Settle

/-- What a node has come to. -/
def native? (id : NodeId) : Settle (Option Native) := do
  return (← get).natives[id]?.join

/-- Notes what a node comes to. -/
def note (id : NodeId) (n : Native) : Settle Unit :=
  modify fun s => { s with natives := s.natives.setIfInBounds id (some n) }

/-- Meets a collection. -/
def meetCollection (id : NodeId) : Settle Unit := do
  note id .closed
  modify fun s => { s with next := id :: s.next }

/-- The value of a scalar node of a kind. -/
def scalarValue (g : Graph) (t : Tag) (id : NodeId) : Except Fault Value := do
  let text ← g.scalarText (g.size + 1) id
  match t, g.content id with
  | .timestamp, .mapping _ => throw (.scalar .timestampMapping)
  | _, _ => (t.scalarValue? text).getD (.error .malformed)

/-- Meets a node: a scalar comes to its value, a collection waits for the next level. -/
def meetAs (g : Graph) (t : Tag) (id : NodeId) : Settle Unit := do
  match ← native? id with
  | some _ => return ()
  | none =>
    match t with
    | .sequence => meetCollection id
    | .mapping => meetCollection id
    | .set => meetCollection id
    | .orderedMapping => meetCollection id
    | .pairs => meetCollection id
    | t => note id (.atom (← liftM (scalarValue g t id)))

/-- Meets a node by its own kind. -/
def meet (g : Graph) (id : NodeId) : Settle Unit := meetAs g (g.tag id) id

/-- Meets the key of a mapping; the default key is text there, and no collection is a key. -/
def meetKey (g : Graph) (id : NodeId) : Settle Value := do
  meetAs g (if g.tag id = .default then .text else g.tag id) id
  match ← native? id with
  | some (.atom v) => return v
  | _ => throw .malformed

/-- Meets the pairs of a mapping, merged ones included. -/
def meetPairs (g : Graph) (id : NodeId) : Settle (List (Value × NodeId)) := do
  let pairs ← liftM (g.mergedPairs (g.size + 1) [] id)
  pairs.mapM fun p => do
    -- the key is needed now, the value only when its level is opened
    let key ← meetKey g p.1
    meet g p.2
    return (key, p.2)

/-- Meets the one pair of an item of a list of pairs. -/
def meetTuple (g : Graph) (id : NodeId) : Settle (NodeId × NodeId) := do
  match g.content id with
  | .mapping [p] =>
    meet g p.1
    meet g p.2
    return p
  | _ => throw .malformed

/-- The items of a node that must be a sequence. -/
def items (g : Graph) (id : NodeId) : Except Fault (List NodeId) :=
  match g.content id with
  | .sequence items => .ok items
  | _ => .error .malformed

/-- Opens a collection. -/
def openNode (g : Graph) (id : NodeId) : Settle Unit := do
  match g.tag id with
  | .sequence =>
    let items ← liftM (items g id)
    items.forM (meet g)
    note id (.list items)
  | .mapping => note id (.mapping (← meetPairs g id))
  | .set => note id (.set ((← meetPairs g id).foldl (fun m p => Mapping.putMember m p.1) []))
  | _ =>
    let items ← liftM (items g id)
    note id (.tuples (← items.mapM (meetTuple g)))

/-- Opens the collections that wait, and those that they hold, for at most `levels` levels.  A level
    that holds anything has met a new node, so the number of nodes suffices. -/
def openLevels (g : Graph) : Nat → Settle Unit
  | 0 => return ()
  | levels + 1 => do
    let waiting := (← get).next.reverse
    if waiting.isEmpty then return ()
    else
      modify fun s => { s with next := [] }
      waiting.forM (openNode g)
      openLevels g levels

end Settle

/-! ## §3. Values. -/

/-- How often a node is opened on a way inwards. -/
def openings : Nat := 2

/-- The value of a node on a way inwards through the nodes `path`; `depth` bounds the way. -/
def unroll (natives : Array (Option Native)) : Nat → List NodeId → NodeId → Value
  | 0, _, _ => .null
  | depth + 1, path, id =>
    let inner := unroll natives depth (id :: path)
    let isOpen := decide (path.count id < openings)
    match natives[id]?.join with
    | some (.atom v) => v
    | some (.list items) => .list (if isOpen then items.map inner else [])
    | some (.tuples pairs) =>
      .list (if isOpen then pairs.map fun p => .tuple [inner p.1, inner p.2] else [])
    | some (.set members) => .set members
    | some (.mapping pairs) =>
      .mapping (if isOpen then Mapping.ofPairs (pairs.map fun p => (p.1, inner p.2)) else [])
    | some .closed => .null
    | none => .null

/-- The value of a document; an empty one is null. -/
def Document.value (d : Document) : Except Fault Value := do
  match d.root with
  | none => return .null
  | some root =>
    let g := d.graph
    let ((), s) ← StateT.run (do Settle.meet g root; Settle.openLevels g (g.size + 1))
      ({ natives := Array.replicate g.size none } : Settling)
    return unroll s.natives (openings * g.size + 1) [] root

/-- Reads the value of a text. -/
def read (text : List Char) : Except Fault Value := do
  let text := unifyLineEnds text
  if text.all isAllowed then (← Document.ofTokens (Token.scan text)).value
  else throw .malformed

end Converge.Yaml
