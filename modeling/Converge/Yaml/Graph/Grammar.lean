/-
  Converge.Yaml.Graph.Grammar
  ───────────────────────────
  **FROM TOKENS TO A GRAPH.**

  One function for each rule of the grammar.  A reader gives what it has read and the tokens that are
  left, with the proof that they are no more than before; every loop takes a token of its own in each
  round.  Where a node may be left out there is an empty scalar.  Any token that no rule allows
  makes the text no document.
-/
import Converge.Yaml.Graph.Basic
import Converge.Yaml.Token.Basic

namespace Converge.Yaml

/-! ## §1. The graph under construction. -/

/-- A graph under construction. -/
structure Draft where
  /-- The nodes so far. -/
  graph : Graph := {}
  /-- The named nodes. -/
  anchors : List (String × NodeId) := []
  /-- What the tag handles stand for. -/
  handles : List (String × String) := []

/-- A step of the construction. -/
abbrev Build := StateT Draft (Except Fault)

/-- What has been read from `ts`, and the tokens that are left. -/
structure Parsed (ts : List Token) (α : Type) where
  /-- What has been read. -/
  value : α
  /-- The tokens that are left. -/
  rest : List Token
  /-- They are no more than before. -/
  le : rest.length ≤ ts.length

namespace Build

/-- Refuses the next token: by its own fault if it is one. -/
def unexpected {α : Type} (ts : List Token) : Build α :=
  match ts with
  | .fault f :: _ => throw f
  | _ => throw .malformed

/-- Names the node that is added next; a name is given once. -/
def name (anchor : Option String) : Build Unit := do
  let d ← get
  match anchor with
  | none => return ()
  | some a =>
    if (d.anchors.lookup a).isSome then throw .malformed
    else set { d with anchors := (a, d.graph.size) :: d.anchors }

/-- Adds a node. -/
def add (anchor : Option String) (n : Node) : Build NodeId := do
  name anchor
  let d ← get
  set { d with graph := d.graph.push n }
  return d.graph.size

/-- Gives an added node its final form. -/
def fill (id : NodeId) (n : Node) : Build Unit :=
  modify fun d => { d with graph := d.graph.set id n }

/-- The node with a name. -/
def named (anchor : String) : Build NodeId := do
  match (← get).anchors.lookup anchor with
  | some id => return id
  | none => throw .malformed

/-- Adds an empty scalar. -/
def empty : Build NodeId := add none ⟨.null, .scalar ""⟩

end Build

/-! ## §2. Properties of nodes. -/

/-- The name and tag in front of a node. -/
structure Properties where
  /-- The name. -/
  anchor : Option String := none
  /-- The tag. -/
  tag : Option TagText := none

/-- Whether there are any. -/
def Properties.isEmpty (p : Properties) : Bool := p.anchor.isNone && p.tag.isNone

/-- Reads a name and a tag, in either order and both optional. -/
def Properties.read (ts : List Token) : Parsed ts Properties :=
  match ts with
  | .anchor a :: .tag t :: rest => ⟨⟨some a, some t⟩, rest, by simp; omega⟩
  | .anchor a :: rest => ⟨⟨some a, none⟩, rest, by simp⟩
  | .tag t :: .anchor a :: rest => ⟨⟨some a, some t⟩, rest, by simp; omega⟩
  | .tag t :: rest => ⟨⟨none, some t⟩, rest, by simp⟩
  | ts => ⟨{}, ts, Nat.le_refl _⟩

/-- The kind that a written tag names; `none` if the node is left to its form. -/
def Build.tagOf (t : TagText) : Build (Option Tag) := do
  match t.handle with
  | none => return if t.suffix = "!" then none else some (Tag.ofIdentifier t.suffix)
  | some h =>
    match (← get).handles.lookup h with
    | none => throw .malformed
    | some stem => return some (Tag.ofIdentifier (stem ++ t.suffix))

/-- What the tag in front of a node says of it. -/
inductive Tagging where
  /-- There is none. -/
  | absent
  /-- The node is left to its form. -/
  | byForm
  /-- It is of a kind. -/
  | fixed (t : Tag)

/-- What the properties say of the kind of a node. -/
def Build.tagging (p : Properties) : Build Tagging := do
  match p.tag with
  | none => return .absent
  | some t =>
    match ← tagOf t with
    | none => return .byForm
    | some t => return .fixed t

/-- The kind of a scalar. -/
def Tagging.ofScalar (t : Tagging) (plain : Bool) (text : String) : Tag :=
  match t with
  | .absent => if plain then Tag.ofPlain text else .text
  | .byForm => Tag.ofPlain text
  | .fixed t => t

/-- The kind of a collection that is of the kind `usual` by itself. -/
def Tagging.ofCollection (t : Tagging) (usual : Tag) : Tag :=
  match t with
  | .fixed t => t
  | _ => usual

/-! ## §3. Nodes. -/

/-- Where a node stands, which says what it may be. -/
inductive Spot where
  /-- Within brackets: no blocks. -/
  | inFlow
  /-- In a block. -/
  | inBlock
  /-- As key or value in a block, where the items of a sequence need no indentation of their own. -/
  | inPair
deriving DecidableEq, Repr

/-- Whether blocks are allowed. -/
def Spot.allowsBlock (s : Spot) : Bool := s != .inFlow

/-- Whether the next token is one of these. -/
def isNext (ts stops : List Token) : Bool := ts.head?.any stops.contains

/-- After properties the node itself may be left out. -/
def Build.leftOut {ts : List Token} (tagging : Tagging) (p : Parsed ts Properties) :
    Build (Parsed ts NodeId) := do
  if p.value.isEmpty then Build.unexpected p.rest
  else
    let id ← Build.add p.value.anchor ⟨tagging.ofScalar true "", .scalar ""⟩
    return ⟨id, p.rest, p.le⟩

mutual

/-- Reads a node. -/
def Build.node (spot : Spot) : (ts : List Token) → Build (Parsed ts NodeId)
  | .alias a :: rest => return ⟨← Build.named a, rest, by simp⟩
  | ts => do
    let p := Properties.read ts
    let tagging ← Build.tagging p.value
    let anchor := p.value.anchor
    match h : p.rest with
    | .scalar plain text :: rest =>
      let id ← Build.add anchor ⟨tagging.ofScalar plain text, .scalar text⟩
      return ⟨id, rest, by have := p.le; simp [h] at this; omega⟩
    -- a collection is added before its items, so that these may name it
    | .flowSequence :: rest =>
      let id ← Build.add anchor ⟨.sequence, .sequence []⟩
      let items ← Build.flowItems rest
      Build.fill id ⟨tagging.ofCollection .sequence, .sequence items.value⟩
      return ⟨id, items.rest, by have := p.le; have := items.le; simp [h] at *; omega⟩
    | .flowMapping :: rest =>
      let id ← Build.add anchor ⟨.mapping, .mapping []⟩
      let pairs ← Build.flowPairs rest
      Build.fill id ⟨tagging.ofCollection .mapping, .mapping pairs.value⟩
      return ⟨id, pairs.rest, by have := p.le; have := pairs.le; simp [h] at *; omega⟩
    -- as the value of a pair a sequence needs no indentation of its own
    | .entry :: _ =>
      if spot = .inPair then
        let id ← Build.add anchor ⟨.sequence, .sequence []⟩
        let items ← Build.indentlessItems p.rest
        Build.fill id ⟨tagging.ofCollection .sequence, .sequence items.value⟩
        return ⟨id, items.rest, Nat.le_trans items.le p.le⟩
      else Build.leftOut tagging p
    | .blockSequence :: rest =>
      if spot.allowsBlock then
        let id ← Build.add anchor ⟨.sequence, .sequence []⟩
        let items ← Build.blockItems rest
        Build.fill id ⟨tagging.ofCollection .sequence, .sequence items.value⟩
        return ⟨id, items.rest, by have := p.le; have := items.le; simp [h] at *; omega⟩
      else Build.leftOut tagging p
    | .blockMapping :: rest =>
      if spot.allowsBlock then
        let id ← Build.add anchor ⟨.mapping, .mapping []⟩
        let pairs ← Build.blockPairs rest
        Build.fill id ⟨tagging.ofCollection .mapping, .mapping pairs.value⟩
        return ⟨id, pairs.rest, by have := p.le; have := pairs.le; simp [h] at *; omega⟩
      else Build.leftOut tagging p
    | _ => Build.leftOut tagging p
termination_by ts => (ts.length, 2)
decreasing_by
  · have := p.le; simp [h] at this; simp [Prod.lex_def]; omega
  · have := p.le; simp [h] at this; simp [Prod.lex_def]; omega
  · have := (Properties.read ts).le; simp [Prod.lex_def]; omega
  · have := p.le; simp [h] at this; simp [Prod.lex_def]; omega
  · have := p.le; simp [h] at this; simp [Prod.lex_def]; omega

/-- Reads a node, unless one of the tokens `stops` is next. -/
def Build.optional (spot : Spot) (stops ts : List Token) : Build (Parsed ts NodeId) := do
  if isNext ts stops then return ⟨← Build.empty, ts, Nat.le_refl _⟩
  else Build.node spot ts
termination_by (ts.length, 3)

/-- Reads the items of an indented sequence, and its end. -/
def Build.blockItems : (ts : List Token) → Build (Parsed ts (List NodeId))
  | .entry :: rest => do
    let item ← Build.optional .inBlock [.entry, .blockEnd] rest
    let more ← Build.blockItems item.rest
    return ⟨item.value :: more.value, more.rest, by
      have := item.le; have := more.le; simp; omega⟩
  | .blockEnd :: rest => return ⟨[], rest, by simp⟩
  | ts => Build.unexpected ts
termination_by ts => (ts.length, 1)
decreasing_by
  · simp [Prod.lex_def]
  · have := item.le; simp [Prod.lex_def]; omega

/-- Reads the items of a sequence without indentation of its own. -/
def Build.indentlessItems : (ts : List Token) → Build (Parsed ts (List NodeId))
  | .entry :: rest => do
    let item ← Build.optional .inBlock [.entry, .key, .value, .blockEnd] rest
    let more ← Build.indentlessItems item.rest
    return ⟨item.value :: more.value, more.rest, by
      have := item.le; have := more.le; simp; omega⟩
  | ts => return ⟨[], ts, Nat.le_refl _⟩
termination_by ts => (ts.length, 1)
decreasing_by
  · simp [Prod.lex_def]
  · have := item.le; simp [Prod.lex_def]; omega

/-- Reads the pairs of an indented mapping, and its end. -/
def Build.blockPairs : (ts : List Token) → Build (Parsed ts (List (NodeId × NodeId)))
  | .key :: rest => do
    let key ← Build.optional .inPair [.key, .value, .blockEnd] rest
    let value ← Build.pairValue .inPair [.key, .value, .blockEnd] key.rest
    let more ← Build.blockPairs value.rest
    return ⟨(key.value, value.value) :: more.value, more.rest, by
      have := key.le; have := value.le; have := more.le; simp; omega⟩
  | .blockEnd :: rest => return ⟨[], rest, by simp⟩
  | ts => Build.unexpected ts
termination_by ts => (ts.length, 1)
decreasing_by
  · simp [Prod.lex_def]
  · have := key.le; simp [Prod.lex_def]; omega
  · have := key.le; have := value.le; simp [Prod.lex_def]; omega

/-- Reads the value of a pair behind its mark; without the mark there is none. -/
def Build.pairValue (spot : Spot) (stops : List Token) : (ts : List Token) → Build (Parsed ts NodeId)
  | .value :: rest => do
    let v ← Build.optional spot stops rest
    return ⟨v.value, v.rest, by have := v.le; simp; omega⟩
  | ts => return ⟨← Build.empty, ts, Nat.le_refl _⟩
termination_by ts => (ts.length, 4)
decreasing_by simp [Prod.lex_def]

/-- Reads an item in brackets: a node, or a mapping of one pair. -/
def Build.flowItem : (ts : List Token) → Build (Parsed ts NodeId)
  | .key :: rest => do
    let key ← Build.optional .inFlow [.value, .separator, .flowSequenceEnd] rest
    let value ← Build.pairValue .inFlow [.separator, .flowSequenceEnd] key.rest
    let id ← Build.add none ⟨.mapping, .mapping [(key.value, value.value)]⟩
    return ⟨id, value.rest, by have := key.le; have := value.le; simp; omega⟩
  | ts => Build.node .inFlow ts
termination_by ts => (ts.length, 5)
decreasing_by
  · simp [Prod.lex_def]
  · have := key.le; simp [Prod.lex_def]; omega
  · simp [Prod.lex_def]

/-- Reads the items in brackets from here on, and the closing bracket. -/
def Build.flowItems : (ts : List Token) → Build (Parsed ts (List NodeId))
  | .flowSequenceEnd :: rest => return ⟨[], rest, by simp⟩
  | ts => do
    let item ← Build.flowItem ts
    match h : item.rest with
    | .flowSequenceEnd :: rest =>
      return ⟨[item.value], rest, by have := item.le; simp [h] at this; omega⟩
    | .separator :: rest =>
      let more ← Build.flowItems rest
      return ⟨item.value :: more.value, more.rest, by
        have := item.le; have := more.le; simp [h] at *; omega⟩
    | rest => Build.unexpected rest
termination_by ts => (ts.length, 6)
decreasing_by
  · simp [Prod.lex_def]
  · have := item.le; simp [h] at this; simp [Prod.lex_def]; omega

/-- Reads a pair in braces; without the mark of a key there is no value. -/
def Build.flowPair : (ts : List Token) → Build (Parsed ts (NodeId × NodeId))
  | .key :: rest => do
    let key ← Build.optional .inFlow [.value, .separator, .flowMappingEnd] rest
    let value ← Build.pairValue .inFlow [.separator, .flowMappingEnd] key.rest
    return ⟨(key.value, value.value), value.rest, by
      have := key.le; have := value.le; simp; omega⟩
  | ts => do
    let key ← Build.node .inFlow ts
    return ⟨(key.value, ← Build.empty), key.rest, key.le⟩
termination_by ts => (ts.length, 5)
decreasing_by
  · simp [Prod.lex_def]
  · have := key.le; simp [Prod.lex_def]; omega
  · simp [Prod.lex_def]

/-- Reads the pairs in braces from here on, and the closing brace. -/
def Build.flowPairs : (ts : List Token) → Build (Parsed ts (List (NodeId × NodeId)))
  | .flowMappingEnd :: rest => return ⟨[], rest, by simp⟩
  | ts => do
    let pair ← Build.flowPair ts
    match h : pair.rest with
    | .flowMappingEnd :: rest =>
      return ⟨[pair.value], rest, by have := pair.le; simp [h] at this; omega⟩
    | .separator :: rest =>
      let more ← Build.flowPairs rest
      return ⟨pair.value :: more.value, more.rest, by
        have := pair.le; have := more.le; simp [h] at *; omega⟩
    | rest => Build.unexpected rest
termination_by ts => (ts.length, 6)
decreasing_by
  · simp [Prod.lex_def]
  · have := pair.le; simp [h] at this; simp [Prod.lex_def]; omega

end

/-! ## §4. Documents. -/

/-- The tag handles that need no directive. -/
def standardHandles : List (String × String) := [("!", "!"), ("!!", Tag.standardStem)]

/-- The version of the language that is read. -/
def majorVersion : Nat := 1

/-- Reads the directives before a document: each handle is given once, and the version too. -/
def readDirectives (version : Bool) (handles : List (String × String)) :
    List Token → Except Fault (List (String × String) × List Token)
  | .directive (.version major _) :: rest =>
    if version ∨ major ≠ majorVersion then .error .malformed else readDirectives true handles rest
  | .directive (.handle name stem) :: rest =>
    if (handles.lookup name).isSome then .error .malformed
    else readDirectives version ((name, stem) :: handles) rest
  | .directive .other :: rest => readDirectives version handles rest
  | ts => .ok (handles, ts)

/-- Checks that nothing follows a document but its end marks. -/
def checkEnd : List Token → Except Fault Unit
  | .documentEnd :: rest => checkEnd rest
  | .streamEnd :: _ => .ok ()
  | .fault f :: _ => .error f
  | _ => .error .malformed

/-- Whether a document without content ends here. -/
def endsDocument : List Token → Bool
  | .directive _ :: _ => true
  | .documentStart :: _ => true
  | .documentEnd :: _ => true
  | .streamEnd :: _ => true
  | _ => false

/-- Reads the outermost node with the given handles. -/
def readRoot (handles : List (String × String)) (ts : List Token) : Except Fault Document := do
  let ((root, rest), d) ← StateT.run (do
    if endsDocument ts then return (← Build.empty, ts)
    else
      let r ← Build.node .inBlock ts
      return (r.value, r.rest)) ({ handles := handles } : Draft)
  checkEnd rest
  return ⟨d.graph, some root⟩

/-- Reads the one document that the tokens are; no tokens are none. -/
def Document.ofTokens (ts : List Token) : Except Fault Document :=
  match ts with
  | .streamEnd :: _ => .ok ⟨{}, none⟩
  | .directive _ :: _ => explicit ts
  | .documentStart :: _ => explicit ts
  | .documentEnd :: _ => .error .malformed
  | _ => readRoot standardHandles ts
where
  /-- Reads a document with a start marker, and the directives before it. -/
  explicit (ts : List Token) : Except Fault Document := do
    match ← readDirectives false [] ts with
    | (handles, .documentStart :: rest) => readRoot (handles ++ standardHandles) rest
    | (_, .fault f :: _) => .error f
    | _ => .error .malformed

end Converge.Yaml
