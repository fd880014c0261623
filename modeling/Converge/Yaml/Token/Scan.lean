/-
  Converge.Yaml.Token.Scan
  ────────────────────────
  **FROM TEXT TO TOKENS.**

  A token at which a key may start is remembered as a candidate, at most one for each level of
  brackets.  A colon turns the candidate into a key, by a token put in before it; so may the start of
  a mapping be.  A candidate lapses on a new line or after 1024 characters, which is a fault where
  only a key could stand.  The columns of the open blocks are a list, innermost first; a token further
  left closes the blocks whose column is further right.
-/
import Converge.Yaml.Scalar.Plain
import Converge.Yaml.Token.Property

namespace Converge.Yaml

/-! ## §1. What has been read. -/

/-- A token that may turn out to be a key. -/
structure Candidate where
  /-- How many tokens come before it. -/
  before : Nat
  /-- Whether nothing but a key can stand there. -/
  required : Bool
  /-- Where it starts. -/
  position : Position

/-- The longest key without an indicator of its own, in characters. -/
def candidateReach : Nat := 1024

/-- Whether a candidate can no longer become a key. -/
def Candidate.lapsed (c : Candidate) (here : Position) : Bool :=
  c.position.line != here.line || decide (candidateReach < here.index - c.position.index)

/-- A text read in part. -/
structure Scan where
  /-- What is left. -/
  cursor : Cursor
  /-- The tokens so far, last one first. -/
  tokens : List Token := []
  /-- How many they are. -/
  count : Nat := 0
  /-- The candidate at the current level. -/
  candidate : Option Candidate := none
  /-- The candidates at the levels outside, innermost first: one for each open bracket. -/
  outer : List (Option Candidate) := []
  /-- The columns of the open blocks, innermost first. -/
  blocks : List Nat := []
  /-- Whether a key may start here. -/
  keyAllowed : Bool := true

namespace Scan

/-- Whether some bracket is open. -/
def inFlow (s : Scan) : Bool := !s.outer.isEmpty

/-- The current column. -/
def column (s : Scan) : Nat := s.cursor.column

/-- The least column for text within the current block. -/
def innerColumn (s : Scan) : Nat :=
  match s.blocks with
  | [] => 0
  | c :: _ => c + 1

/-- Adds a token. -/
def push (s : Scan) (t : Token) : Scan := { s with tokens := t :: s.tokens, count := s.count + 1 }

/-- Puts a token in where there were `before` tokens. -/
def insert (s : Scan) (before : Nat) (t : Token) : Scan :=
  let later := s.count - before
  { s with tokens := s.tokens.take later ++ t :: s.tokens.drop later, count := s.count + 1 }

/-- Adds a token that is read by moving to `k`. -/
def pushAt (s : Scan) (t : Token) (k : Cursor) : Scan := { s.push t with cursor := k }

/-- The tokens, the first one first. -/
def result (s : Scan) : List Token := s.tokens.reverse

/-! ## §2. Blocks and candidates. -/

/-- Closes the blocks that lie right of a column. -/
def closeBlocks (s : Scan) (column : Nat) : Scan :=
  if s.inFlow then s
  else
    let left := s.blocks.dropWhile fun c => decide (column < c)
    let closed := s.blocks.length - left.length
    { s with
      blocks := left
      tokens := List.replicate closed .blockEnd ++ s.tokens
      count := s.count + closed }

/-- Closes all blocks. -/
def closeAllBlocks (s : Scan) : Scan :=
  if s.inFlow then s
  else
    { s with
      blocks := []
      tokens := List.replicate s.blocks.length .blockEnd ++ s.tokens
      count := s.count + s.blocks.length }

/-- Whether a block opens at a column: it lies right of all open ones. -/
def opensBlock (s : Scan) (column : Nat) : Bool :=
  !s.inFlow && s.blocks.all fun c => decide (c < column)

/-- Drops a candidate that lapses; it is refused where only a key can stand. -/
def lapse (here : Position) (c : Option Candidate) : Except Fault (Option Candidate) :=
  match c with
  | none => .ok none
  | some c =>
    if c.lapsed here then if c.required then .error .malformed else .ok none
    else .ok (some c)

/-- Drops the candidates that have lapsed. -/
def lapseAll (s : Scan) : Except Fault Scan := do
  let here := s.cursor.position
  return { s with candidate := ← lapse here s.candidate, outer := ← s.outer.mapM (lapse here) }

/-- Gives up the candidate at the current level. -/
def dropCandidate (s : Scan) : Except Fault Scan :=
  match s.candidate with
  | some c => if c.required then .error .malformed else .ok { s with candidate := none }
  | none => .ok s

/-- Makes the token that comes next a candidate, if a key may start here. -/
def saveCandidate (s : Scan) : Except Fault Scan :=
  if s.keyAllowed then do
    let s ← s.dropCandidate
    let required := !s.inFlow && s.blocks.head? == some s.column
    return { s with candidate := some ⟨s.count, required, s.cursor.position⟩ }
  else return s

/-! ## §3. Between tokens. -/

/-- The length of what stands before the next token: spaces, comments and line ends. -/
def gapLength (inComment : Bool) : List Char → Nat
  | [] => 0
  | c :: rest =>
    if isBreak c then gapLength false rest + 1
    else if inComment then gapLength true rest + 1
    else if c = ' ' then gapLength false rest + 1
    else if c = '#' then gapLength true rest + 1
    else 0

/-- Moves to the next token; outside brackets a key may start on a new line.  A byte-order mark at the
    very start is passed over. -/
def toNextToken (s : Scan) : Scan :=
  let start :=
    if s.cursor.position.index = 0 ∧ s.cursor.peek = some byteOrderMark then s.cursor.skip 1
    else s.cursor
  let next := start.skip (gapLength false start.rest)
  { s with
    cursor := next
    keyAllowed := s.keyAllowed || (!s.inFlow && next.position.line != start.position.line) }

/-! ## §4. Tokens of one kind each. -/

/-- A marker or directive closes all blocks and gives up the candidate. -/
def leaveBlocks (s : Scan) : Except Fault Scan := do
  let s ← s.closeAllBlocks.dropCandidate
  return { s with keyAllowed := false }

/-- The end of the text. -/
def finish (s : Scan) : Except Fault Scan := do
  return (← s.leaveBlocks).push .streamEnd

/-- A directive. -/
def directive (s : Scan) : Except Fault Scan := do
  let s ← s.leaveBlocks
  let (d, k) ← readDirective s.cursor
  return s.pushAt (.directive d) k

/-- A document marker. -/
def marker (s : Scan) (t : Token) : Except Fault Scan := do
  let s ← s.leaveBlocks
  return s.pushAt t (s.cursor.skip 3)

/-- An opening bracket or brace. -/
def openFlow (s : Scan) (t : Token) : Except Fault Scan := do
  let s ← s.saveCandidate
  return { s.pushAt t (s.cursor.skip 1) with
    candidate := none, outer := s.candidate :: s.outer, keyAllowed := true }

/-- A closing bracket or brace; there must be an open one. -/
def closeFlow (s : Scan) (t : Token) : Except Fault Scan := do
  let s ← s.dropCandidate
  match s.outer with
  | [] => throw .malformed
  | candidate :: outer =>
    return { s.pushAt t (s.cursor.skip 1) with
      candidate := candidate, outer := outer, keyAllowed := false }

/-- What parts items within brackets. -/
def separator (s : Scan) : Except Fault Scan := do
  let s ← s.dropCandidate
  return { s.pushAt .separator (s.cursor.skip 1) with keyAllowed := true }

/-- Opens a block at the current column, if it lies right of all open ones.  Outside brackets a key must
    be allowed here. -/
def openBlock (s : Scan) (t : Token) : Except Fault Scan :=
  if s.inFlow then .ok s
  else if !s.keyAllowed then .error .malformed
  else if s.opensBlock s.column then .ok { s.push t with blocks := s.column :: s.blocks }
  else .ok s

/-- An item by indentation. -/
def entry (s : Scan) : Except Fault Scan := do
  let s ← (← s.openBlock .blockSequence).dropCandidate
  return { s.pushAt .entry (s.cursor.skip 1) with keyAllowed := true }

/-- A key with its indicator. -/
def explicitKey (s : Scan) : Except Fault Scan := do
  let s ← (← s.openBlock .blockMapping).dropCandidate
  return { s.pushAt .key (s.cursor.skip 1) with keyAllowed := !s.inFlow }

/-- A colon: it makes the candidate a key, and the first key of a block opens the block. -/
def valueMark (s : Scan) : Except Fault Scan :=
  match s.candidate with
  | some c =>
    -- both tokens go in before the candidate, the start of the block in front
    let s := s.insert c.before .key
    let s :=
      if s.opensBlock c.position.column then
        { s.insert c.before .blockMapping with blocks := c.position.column :: s.blocks }
      else s
    .ok { s.pushAt .value (s.cursor.skip 1) with candidate := none, keyAllowed := false }
  | none => do
    let s ← s.openBlock .blockMapping
    return { s.pushAt .value (s.cursor.skip 1) with keyAllowed := !s.inFlow }

/-- A name of a node. -/
def nodeName (s : Scan) (t : String → Token) : Except Fault Scan := do
  let s ← s.saveCandidate
  let (name, k) ← readName s.cursor
  return { s.pushAt (t name) k with keyAllowed := false }

/-- A tag. -/
def tag (s : Scan) : Except Fault Scan := do
  let s ← s.saveCandidate
  let (t, k) ← readTag s.cursor
  return { s.pushAt (.tag t) k with keyAllowed := false }

/-- A block scalar. -/
def block (s : Scan) (folded : Bool) : Except Fault Scan := do
  let s ← s.dropCandidate
  let (text, k) ← readBlock folded s.innerColumn s.cursor
  return { s.pushAt (.scalar false text) k with keyAllowed := true }

/-- A quoted scalar. -/
def quoted (s : Scan) (double : Bool) : Except Fault Scan := do
  let s ← s.saveCandidate
  let (text, k) ← readQuoted double s.cursor
  return { s.pushAt (.scalar false text) k with keyAllowed := false }

/-- A plain scalar. -/
def plain (s : Scan) : Except Fault Scan := do
  let s ← s.saveCandidate
  let p := Plain.read s.inFlow s.innerColumn s.cursor
  return { s.pushAt (.scalar true p.text) p.cursor with keyAllowed := p.newLine }

/-! ## §5. All tokens. -/

/-- Characters that start no plain scalar by themselves. -/
def isIndicator (c : Char) : Bool := "-?:,[]\x7b\x7d#&*!|>'\"%@\x60".toList.contains c

/-- Whether a plain scalar starts with `c`, with `next` after it. -/
def startsPlain (inFlow : Bool) (c : Char) (next : Option Char) : Bool :=
  !(endsMark (some c) || isIndicator c)
    || (!endsMark next && (c == '-' || (!inFlow && (c == '?' || c == ':'))))

/-- Reads the token that starts with `c`, with `rest` after it. -/
def token (s : Scan) (c : Char) (rest : List Char) : Except Fault Scan :=
  let next := rest.head?
  let alone := endsMark next
  let atMarker := s.column == 0 && startsMarker (c :: rest)
  -- what only the first column holds, then brackets, then what must stand alone outside them
  if c = '%' ∧ s.column = 0 then s.directive
  else if c = '-' ∧ atMarker then s.marker .documentStart
  else if c = '.' ∧ atMarker then s.marker .documentEnd
  else if c = '[' then s.openFlow .flowSequence
  else if c = '\x7b' then s.openFlow .flowMapping
  else if c = ']' then s.closeFlow .flowSequenceEnd
  else if c = '\x7d' then s.closeFlow .flowMappingEnd
  else if c = ',' then s.separator
  else if c = '-' ∧ alone then s.entry
  else if c = '?' ∧ (s.inFlow ∨ alone) then s.explicitKey
  else if c = ':' ∧ (s.inFlow ∨ alone) then s.valueMark
  else if c = '*' then s.nodeName .alias
  else if c = '&' then s.nodeName .anchor
  else if c = '!' then s.tag
  else if c = '|' ∧ !s.inFlow then s.block false
  else if c = '>' ∧ !s.inFlow then s.block true
  else if c = '\'' then s.quoted false
  else if c = '"' then s.quoted true
  else if startsPlain s.inFlow c next then s.plain
  else .error .malformed

/-- How many tokens are certain: before a candidate that has not lapsed a token may yet be put in. -/
def certain (s : Scan) : Nat :=
  (s.candidate :: s.outer).foldl (fun n c =>
    match c with
    | some c => if c.lapsed s.cursor.position then n else min n c.before
    | none => n) s.count

/-- The certain tokens, and a fault behind them. -/
def failWith (s : Scan) (f : Fault) : List Token :=
  (s.tokens.drop (s.count - s.certain)).reverse ++ [.fault f]

/-- Reads to the end of the text; every token takes some of it. -/
def run (s : Scan) : List Token :=
  match s.toNextToken.lapseAll with
  | .error f => s.failWith f
  | .ok here =>
    match here.cursor.rest with
    | [] =>
      match here.finish with
      | .error f => s.failWith f
      | .ok last => last.result
    | c :: rest =>
      match (here.closeBlocks here.column).token c rest with
      | .error f => s.failWith f
      | .ok next =>
        -- each token takes text, so the other branch is never taken
        if next.cursor.rest.length < s.cursor.rest.length then run next
        else s.failWith .malformed
termination_by s.cursor.rest.length
decreasing_by assumption

end Scan

/-- The tokens of a text. -/
def Token.scan (text : List Char) : List Token := Scan.run { cursor := ⟨text, {}⟩ }

end Converge.Yaml
