/-
  Converge.Yaml.Scalar.Block
  ──────────────────────────
  **BLOCK SCALARS: TEXT BY INDENTATION.**

  A header says whether lines are kept or folded, what becomes of the line ends at the end, and
  perhaps how deep the text is indented; without that the first line that is not empty says it.
  The text is what stands at that indentation; a folded line end becomes a space unless one of its
  two lines starts with a blank.
-/
import Converge.Yaml.Cursor
import Converge.Yaml.Fault

namespace Converge.Yaml

/-! ## §1. The header. -/

/-- What becomes of the line ends at the end of a block scalar. -/
inductive Chomping where
  /-- The first one stays. -/
  | clip
  /-- None stays. -/
  | strip
  /-- All stay. -/
  | keep
deriving DecidableEq, Repr

/-- The chomping that an indicator asks for. -/
def Chomping.ofIndicator? (c : Char) : Option Chomping :=
  match c with
  | '+' => some .keep
  | '-' => some .strip
  | _ => none

/-- The header of a block scalar. -/
structure BlockHeader where
  /-- What becomes of the line ends at the end. -/
  chomping : Chomping := .clip
  /-- The indentation beyond that of the surrounding block, if it is given. -/
  depth : Option Nat := none
  /-- The length of the header. -/
  length : Nat := 0

/-- The depth that a digit gives; zero is refused. -/
def depthOf (c : Char) : Except Fault Nat :=
  if c = '0' then .error .malformed else .ok (c.toNat - '0'.toNat)

/-- Reads a header: an indicator of chomping and a digit, either first and both optional. -/
def BlockHeader.read (cs : List Char) : Except Fault BlockHeader :=
  match cs with
  | [] => .ok {}
  | c :: rest =>
    match Chomping.ofIndicator? c with
    | some chomping =>
      match rest.head? with
      | some d =>
        if d.isDigit then (depthOf d).map fun n => ⟨chomping, some n, 2⟩
        else .ok { chomping := chomping, length := 1 }
      | none => .ok { chomping := chomping, length := 1 }
    | none =>
      if c.isDigit then
        (depthOf c).map fun n =>
          match rest.head?.bind Chomping.ofIndicator? with
          | some chomping => ⟨chomping, some n, 2⟩
          | none => { depth := some n, length := 1 }
      else .ok {}

/-- Moves past spaces, a comment and the line end after them; anything else is refused. -/
def finishLine (k : Cursor) : Except Fault Cursor :=
  let k := k.skipWhile (· == ' ')
  let k := if k.peek = some '#' then k.skipWhile (!isBreak ·) else k
  if endsLine k.peek then .ok k.skipBreak else .error .malformed

/-! ## §2. Indentation. -/

/-- Moves past spaces up to a column. -/
def skipIndent (indent : Nat) (k : Cursor) : Cursor :=
  k.skip (min (k.runLength (· == ' ')) (indent - k.column))

/-- The line ends before the next line that holds something at or before the column `indent`, and the
    place there. -/
def blockBreaks (indent : Nat) (k : Cursor) : List Char × Cursor :=
  match (skipIndent indent k).rest with
  | [] => ([], skipIndent indent k)
  | c :: rest =>
    if isBreak c ∧ ((skipIndent indent k).skip 1).rest.length < k.rest.length then
      let (ends, after) := blockBreaks indent ((skipIndent indent k).skip 1)
      (breakText c :: ends, after)
    else ([], ⟨c :: rest, (skipIndent indent k).position⟩)
termination_by k.rest.length
decreasing_by exact And.right ‹_›

/-- The leading line ends of a text without a given depth, the greatest column that its leading spaces
    reach, and the place after them. -/
def leadingBreaks (k : Cursor) : List Char × Nat × Cursor :=
  let run := k.rest.takeWhile fun c => c == ' ' || isBreak c
  let reached := run.foldl (fun (r : Position × Nat) c =>
    let p := r.1.after c
    (p, if c = ' ' then max r.2 p.column else r.2)) (k.position, 0)
  ((run.filter isBreak).map breakText, reached.2, k.skip run.length)

/-! ## §3. Scalars. -/

/-- The lines of a block scalar. -/
structure BlockLines where
  /-- The text, last character first, without the end of the last line. -/
  reversed : List Char
  /-- The end of the last line. -/
  lastEnd : List Char
  /-- The line ends after it. -/
  trailing : List Char
  /-- Where the text ends. -/
  cursor : Cursor

/-- Whether a line starts with a blank. -/
def startsBlank (k : Cursor) : Bool := k.peek.any isSpaceOrTab

/-- Whether a line of the text is next: something stands at the column `indent`. -/
def hasLine (indent : Nat) (k : Cursor) : Bool := k.column == indent && k.peek.isSome

/-- The end of the line that is next, as it counts. -/
def lineEnd (k : Cursor) : List Char :=
  match k.peek with
  | some c => if isBreak c then [breakText c] else []
  | none => []

/-- What stands between a line that ends in `lineEnd` and the next one, before the `more` line ends
    between them. -/
def betweenLines (folded startBlank nextBlank : Bool) (lineEnd more : List Char) : List Char :=
  if folded && lineEnd == ['\n'] && !startBlank && !nextBlank then
    if more.isEmpty then [' '] else []
  else lineEnd

/-- Where the end of the current line is. -/
def toLineEnd (k : Cursor) : Cursor := k.skipWhile (!isBreak ·)

/-- Goes on reading lines after the text `acc`, with line ends `breaks` before the next line. -/
def readLines (folded : Bool) (indent : Nat) (breaks acc lastEnd : List Char) (k : Cursor) :
    BlockLines :=
  if hasLine indent k then
    let line := k.rest.takeWhile (!isBreak ·)
    let acc := line.reverse ++ (breaks.reverse ++ acc)
    -- the end of this line counts only once it is known what follows
    let here := lineEnd (toLineEnd k)
    let (more, next) := blockBreaks indent (toLineEnd k).skipBreak
    if hasLine indent next ∧ next.rest.length < k.rest.length then
      let between := betweenLines folded (startsBlank k) (startsBlank next) here more
      readLines folded indent more (between.reverse ++ acc) here next
    else ⟨acc, here, more, next⟩
  else ⟨acc, lastEnd, breaks, k⟩
termination_by k.rest.length
decreasing_by exact And.right ‹_›

/-- The text that the lines come to. -/
def BlockLines.text (b : BlockLines) (chomping : Chomping) : String :=
  String.ofList (b.reversed.reverse ++ (if chomping = .strip then [] else b.lastEnd)
    ++ (if chomping = .keep then b.trailing else []))

/-- Reads a block scalar whose indicator is next; `outer` is the least column that its text may have. -/
def readBlock (folded : Bool) (outer : Nat) (k : Cursor) : Except Fault (String × Cursor) := do
  let k := k.skip 1
  let header ← BlockHeader.read k.rest
  let k := k.skip header.length
  if !endsWord k.peek then throw .malformed
  let k ← finishLine k
  let least := max outer 1
  -- without a depth the first line that holds something sets it
  let (breaks, indent, k) := match header.depth with
    | none =>
      let (breaks, deepest, k) := leadingBreaks k
      (breaks, max least deepest, k)
    | some depth =>
      let indent := least + depth - 1
      let (breaks, k) := blockBreaks indent k
      (breaks, indent, k)
  let lines := readLines folded indent breaks [] [] k
  return (lines.text header.chomping, lines.cursor)

end Converge.Yaml
