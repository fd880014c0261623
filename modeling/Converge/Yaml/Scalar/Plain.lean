/-
  Converge.Yaml.Scalar.Plain
  ──────────────────────────
  **PLAIN SCALARS: TEXT WITHOUT QUOTES.**

  A plain scalar is a row of pieces without blanks, with gaps of spaces or line ends between them.  A
  gap within a line is kept; a gap with one line end becomes a space, one with more keeps all ends
  but the first.  The gap after the last piece belongs to no scalar, but it is read past: a new line
  in it means that a key may follow.
-/
import Converge.Yaml.Cursor

namespace Converge.Yaml

/-! ## §1. Pieces. -/

/-- Characters that end a piece inside brackets and braces. -/
def isFlowStop (c : Char) : Bool := ",?[]\x7b\x7d".toList.contains c

/-- Characters before which a colon ends a piece inside brackets and braces. -/
def isAfterColon (c : Char) : Bool := ",[]\x7b\x7d".toList.contains c

/-- Whether a colon before `next` parts a key from its value. -/
def colonParts (inFlow : Bool) (next : Option Char) : Bool :=
  endsMark next || (inFlow && next.any isAfterColon)

/-- Whether a piece ends at `c`, with `next` after it. -/
def endsPiece (inFlow : Bool) (c : Char) (next : Option Char) : Bool :=
  endsMark (some c) || (c == ':' && colonParts inFlow next) || (inFlow && isFlowStop c)

/-- The length of the piece that comes next. -/
def pieceLength (inFlow : Bool) : List Char → Nat
  | [] => 0
  | c :: rest => if endsPiece inFlow c rest.head? then 0 else pieceLength inFlow rest + 1

/-! ## §2. Gaps. -/

/-- The line ends in a gap after its first one, and the gap's length; no line ends if the gap leads to
    a document marker. -/
def gapLines (lineStart : Bool) (cs : List Char) : Option (List Char) × Nat :=
  if lineStart && startsMarker cs then (none, 0)
  else match cs with
    | [] => (some [], 0)
    | c :: rest =>
      if c = ' ' then
        let (ends, n) := gapLines false rest
        (ends, n + 1)
      else if isBreak c then
        let (ends, n) := gapLines true rest
        (ends.map (breakText c :: ·), n + 1)
      else (some [], 0)

/-- The text of a gap with a first line end and the ones after it. -/
def foldedGap (first : Char) (ends : List Char) : List Char :=
  if breakText first ≠ '\n' then breakText first :: ends
  else if ends.isEmpty then [' ']
  else ends

/-- A gap after a piece. -/
structure Gap where
  /-- Its text, if a piece may follow. -/
  text : List Char
  /-- Its length. -/
  length : Nat
  /-- Whether there is a line end in it. -/
  newLine : Bool

/-- The gap that comes next. -/
def Gap.read (cs : List Char) : Gap :=
  let spaces := cs.takeWhile (· == ' ')
  match cs.drop spaces.length with
  | [] => ⟨spaces, spaces.length, false⟩
  | c :: rest =>
    if isBreak c then
      let (ends, n) := gapLines true rest
      ⟨(ends.map (foldedGap c)).getD [], spaces.length + 1 + n, true⟩
    else ⟨spaces, spaces.length, false⟩

/-! ## §3. Scalars. -/

/-- A plain scalar that has been read. -/
structure Plain where
  /-- Its text, last character first. -/
  reversed : List Char
  /-- Where it ends, the gap after it included. -/
  cursor : Cursor
  /-- Whether the gap after the last piece has a line end. -/
  newLine : Bool

/-- The length of the piece at a cursor; a `#` starts a comment, not a piece. -/
def nextPiece (inFlow : Bool) (k : Cursor) : Nat :=
  if k.peek = some '#' then 0 else pieceLength inFlow k.rest

/-- A piece takes some of the text. -/
theorem length_rest_skip_nextPiece {inFlow : Bool} {k : Cursor} (h : nextPiece inFlow k ≠ 0) :
    (k.skip (nextPiece inFlow k)).rest.length < k.rest.length := by
  refine Cursor.length_rest_skip_lt (Nat.pos_of_ne_zero h) fun hk => h ?_
  simp [nextPiece, hk, pieceLength]

/-- Goes on reading pieces after the text `acc` and the gap `gap`.  Outside brackets a piece must stand
    at column `indent` or further right. -/
def Plain.readFrom (inFlow : Bool) (indent : Nat) (gap acc : List Char) (newLine : Bool) (k : Cursor) :
    Plain :=
  if nextPiece inFlow k = 0 then ⟨acc, k, newLine⟩
  else
    let acc := (k.ahead (nextPiece inFlow k)).reverse ++ (gap.reverse ++ acc)
    let after := k.skip (nextPiece inFlow k)
    -- the gap is part of the text only if another piece follows it
    let g := Gap.read after.rest
    let next := after.skip g.length
    if g.text.isEmpty || next.peek == some '#' || (!inFlow && decide (next.column < indent)) then
      ⟨acc, next, g.newLine⟩
    else readFrom inFlow indent g.text acc g.newLine next
termination_by k.rest.length
decreasing_by
  exact Nat.lt_of_le_of_lt (Cursor.length_rest_skip_le _ _) (length_rest_skip_nextPiece ‹_›)

/-- Reads a plain scalar. -/
def Plain.read (inFlow : Bool) (indent : Nat) (k : Cursor) : Plain :=
  readFrom inFlow indent [] [] false k

/-- The text. -/
def Plain.text (p : Plain) : String := String.ofList p.reversed.reverse

end Converge.Yaml
