/-
  Converge.Yaml.Cursor
  ────────────────────
  **A PLACE IN THE TEXT OF A DOCUMENT.**

  Lines end with a line feed by the time a document is read; the next-line character and the two
  Unicode separators end lines too.  A cursor is the text that is left and where it stands: the
  count of characters before it, the line, and the column, in which a byte-order mark takes no room.
  `Cursor.skip` is the only way to move one, so the text that is left is always a suffix.
-/

namespace Converge.Yaml

/-! ## §1. The text of a document. -/

/-- Line ends as line feeds: a carriage return, with the line feed after it if there is one, is one. -/
def unifyLineEnds : List Char → List Char
  | [] => []
  | '\r' :: '\n' :: rest => '\n' :: unifyLineEnds rest
  | '\r' :: rest => '\n' :: unifyLineEnds rest
  | c :: rest => c :: unifyLineEnds rest

/-- The characters that a document may hold: no control characters but tab, line feed and next line,
    and no code point that is set aside as none. -/
def isAllowed (c : Char) : Bool :=
  let n := c.toNat
  n == 0x09 || n == 0x0a || (decide (0x20 ≤ n) && decide (n ≤ 0x7e)) || n == 0x85
    || (decide (0xa0 ≤ n) && decide (n ≤ 0xfffd)) || decide (0x10000 ≤ n)

/-- The mark that may stand at the start of a text and takes no column anywhere. -/
def byteOrderMark : Char := Char.ofNat 0xfeff

/-! ## §2. Classes of characters.  Those of an optional character count the end of the text in. -/

/-- Whether a character ends a line. -/
def isBreak (c : Char) : Bool :=
  c == '\n' || c.toNat == 0x85 || c.toNat == 0x2028 || c.toNat == 0x2029

/-- The line feed that a line end counts as; the two Unicode separators stay themselves. -/
def breakText (c : Char) : Char := if c.toNat = 0x85 then '\n' else c

/-- Space or tab. -/
def isSpaceOrTab (c : Char) : Bool := c == ' ' || c == '\t'

/-- Whether a line is over. -/
def endsLine : Option Char → Bool
  | none => true
  | some c => isBreak c

/-- Whether a word is over: a space or the end of the line. -/
def endsWord : Option Char → Bool
  | none => true
  | some c => c == ' ' || isBreak c

/-- Whether an indicator stands alone: a space, a tab or the end of the line. -/
def endsMark : Option Char → Bool
  | none => true
  | some c => isSpaceOrTab c || isBreak c

/-- Letters, digits, hyphen and underscore, of which names consist. -/
def isNameChar (c : Char) : Bool := c.isAlphanum || c == '-' || c == '_'

/-- The characters of a tag as it is written; `%` starts an escape. -/
def isUriChar (c : Char) : Bool :=
  c.isAlphanum || "-;/?:@&=+$,_.!~*'()[]%".toList.contains c

/-- Whether `---` or `...`, alone, is next. -/
def startsMarker : List Char → Bool
  | '-' :: '-' :: '-' :: rest => endsMark rest.head?
  | '.' :: '.' :: '.' :: rest => endsMark rest.head?
  | _ => false

/-! ## §3. Positions and cursors. -/

/-- A position in a text. -/
structure Position where
  /-- The characters before it. -/
  index : Nat := 0
  /-- The lines before it. -/
  line : Nat := 0
  /-- The columns before it on its line. -/
  column : Nat := 0
deriving DecidableEq, Repr

/-- The position after a character. -/
def Position.after (p : Position) (c : Char) : Position :=
  if isBreak c then ⟨p.index + 1, p.line + 1, 0⟩
  else if c = byteOrderMark then { p with index := p.index + 1 }
  else { p with index := p.index + 1, column := p.column + 1 }

/-- A place in a text. -/
structure Cursor where
  /-- The text from here on. -/
  rest : List Char
  /-- Where this is. -/
  position : Position := {}

namespace Cursor

/-- The next character. -/
def peek (k : Cursor) : Option Char := k.rest.head?

/-- The column. -/
def column (k : Cursor) : Nat := k.position.column

/-- Moves past `n` characters. -/
def skip (k : Cursor) (n : Nat) : Cursor :=
  ⟨k.rest.drop n, (k.rest.take n).foldl Position.after k.position⟩

/-- How many characters of a class come next. -/
def runLength (k : Cursor) (p : Char → Bool) : Nat := (k.rest.takeWhile p).length

/-- Moves past the characters of a class that come next. -/
def skipWhile (k : Cursor) (p : Char → Bool) : Cursor := k.skip (k.runLength p)

/-- The next `n` characters. -/
def ahead (k : Cursor) (n : Nat) : List Char := k.rest.take n

/-- Moves past a line end, if that is next. -/
def skipBreak (k : Cursor) : Cursor :=
  match k.peek with
  | some c => if isBreak c then k.skip 1 else k
  | none => k

@[simp] theorem rest_skip (k : Cursor) (n : Nat) : (k.skip n).rest = k.rest.drop n := rfl

/-- No move gains text. -/
theorem length_rest_skip_le (k : Cursor) (n : Nat) :
    (k.skip n).rest.length ≤ k.rest.length := by
  simp

/-- A move past at least one character of a text that is not over leaves less of it. -/
theorem length_rest_skip_lt {k : Cursor} {n : Nat} (hn : 0 < n) (hk : k.rest ≠ []) :
    (k.skip n).rest.length < k.rest.length := by
  have : 0 < k.rest.length := List.length_pos_iff.2 hk
  simp
  omega

end Cursor

end Converge.Yaml
