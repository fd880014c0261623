/-
  Converge.Yaml.Scalar.Quoted
  ───────────────────────────
  **QUOTED SCALARS.**

  Between single quotes only the quote itself is special: it is written twice.  Between double quotes
  a backslash starts an escape, and before a line end it joins the lines.  A line end with the blanks
  around it becomes a space, and a run of line ends all but the first.  A document marker at the
  start of a line is not text.
-/
import Converge.Yaml.Cursor
import Converge.Yaml.Fault

namespace Converge.Yaml

/-! ## §1. Escapes. -/

/-- The character that an escape of one letter stands for. -/
def simpleEscape? (c : Char) : Option Char :=
  match c with
  | '0' => some (Char.ofNat 0x00)
  | 'a' => some (Char.ofNat 0x07)
  | 'b' => some (Char.ofNat 0x08)
  | 't' => some '\t'
  | '\t' => some '\t'
  | 'n' => some '\n'
  | 'v' => some (Char.ofNat 0x0b)
  | 'f' => some (Char.ofNat 0x0c)
  | 'r' => some '\r'
  | 'e' => some (Char.ofNat 0x1b)
  | ' ' => some ' '
  | '"' => some '"'
  | '\\' => some '\\'
  | '/' => some '/'
  | 'N' => some (Char.ofNat 0x85)
  | '_' => some (Char.ofNat 0xa0)
  | 'L' => some (Char.ofNat 0x2028)
  | 'P' => some (Char.ofNat 0x2029)
  | _ => none

/-- How many hexadecimal digits follow the letter of an escape by code. -/
def codeWidth? (c : Char) : Option Nat :=
  match c with
  | 'x' => some 2
  | 'u' => some 4
  | 'U' => some 8
  | _ => none

/-- The value of a hexadecimal digit. -/
def hexValue? (c : Char) : Option Nat :=
  if c.isDigit then some (c.toNat - '0'.toNat)
  else if 'a' ≤ c ∧ c ≤ 'f' then some (c.toNat - 'a'.toNat + 10)
  else if 'A' ≤ c ∧ c ≤ 'F' then some (c.toNat - 'A'.toNat + 10)
  else none

/-- The number that the first `width` characters spell in hexadecimal, all of them digits. -/
def hexNumber? : Nat → Nat → List Char → Option Nat
  | 0, acc, _ => some acc
  | _ + 1, _, [] => none
  | width + 1, acc, c :: rest => (hexValue? c).bind fun d => hexNumber? width (acc * 16 + d) rest

/-- The character with a code; a code that is set aside gives the replacement character. -/
def charOfCode (code : Nat) : Except Fault Char :=
  if 0x110000 ≤ code then .error (.scalar (.codePoint code))
  else if 0xd800 ≤ code ∧ code < 0xe000 then .ok (Char.ofNat 0xfffd)
  else .ok (Char.ofNat code)

/-- The escape after a backslash: the character and the length after the backslash.  Line ends are no
    escapes of this kind. -/
def readEscape (cs : List Char) : Except Fault (Char × Nat) :=
  match cs with
  | [] => .error .malformed
  | c :: rest =>
    match simpleEscape? c with
    | some e => .ok (e, 1)
    | none =>
      match codeWidth? c with
      | none => .error .malformed
      | some width =>
        match hexNumber? width 0 rest with
        | none => .error .malformed
        | some code => (charOfCode code).map fun e => (e, width + 1)

/-! ## §2. Line ends. -/

/-- After a line end: the line ends that follow among blanks, and the length of it all.  A document
    marker at the start of a line is refused. -/
def quotedLines (lineStart : Bool) (cs : List Char) : Except Fault (List Char × Nat) :=
  if lineStart && startsMarker cs then .error .malformed
  else match cs with
    | [] => .ok ([], 0)
    | c :: rest =>
      if isSpaceOrTab c then (quotedLines false rest).map fun r => (r.1, r.2 + 1)
      else if isBreak c then (quotedLines true rest).map fun r => (breakText c :: r.1, r.2 + 1)
      else .ok ([], 0)

/-- The text of a line end `first` with the ones after it. -/
def foldedBreaks (first : Char) (more : List Char) : List Char :=
  if breakText first ≠ '\n' then breakText first :: more
  else if more.isEmpty then [' ']
  else more

/-! ## §3. Scalars. -/

/-- What stands at a place within quotes. -/
inductive QuotedItem where
  /-- The closing quote. -/
  | close
  /-- Some text, and how much of the document it takes. -/
  | text (cs : List Char) (length : Nat)

/-- The item after blanks `blanks`, with `cs` after them: a folded line end or the blanks themselves. -/
def blankItem (blanks cs : List Char) : Except Fault QuotedItem :=
  match cs with
  | [] => .error .malformed
  | c :: rest =>
    if isBreak c then
      (quotedLines true rest).map fun r =>
        .text (foldedBreaks c r.1) (blanks.length + 1 + r.2)
    else .ok (.text blanks blanks.length)

/-- The item after a backslash: an escape, or a line end that joins the lines. -/
def escapeItem (cs : List Char) : Except Fault QuotedItem :=
  match cs with
  | [] => .error .malformed
  | c :: rest =>
    if isBreak c then (quotedLines true rest).map fun r => .text r.1 (r.2 + 2)
    else (readEscape (c :: rest)).map fun r => .text [r.1] (r.2 + 1)

/-- The item at the start of `cs`. -/
def QuotedItem.read (double : Bool) (cs : List Char) : Except Fault QuotedItem :=
  match cs with
  | [] => .error .malformed
  | c :: rest =>
    if c = (if double then '"' else '\'') then
      -- within single quotes a quote is written twice
      if !double && rest.head? == some '\'' then .ok (.text ['\''] 2) else .ok .close
    else if double && c == '\\' then escapeItem rest
    else if isSpaceOrTab c || isBreak c then
      let blanks := cs.takeWhile isSpaceOrTab
      blankItem blanks (cs.drop blanks.length)
    else .ok (.text [c] 1)

/-- Goes on reading after the text `acc` (last character first), to behind the closing quote. -/
def readQuotedFrom (double : Bool) (acc : List Char) (k : Cursor) : Except Fault (String × Cursor) :=
  match QuotedItem.read double k.rest with
  | .error f => .error f
  | .ok .close => .ok (String.ofList acc.reverse, k.skip 1)
  | .ok (.text cs n) =>
    if (k.skip n).rest.length < k.rest.length then
      readQuotedFrom double (cs.reverse ++ acc) (k.skip n)
    else .error .malformed
termination_by k.rest.length
decreasing_by assumption

/-- Reads a scalar whose opening quote is next. -/
def readQuoted (double : Bool) (k : Cursor) : Except Fault (String × Cursor) :=
  readQuotedFrom double [] (k.skip 1)

end Converge.Yaml
