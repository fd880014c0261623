/-
  Converge.Yaml.Token.Property
  ────────────────────────────
  **ANCHORS, ALIASES, TAGS AND DIRECTIVES.**

  Each reader starts at its indicator and stops behind the last character of its own; what may come
  next is part of the rule, so `&a,` is an anchor and `&a!` is not.
-/
import Converge.Text.Utf8
import Converge.Yaml.Scalar.Block
import Converge.Yaml.Scalar.Quoted
import Converge.Yaml.Token.Basic

namespace Converge.Yaml

open Converge.Text

/-! ## §1. Names of nodes. -/

/-- Characters other than blanks that may follow a name of a node. -/
def isAfterName (c : Char) : Bool := "?:,]\x7d%@\x60".toList.contains c

/-- Reads a name of a node behind its indicator. -/
def readName (k : Cursor) : Except Fault (String × Cursor) :=
  let k := k.skip 1
  let n := k.runLength isNameChar
  let next := k.skip n
  if n = 0 then .error .malformed
  else if endsMark next.peek || next.peek.any isAfterName then
    .ok (String.ofList (k.ahead n), next)
  else .error .malformed

/-! ## §2. Tags. -/

/-- The escapes at the start of a text, as bytes, and what is left; each is `%` with two digits. -/
def readEscapedBytes : List Char → Except Fault (List UInt8 × List Char)
  | '%' :: a :: b :: rest =>
    match hexNumber? 2 0 [a, b] with
    | none => .error .malformed
    | some n => (readEscapedBytes rest).map fun r => (UInt8.ofNat n :: r.1, r.2)
  | '%' :: _ => .error .malformed
  | cs => .ok ([], cs)

/-- The characters of a tag at the start of a text, escapes decoded together where they touch, and
    what is left. -/
def readUriChars (acc cs : List Char) : Except Fault (List Char × List Char) :=
  match cs with
  | [] => .ok (acc.reverse, [])
  | c :: rest =>
    -- escapes that touch are decoded together, since a character may take several
    if c = '%' then
      match readEscapedBytes (c :: rest) with
      | .error f => .error f
      | .ok (bytes, left) =>
        match Utf8.decode bytes with
        | .error _ => .error .malformed
        | .ok text =>
          if left.length < (c :: rest).length then readUriChars (text.reverse ++ acc) left
          else .error .malformed
    else if isUriChar c then readUriChars (c :: acc) rest
    else .ok (acc.reverse, c :: rest)
termination_by cs.length
decreasing_by
  · assumption
  · simp

/-- Reads the characters of a tag; there is at least one. -/
def readUri (k : Cursor) : Except Fault (String × Cursor) :=
  match readUriChars [] k.rest with
  | .error f => .error f
  | .ok (text, left) =>
    let n := k.rest.length - left.length
    if n = 0 then .error .malformed else .ok (String.ofList text, k.skip n)

/-- Reads a handle: an exclamation mark alone before a space, or two with a name between them. -/
def readHandle (k : Cursor) : Except Fault (String × Cursor) :=
  match k.rest with
  | '!' :: rest =>
    if rest.head? = some ' ' then .ok ("!", k.skip 1)
    else
      let n := (rest.takeWhile isNameChar).length
      if (rest.drop n).head? = some '!' then
        .ok (String.ofList (k.ahead (n + 2)), k.skip (n + 2))
      else .error .malformed
  | _ => .error .malformed

/-- Whether there is a second exclamation mark in the word at a place. -/
def hasHandle (k : Cursor) : Bool :=
  ((k.rest.drop 1).takeWhile fun c => !endsWord (some c)).contains '!'

/-- The tag that asks for no resolution. -/
def nonSpecific : TagText := ⟨none, "!"⟩

/-- Reads a tag. -/
def readTag (k : Cursor) : Except Fault (TagText × Cursor) := do
  let next := (k.skip 1).peek
  let (tag, after) ←
    if next = some '<' then do
      let (uri, after) ← readUri (k.skip 2)
      if after.peek = some '>' then pure ((⟨none, uri⟩ : TagText), after.skip 1)
      else throw .malformed
    else if endsMark next then pure (nonSpecific, k.skip 1)
    else if hasHandle k then do
      let (handle, after) ← readHandle k
      let (suffix, after) ← readUri after
      pure ((⟨some handle, suffix⟩ : TagText), after)
    else do
      let (suffix, after) ← readUri (k.skip 1)
      pure ((⟨some "!", suffix⟩ : TagText), after)
  if endsWord after.peek then return (tag, after) else throw .malformed

/-! ## §3. Directives. -/

/-- Reads a number of a version. -/
def readVersionNumber (k : Cursor) : Except Fault (Nat × Cursor) :=
  let n := k.runLength Char.isDigit
  if n = 0 then .error .malformed
  else if digitLimit < n then .error (.scalar (.integerTooLong n))
  else .ok ((k.ahead n).foldl (fun v c => v * 10 + (c.toNat - '0'.toNat)) 0, k.skip n)

/-- Moves past spaces. -/
def skipSpaces (k : Cursor) : Cursor := k.skipWhile (· == ' ')

/-- Reads what a version directive says. -/
def readVersion (k : Cursor) : Except Fault (Directive × Cursor) := do
  let (major, k) ← readVersionNumber (skipSpaces k)
  if k.peek ≠ some '.' then throw .malformed
  let (minor, k) ← readVersionNumber (k.skip 1)
  if endsWord k.peek then return (.version major minor, k) else throw .malformed

/-- Reads what a directive for a tag handle says. -/
def readHandleDirective (k : Cursor) : Except Fault (Directive × Cursor) := do
  let (name, k) ← readHandle (skipSpaces k)
  if k.peek ≠ some ' ' then throw .malformed
  let (stem, k) ← readUri (skipSpaces k)
  if endsWord k.peek then return (.handle name stem, k) else throw .malformed

/-- Reads a directive and the line end after it. -/
def readDirective (k : Cursor) : Except Fault (Directive × Cursor) := do
  let k := k.skip 1
  let n := k.runLength isNameChar
  let name := String.ofList (k.ahead n)
  let k := k.skip n
  if n = 0 || !endsWord k.peek then throw .malformed
  let (d, k) ←
    if name = "YAML" then readVersion k
    else if name = "TAG" then readHandleDirective k
    else pure (.other, k.skipWhile (!isBreak ·))
  return (d, ← finishLine k)

end Converge.Yaml
