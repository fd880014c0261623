/-
  Converge.Declaration.Field
  ──────────────────────────
  **WHAT EACH DECLARED FIELD ACCEPTS.**

  A field takes a value in its own form or in one that says the same: text may come as bytes, a mode
  as an octal text, as a whole number in any notation or as decimal bytes.  A refusal is the sentence
  that the report of the declaration gives for the field.
-/
import Converge.Number.Numeral
import Converge.State
import Converge.Text.Utf8

namespace Converge

open Converge.Number Converge.Text

/-- A field of a declaration. -/
inductive Field where
  /-- Whether the resource should exist. -/
  | state
  /-- Where it is. -/
  | path
  /-- Its permission bits. -/
  | mode
  /-- Its owner. -/
  | owner
  /-- Its group. -/
  | group
  /-- Where its content comes from. -/
  | source
deriving DecidableEq, Repr

namespace Field

/-- The key of a field. -/
def name : Field → String
  | .state => "state"
  | .path => "path"
  | .mode => "mode"
  | .owner => "owner"
  | .group => "group"
  | .source => "source"

theorem name_injective {f g : Field} (h : f.name = g.name) : f = g := by
  cases f <;> cases g <;> simp_all [name]

/-! ## §1. Text and existence. -/

/-- The text that bytes encode. -/
def textOfBytes? (bs : List UInt8) : Option String :=
  match Utf8.decode bs with
  | .ok cs => some (String.ofList cs)
  | .error _ => none

/-- A text. -/
def readText : Value → Except String String
  | .text s => .ok s
  | .bytes bs =>
    match textOfBytes? bs with
    | some s => .ok s
    | none => .error "Input should be a valid string, unable to parse raw data as a unicode string"
  | _ => .error "Input should be a valid string"

/-- The existence that a value names. -/
def namedExistence? : Value → Option Existence
  | .text s => Existence.ofName? s
  | .bytes bs => (textOfBytes? bs).bind Existence.ofName?
  | _ => none

/-- An existence that can be declared. -/
def readExistence (v : Value) : Except String Existence :=
  match namedExistence? v with
  | none => .error "Input should be 'unknown', 'present' or 'absent'"
  | some .unknown => .error "Value error, state debe ser present o absent"
  | some e => .ok e

/-! ## §2. Modes. -/

/-- The greatest mode. -/
def maxMode : Int := 0o7777

/-- The integer that an octal text spells; a leading `0o` is dropped before the text is read. -/
def octalMode? (s : String) : Option Int :=
  let text := (lower (trim s)).toList
  integer? 8 (String.ofList (match text with
    | '0' :: 'o' :: rest => rest
    | cs => cs))

/-- The blanks that may stand around a decimal integer given as bytes. -/
def isDecimalBlank (c : Char) : Bool := isNumeralBlank c

/-- Drops the zeros that lead a number; underscores among them go with them.  The last zero stays
    before a point or at the end.  `none` if the text does not start as a number. -/
def dropLeadingZeros? : List Char → Option (List Char)
  | '0' :: rest => go '0' rest
  | c :: rest => if ('1' ≤ c ∧ c ≤ '9') ∨ c = '-' then some (c :: rest) else none
  | [] => none
where
  /-- Goes on behind `last`, a zero or underscore. -/
  go (last : Char) : List Char → Option (List Char)
    | [] => some [last]
    | c :: rest =>
      if c = '0' ∨ c = '_' then go c rest
      else if '1' ≤ c ∧ c ≤ '9' then some (c :: rest)
      else if c = '.' then some (last :: c :: rest)
      else none

/-- Drops a fraction of zeros, or of no digits at all. -/
def dropZeroFraction (cs : List Char) : List Char :=
  let fraction := cs.dropWhile (· ≠ '.')
  if !fraction.isEmpty && (fraction.drop 1).all (· == '0') then cs.takeWhile (· ≠ '.') else cs

/-- Drops underscores, if they stand single and between other characters. -/
def dropUnderscores (cs : List Char) : List Char :=
  let doubled := (cs.zip (cs.drop 1)).any fun p => p.1 == '_' && p.2 == '_'
  if cs.head? == some '_' || cs.getLast? == some '_' || doubled then cs
  else cs.filter (· ≠ '_')

/-- A natural number in ASCII digits without leading zeros. -/
def plainNat? (cs : List Char) : Option Nat :=
  if cs.isEmpty || !cs.all Char.isDigit then none
  else if cs.head? == some '0' && cs.length != 1 then none
  else some (cs.foldl (fun n c => n * 10 + (c.toNat - '0'.toNat)) 0)

/-- The decimal integer that a text spells: blanks around, a sign, leading zeros, single
    underscores and a fraction of zeros are allowed. -/
def decimalInteger? (s : String) : Option Int :=
  let cs := trimBy isDecimalBlank s.toList
  let unsigned := match cs with
    | '+' :: '-' :: _ => none
    | '+' :: rest => some rest
    | rest => some rest
  (unsigned.bind dropLeadingZeros?).bind fun cs =>
    match dropUnderscores (dropZeroFraction cs) with
    | '-' :: rest => (plainNat? rest).map fun n => -(n : Int)
    | rest => (plainNat? rest).map Int.ofNat

/-- The whole number that a value stands for as a mode, before its range is looked at. -/
def readWhole (v : Value) : Except String Int :=
  match v with
  | .boolean _ => .error "Value error, el modo no puede ser booleano"
  | .text s =>
    match octalMode? s with
    | some i => .ok i
    | none => .error ("Value error, modo octal inválido: " ++ quote s)
  | .integer i => .ok i
  | .decimal x =>
    -- not finite, then a fraction, then too large
    if !x.isFinite then .error "Input should be a finite number"
    else match x.toInt? with
      | none => .error "Input should be a valid integer, got a number with a fractional part"
      | some i =>
        if i.natAbs < Nat.pow 2 63 then .ok i
        else .error "Unable to parse input string as an integer, exceeded maximum size"
  | .bytes bs =>
    match (textOfBytes? bs).bind decimalInteger? with
    | some i => .ok i
    | none => .error "Input should be a valid integer, unable to parse string as an integer"
  | _ => .error "Input should be a valid integer"

/-- A mode. -/
def readMode (v : Value) : Except String Int := do
  let i ← readWhole v
  if 0 ≤ i ∧ i ≤ maxMode then return i
  else throw "Value error, el modo debe estar entre 0 y 7777 (octal)"

/-- A mode that was accepted is in range. -/
theorem readMode_range {v : Value} {i : Int} (h : readMode v = .ok i) : 0 ≤ i ∧ i ≤ maxMode := by
  unfold readMode at h
  cases hw : readWhole v with
  | error e => simp [hw, bind, Except.bind] at h
  | ok j =>
    simp only [hw, bind, Except.bind] at h
    split at h
    · rename_i hj
      cases h
      exact hj
    · cases h

/-- An existence that was accepted is not `unknown`. -/
theorem readExistence_ne_unknown {v : Value} {e : Existence} (h : readExistence v = .ok e) :
    e ≠ .unknown := by
  unfold readExistence at h
  cases hn : namedExistence? v with
  | none => simp [hn] at h
  | some n => cases n <;> simp [hn] at h <;> simp [← h]

end Field

end Converge
