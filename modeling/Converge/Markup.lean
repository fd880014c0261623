/-
  Converge.Markup
  ───────────────
  **STYLE TAGS IN TEXT, AND TEXT THAT IS NO TAG.**

  A tag is a bracket, a letter or one of `#`, `/`, `@`, anything without a bracket, and a closing
  bracket.  Backslashes before a tag come in pairs that stand for one; an odd one makes the tag plain
  text.  `escape` puts that odd backslash before every tag of a text; `render` drops the tags that
  are left and refuses one that closes nothing.  Escaping looks at one text alone: a bracket opened in
  one text and closed in the next makes a tag that neither holds.
-/
import Converge.Failure

namespace Converge.Markup

open Converge.Text

/-! ## §1. Pieces. -/

/-- Whether a tag can start with the character. -/
def startsTag (c : Char) : Bool :=
  ('a' ≤ c && c ≤ 'z') || c == '#' || c == '/' || c == '@'

/-- The characters up to a closing bracket with no opening one before it, and what follows. -/
def upToClosing : List Char → Option (List Char × List Char)
  | [] => none
  | c :: rest =>
    if c = ']' then some ([], rest)
    else if c = '[' then none
    else (upToClosing rest).map fun p => (c :: p.1, p.2)

/-- The inside of the tag whose opening bracket has been read, and what follows the tag. -/
def tagBody? : List Char → Option (List Char × List Char)
  | [] => none
  | c :: rest => if startsTag c then (upToClosing rest).map fun p => (c :: p.1, p.2) else none

theorem upToClosing_length {cs body rest : List Char} (h : upToClosing cs = some (body, rest)) :
    rest.length < cs.length := by
  induction cs generalizing body with
  | nil => simp [upToClosing] at h
  | cons c cs ih =>
    unfold upToClosing at h
    by_cases hc : c = ']'
    · simp only [hc, if_true, Option.some.injEq, Prod.mk.injEq] at h
      simp [h.2]
    · by_cases ho : c = '['
      · simp [ho] at h
      · simp only [hc, ho, if_false] at h
        obtain ⟨p, hp, he⟩ := Option.map_eq_some_iff.1 h
        simp only [Prod.mk.injEq] at he
        have : rest.length < cs.length := @ih p.1 (by rw [hp, ← he.2])
        simp only [List.length_cons]
        omega

theorem tagBody?_length {cs body rest : List Char} (h : tagBody? cs = some (body, rest)) :
    rest.length < cs.length := by
  cases cs with
  | nil => simp [tagBody?] at h
  | cons c cs =>
    unfold tagBody? at h
    by_cases hs : startsTag c = true
    · simp only [hs, if_true] at h
      obtain ⟨p, hp, he⟩ := Option.map_eq_some_iff.1 h
      simp only [Prod.mk.injEq] at he
      have : rest.length < cs.length := @upToClosing_length cs p.1 rest (by rw [hp, ← he.2])
      simp only [List.length_cons]
      omega
    · simp [hs] at h

/-- A part of a marked-up text. -/
inductive Piece where
  /-- Backslashes and a character after them that opens no tag; `none` at the end of the text. -/
  | plain (slashes : Nat) (c : Option Char)
  /-- Backslashes and a tag after them, with its inside. -/
  | tag (slashes : Nat) (body : List Char)
deriving DecidableEq, Repr

/-- The parts of a text, `slashes` backslashes having been read already. -/
def piecesFrom (slashes : Nat) (cs : List Char) : List Piece :=
  match cs with
  | [] => if slashes = 0 then [] else [.plain slashes none]
  | c :: rest =>
    if c = '\\' then piecesFrom (slashes + 1) rest
    else if c = '[' then
      match _h : tagBody? rest with
      | some (body, after) => .tag slashes body :: piecesFrom 0 after
      | none => .plain slashes (some c) :: piecesFrom 0 rest
    else .plain slashes (some c) :: piecesFrom 0 rest
termination_by cs.length
decreasing_by
  · simp
  · have := tagBody?_length _h
    simp only [List.length_cons]
    omega
  · simp
  · simp

/-- The parts of a text. -/
def pieces (cs : List Char) : List Piece := piecesFrom 0 cs

/-- That many backslashes. -/
def slashes (n : Nat) : List Char := List.replicate n '\\'

/-- A tag as written. -/
def bracketed (body : List Char) : List Char := '[' :: body ++ [']']

/-! ## §2. Escaping. -/

/-- A part with its tag, if it is one, made plain. -/
def Piece.escaped : Piece → List Char
  | .plain n c => slashes n ++ c.toList
  | .tag n body => slashes (2 * n + 1) ++ bracketed body

/-- Doubles a single backslash at the end, which would otherwise escape what comes next. -/
def guardEnd (cs : List Char) : List Char :=
  match cs.reverse with
  | '\\' :: '\\' :: _ => cs
  | '\\' :: _ => cs ++ ['\\']
  | _ => cs

/-- The text with no tag in it. -/
def escape (s : String) : String :=
  String.ofList (guardEnd ((pieces s.toList).flatMap Piece.escaped))

/-! ## §3. Rendering. -/

/-- The characters that are not printed: bell, backspace, vertical tab, form feed, carriage return. -/
def isDropped (c : Char) : Bool :=
  c == '\x07' || c == '\x08' || c == '\x0b' || c == '\x0c' || c == '\r'

/-- The name of a style: what stands before `=`, without regard to case and to blanks around it. -/
def styleName (cs : List Char) : String :=
  lower (trim (String.ofList (cs.takeWhile (· ≠ '='))))

/-- How many characters of the text a part takes up. -/
def Piece.width : Piece → Nat
  | .plain n c => n + c.toList.length
  | .tag n body => n + body.length + 2

/-- Removes the style opened last among those of a name. -/
def closeStyle (name : String) : List String → Option (List String)
  | [] => none
  | s :: opened => if s = name then some opened else (closeStyle name opened).map (s :: ·)

/-- Prints the parts from position `position` on, with the styles `opened` open. -/
def renderPieces (position : Nat) (opened : List String) :
    List Piece → Except MarkupFault (List Char)
  | [] => .ok []
  | p :: rest =>
    let next := position + p.width
    match p with
    -- a backslash in front of a bracket that opens no tag is taken away
    | .plain n (some '[') =>
      (renderPieces next opened rest).map (slashes (n - 1) ++ '[' :: ·)
    | .plain n c => (renderPieces next opened rest).map (slashes n ++ c.toList ++ ·)
    | .tag n body =>
      -- an odd number of backslashes: the last one makes the tag text
      if n % 2 = 1 then
        (renderPieces next opened rest).map (slashes (n / 2) ++ bracketed body ++ ·)
      else
        match body with
        | '/' :: closed =>
          let name := styleName closed
          if trim (String.ofList (closed.takeWhile (· ≠ '='))) = "" then
            match opened with
            | [] => .error ⟨none, position + n⟩
            | _ :: opened => (renderPieces next opened rest).map (slashes (n / 2) ++ ·)
          else
            match closeStyle name opened with
            | none => .error ⟨some (String.ofList (bracketed body)), position + n⟩
            | some opened => (renderPieces next opened rest).map (slashes (n / 2) ++ ·)
        | body => (renderPieces next (styleName body :: opened) rest).map (slashes (n / 2) ++ ·)

/-- The text as it is printed, or the tag in it that closes nothing. -/
def render (s : String) : Except MarkupFault String :=
  (renderPieces 0 [] (pieces s.toList)).map fun cs =>
    String.ofList (cs.filter fun c => !isDropped c)

/-- The text as it is printed; where a tag closes nothing, as it was written. -/
def shown (s : String) : String :=
  match render s with
  | .ok t => t
  | .error _ => s

/-- A text in the style of a name. -/
def styled (style text : String) : String := "[" ++ style ++ "]" ++ text ++ "[/" ++ style ++ "]"

end Converge.Markup
