/-
  Converge.Text.Similar
  ─────────────────────
  **HOW ALIKE TWO TEXTS ARE.**

  Two texts share a longest run of characters; left and right of it they share more in the same way.
  The characters shared, counted in both, over all characters of both, say how alike the texts are;
  from six tenths on one is suggested for the other.
-/

namespace Converge.Text

/-! ## §1. Shared runs. -/

/-- The length of the common start of two texts. -/
def commonStart : List Char → List Char → Nat
  | a :: as, b :: bs => if a = b then commonStart as bs + 1 else 0
  | _, _ => 0

/-- A run of characters that stands in two texts. -/
structure SharedRun where
  /-- Where it starts in the first. -/
  left : Nat
  /-- Where it starts in the second. -/
  right : Nat
  /-- How long it is. -/
  length : Nat
deriving DecidableEq, Repr

/-- The longest shared run; of several the first in the first text, then in the second. -/
def longestRun (as bs : List Char) : SharedRun :=
  (List.range as.length).foldl (fun best i =>
    (List.range bs.length).foldl (fun best j =>
      let n := commonStart (as.drop i) (bs.drop j)
      if best.length < n then ⟨i, j, n⟩ else best) best) ⟨0, 0, 0⟩

/-- How many characters two texts share: those of the longest run, and of what is left and right of it. -/
def sharedCount (as bs : List Char) : Nat :=
  let run := longestRun as bs
  if 0 < run.length ∧ run.left < as.length then
    run.length + sharedCount (as.take run.left) (bs.take run.right)
      + sharedCount (as.drop (run.left + run.length)) (bs.drop (run.right + run.length))
  else 0
termination_by as.length
decreasing_by
  all_goals
    obtain ⟨hn, hl⟩ := (‹_› : 0 < (longestRun as bs).length ∧ (longestRun as bs).left < as.length)
    simp only [List.length_take, List.length_drop]
    omega

/-! ## §2. Suggestions. -/

/-- A text with how much of it another one shares. -/
structure Likeness where
  /-- The text. -/
  name : String
  /-- Twice the characters shared. -/
  shared : Nat
  /-- The characters of both texts. -/
  total : Nat

/-- How alike a name is to what was written. -/
def likeness (written name : String) : Likeness :=
  ⟨name, 2 * sharedCount name.toList written.toList, name.length + written.length⟩

/-- Whether a name is alike enough to be suggested. -/
def Likeness.isClose (l : Likeness) : Bool := decide (6 * l.total ≤ 10 * l.shared)

/-- Whether the first name is suggested before the second: the more alike one, of equally alike ones
    the greater. -/
def Likeness.before (l m : Likeness) : Bool :=
  let a := l.shared * m.total
  let b := m.shared * l.total
  if a = b then decide (m.name ≤ l.name) else decide (b < a)

/-- How many names are suggested at most. -/
def suggestionLimit : Nat := 3

/-- The names to suggest for what was written, best first. -/
def suggestions (written : String) (names : List String) : List String :=
  ((((names.map (likeness written)).filter Likeness.isClose).mergeSort Likeness.before).take
    suggestionLimit).map (·.name)

end Converge.Text
