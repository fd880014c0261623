/-
  Converge.Text.Boundary
  ──────────────────────
  **SETS OF CHARACTERS GIVEN BY THEIR BOUNDARIES.**

  A property of characters that holds on a few hundred ranges is written as the increasing list of
  the code points where it changes: it starts as false at code point 0 and flips at each entry.
  A character has the property exactly when an odd number of entries lie at or below it.
-/

namespace Converge.Text

/-- Whether the property with these boundaries holds at code point `n`. -/
def holdsBetween (boundaries : List Nat) (n : Nat) : Bool :=
  match boundaries with
  | [] => false
  | b :: rest => if n < b then false else !holdsBetween rest n

end Converge.Text
