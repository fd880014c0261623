/-
  Converge.Proofs.Names
  ─────────────────────
  **PATHS AS TEXT.**

  The characters of the names of a path are characters of the path, so rewriting a path in normal form
  brings in nothing new but dots and slashes.  A path in normal form is told by its names.
-/
import Converge.Machine.Account
import Converge.Path

namespace Converge

open Converge.Machine

/-! ## §1. Characters. -/

/-- The parts between separators hold no other characters than the text. -/
theorem mem_of_mem_splitOn {sep c : Char} : ∀ {cs w : List Char}, w ∈ splitOn sep cs → c ∈ w → c ∈ cs
  | [], w, hw, hc => by
      rw [splitOn, List.mem_singleton] at hw
      rw [hw] at hc
      exact hc
  | d :: cs, w, hw, hc => by
      rw [splitOn] at hw
      by_cases hd : d = sep
      · rw [if_pos hd, List.mem_cons] at hw
        rcases hw with rfl | hw
        · cases hc
        · exact List.mem_cons_of_mem d (mem_of_mem_splitOn hw hc)
      · rw [if_neg hd] at hw
        match hs : splitOn sep cs with
        | [] =>
          rw [hs] at hw
          simp only [List.mem_singleton] at hw
          subst hw
          rw [List.mem_singleton.mp hc]
          exact List.mem_cons_self
        | u :: us =>
          rw [hs] at hw
          simp only [List.mem_cons] at hw
          rcases hw with rfl | hw
          · rcases List.mem_cons.mp hc with rfl | hc
            · exact List.mem_cons_self
            · exact List.mem_cons_of_mem d (mem_of_mem_splitOn (hs ▸ List.mem_cons_self) hc)
          · exact List.mem_cons_of_mem d (mem_of_mem_splitOn (hs ▸ List.mem_cons_of_mem u hw) hc)

/-- A name of a path holds no other characters than the path. -/
theorem mem_of_mem_namesOf {path name : String} {c : Char} (hn : name ∈ namesOf path)
    (hc : c ∈ name.toList) : c ∈ path.toList := by
  unfold namesOf at hn
  obtain ⟨w, hw, rfl⟩ := List.mem_map.mp hn
  rw [String.toList_ofList] at hc
  exact mem_of_mem_splitOn (List.mem_filter.mp hw).1 hc

/-- Names joined by a separator hold no other characters than the names and the separator. -/
theorem mem_intercalate (sep : Char) {c : Char} : ∀ {ls : List (List Char)}, c ∈ [sep].intercalate ls →
    c = sep ∨ ∃ l ∈ ls, c ∈ l
  | [], h => by cases h
  | [l], h => by
      rw [List.intercalate_singleton] at h
      exact Or.inr ⟨l, List.mem_cons_self, h⟩
  | l :: l' :: ls, h => by
      rw [List.intercalate_cons_cons, List.append_assoc, List.mem_append, List.mem_append,
        List.mem_singleton] at h
      rcases h with h | h | h
      · exact Or.inr ⟨l, List.mem_cons_self, h⟩
      · exact Or.inl h
      · rcases mem_intercalate sep h with h | ⟨l'', hl, h⟩
        · exact Or.inl h
        · exact Or.inr ⟨l'', List.mem_cons_of_mem l hl, h⟩

theorem hasNul_eq_false {s : String} : hasNul s = false ↔ '\x00' ∉ s.toList := by
  unfold hasNul
  simp

/-- **The normal form of a path without NUL holds none.** -/
theorem hasNul_toString_ofString {path : String} (h : hasNul path = false) :
    hasNul (Path.ofString path).toString = false := by
  rw [hasNul_eq_false] at h ⊢
  intro hmem
  unfold Path.toString at hmem
  split at hmem
  · revert hmem
    decide
  · rw [String.toList_append, List.mem_append, String.toList_intercalate] at hmem
    rcases hmem with hmem | hmem
    · cases hanchor : (Path.ofString path).anchor <;> rw [hanchor] at hmem <;> revert hmem <;> decide
    · rcases mem_intercalate '/' hmem with hslash | ⟨l, hl, hc⟩
      · revert hslash
        decide
      · obtain ⟨name, hname, rfl⟩ := List.mem_map.mp hl
        exact h (mem_of_mem_namesOf (List.mem_filter.mp hname).1 hc)

end Converge
