/-
  Converge.Proofs.Pairs
  ─────────────────────
  **LOOKING UP A KEY AMONG PAIRS.**

  A look-up gives the value of the first pair with the key.  Where no text is a key twice, it gives the
  value of the one pair that has it, so the order of the pairs does not matter.

  Main results:
    * `find?_append`, `find?_eq_none_iff` — what a look-up gives, pair by pair;
    * `find?_perm` — a look-up does not depend on the order of a mapping;
    * `proper_middle_iff` — a pair with a new text key goes anywhere into a mapping.
-/
import Converge.Value.Basic

namespace Converge

/-! ## §1. Texts among keys. -/

namespace Value

/-- A text is no other key than itself. -/
theorem sameKey_text {text : String} {k : Value} (h : k ≠ .text text) :
    sameKey (.text text) k = false := by
  cases k with
  | text s =>
    have hne : text ≠ s := fun heq => h (congrArg Value.text heq.symm)
    simp [sameKey, sameAtom, hne]
  | tuple items => simp [sameKey]
  | _ => simp [sameKey, sameAtom, wholeNumber?]

theorem sameKey_text_right {text : String} {k : Value} (h : k ≠ .text text) :
    sameKey k (.text text) = false := by
  cases k with
  | text s =>
    have hne : s ≠ text := fun heq => h (congrArg Value.text heq)
    simp [sameKey, sameAtom, hne]
  | tuple items => simp [sameKey]
  | _ => simp [sameKey, sameAtom, wholeNumber?]

end Value

namespace Mapping

variable {key : String} {pairs rest before after : Mapping} {p : Value × Value} {k v : Value}

/-! ## §2. Look-ups. -/

theorem find?_cons_of_ne (h : k ≠ .text key) : find? key ((k, v) :: rest) = find? key rest := by
  cases k with
  | text s =>
    have hne : s ≠ key := fun heq => h (congrArg Value.text heq)
    rw [find?_cons_text, if_neg hne]
  | _ => rfl

theorem find?_append : find? key (pairs ++ rest) = (find? key pairs).or (find? key rest) := by
  induction pairs with
  | nil => rfl
  | cons p pairs ih =>
    obtain ⟨k, v⟩ := p
    by_cases hk : k = .text key
    · subst hk
      simp only [List.cons_append, find?_cons_text, if_true, Option.some_or]
    · rw [List.cons_append, find?_cons_of_ne hk, find?_cons_of_ne hk, ih]

theorem find?_eq_none_iff : find? key pairs = none ↔ ∀ p ∈ pairs, p.1 ≠ .text key := by
  induction pairs with
  | nil => simp
  | cons p pairs ih =>
    obtain ⟨k, v⟩ := p
    rw [List.forall_mem_cons]
    by_cases hk : k = .text key
    · subst hk
      simp [find?_cons_text]
    · rw [find?_cons_of_ne hk, ih]
      exact ⟨fun h => ⟨hk, h⟩, fun h => h.2⟩

theorem mem_of_find? (h : find? key pairs = some v) : (.text key, v) ∈ pairs := by
  induction pairs with
  | nil => cases h
  | cons p pairs ih =>
    obtain ⟨k, w⟩ := p
    by_cases hk : k = .text key
    · subst hk
      rw [find?_cons_text, if_pos rfl] at h
      cases h
      exact List.mem_cons_self
    · rw [find?_cons_of_ne hk] at h
      exact List.mem_cons_of_mem _ (ih h)

/-! ## §3. Mappings. -/

/-- No text is a key twice. -/
def Distinct (pairs : Mapping) : Prop :=
  pairs.Pairwise fun p q => ∀ key, p.1 = .text key → q.1 ≠ .text key

theorem Distinct.perm (h : Distinct pairs) (hperm : pairs.Perm rest) : Distinct rest := by
  refine (hperm.pairwise_iff ?_).mp h
  intro p q hpq key hq hp
  exact hpq key hp hq

/-- In a mapping a look-up finds the one pair with the key. -/
theorem find?_eq_some_iff (h : Distinct pairs) :
    find? key pairs = some v ↔ (.text key, v) ∈ pairs := by
  refine ⟨mem_of_find?, ?_⟩
  induction pairs with
  | nil => nofun
  | cons p pairs ih =>
    obtain ⟨k, w⟩ := p
    obtain ⟨hfirst, hrest⟩ := List.pairwise_cons.mp h
    intro hmem
    rcases List.mem_cons.mp hmem with heq | hmem
    · cases heq
      rw [find?_cons_text, if_pos rfl]
    · -- the key of a later pair is not the first one
      have hk : k ≠ .text key := fun hk => hfirst _ hmem key hk rfl
      rw [find?_cons_of_ne hk]
      exact ih hrest hmem

/-- **A look-up does not depend on the order of a mapping.** -/
theorem find?_perm (h : Distinct pairs) (hperm : pairs.Perm rest) :
    find? key pairs = find? key rest := by
  cases hfound : find? key rest with
  | none =>
    rw [find?_eq_none_iff] at hfound ⊢
    exact fun p hp => hfound p (hperm.mem_iff.mp hp)
  | some v =>
    rw [find?_eq_some_iff (h.perm hperm)] at hfound
    rw [find?_eq_some_iff h]
    exact hperm.mem_iff.mpr hfound

/-- Every key can be one, and no two are the same. -/
structure Proper (pairs : Mapping) : Prop where
  keys : ∀ p ∈ pairs, p.1.isKey = true
  apart : pairs.Pairwise fun p q => p.1.sameKey q.1 = false

theorem Proper.sublist (h : Proper pairs) (hsub : rest.Sublist pairs) : Proper rest where
  keys p hp := h.keys p (hsub.mem hp)
  apart := h.apart.sublist hsub

/-- A pair whose key is a new text goes anywhere into a mapping. -/
theorem proper_middle_iff (hp : p.1 = .text key) (hnew : ∀ q ∈ before ++ after, q.1 ≠ .text key) :
    Proper (before ++ p :: after) ↔ Proper (before ++ after) := by
  constructor
  · intro h
    exact h.sublist ((List.Sublist.refl before).append (List.sublist_cons_self p after))
  · intro h
    obtain ⟨hbefore, hafter, hacross⟩ := List.pairwise_append.mp h.apart
    have hmem : ∀ q, q ∈ before ++ p :: after → q = p ∨ q ∈ before ++ after := by
      intro q hq
      rcases List.mem_append.mp hq with hq | hq
      · exact .inr (List.mem_append_left _ hq)
      · rcases List.mem_cons.mp hq with rfl | hq
        · exact .inl rfl
        · exact .inr (List.mem_append_right _ hq)
    refine ⟨?_, List.pairwise_append.mpr ⟨hbefore, List.pairwise_cons.mpr ⟨?_, hafter⟩, ?_⟩⟩
    · intro q hq
      rcases hmem q hq with rfl | hq
      · rw [hp]
        rfl
      · exact h.keys q hq
    · intro q hq
      rw [hp]
      exact Value.sameKey_text (hnew q (List.mem_append_right _ hq))
    · intro q hq q' hq'
      rcases List.mem_cons.mp hq' with rfl | hq'
      · rw [hp]
        exact Value.sameKey_text_right (hnew q (List.mem_append_left _ hq))
      · exact hacross q hq q' hq'

end Mapping

end Converge
