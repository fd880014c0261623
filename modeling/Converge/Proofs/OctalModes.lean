/-
  Converge.Proofs.OctalModes
  ──────────────────────────
  **WHICH TEXTS ARE READ AS A MODE.**

  A mode given as a text is meant to be an octal numeral: blanks around and capitals aside, one `0o` or none,
  and then the digits 0 to 7.  The reader takes off the `0o` and leaves the rest to the reader of integers,
  which has its own idea of what may stand before and between digits.  So every octal numeral is read with its
  value, but also a text that has a sign, an underscore, blanks, digits of another script or a second mark
  behind the first: all that is read beyond octal numerals is of this kind.

  Main results:
    * `spells_iff` — a text that is read is an octal numeral or a lax one;
    * `mode_text_octal_iff` — when exactly the texts in range that are octal numerals are accepted, which are
      accepted at all, and what is said of the others;
    * `twiceMarked_accepted` — a second mark is taken for none.
-/
import Converge.Proofs.Construction
import Converge.Proofs.Numerals

namespace Converge

open Converge.Number Converge.Text

namespace Field

variable {s : String} {i : Int} {cs body : List Char}

/-! ## §1. Octal numerals. -/

/-- A text as a mode is looked for in it: without the blanks around it, in lower case. -/
def plainForm (s : String) : List Char := (lower (trim s)).toList

/-- A digit of an octal numeral. -/
def OctalDigit (c : Char) : Prop := '0' ≤ c ∧ c ≤ '7'

/-- The number with these octal digits. -/
def octalValue (digits : List Char) : Nat := valueIn 8 (digits.map fun c => c.toNat - '0'.toNat)

/-- An octal numeral: one `0o` or none, and one or more digits. -/
inductive Octal (s : String) : Int → Prop where
  | intro {digits : List Char} (any : digits ≠ []) (octal : ∀ c ∈ digits, OctalDigit c)
      (form : plainForm s = digits ∨ plainForm s = '0' :: 'o' :: digits) :
      Octal s (octalValue digits)

/-- What stands behind one `0o`, or all of a text that does not start so. -/
inductive Unmarked : List Char → List Char → Prop where
  | marked (cs : List Char) : Unmarked ('0' :: 'o' :: cs) cs
  | bare {cs : List Char} (h : ∀ t, cs ≠ '0' :: 'o' :: t) : Unmarked cs cs

/-- A text that spells an integer in base 8 once a `0o` is taken off. -/
def Spells (s : String) (i : Int) : Prop := ∃ body, Unmarked (plainForm s) body ∧ Numeral 8 body i

/-- A lax numeral: it spells an integer, and behind the `0o` there is more than octal digits. -/
def Lax (s : String) (i : Int) : Prop :=
  ∃ body, Unmarked (plainForm s) body ∧ Numeral 8 body i ∧ ∃ c ∈ body, ¬ OctalDigit c

theorem Unmarked.unique {body' : List Char} (h : Unmarked cs body) (h' : Unmarked cs body') :
    body = body' := by
  cases h with
  | marked cs =>
    cases h' with
    | marked => rfl
    | bare h => exact absurd rfl (h _)
  | bare h =>
    cases h' with
    | marked => exact absurd rfl (h _)
    | bare => rfl

/-- A mode is what a text spells. -/
theorem octalMode?_eq_some_iff : octalMode? s = some i ↔ Spells s i := by
  have hread : ∀ body, Unmarked (plainForm s) body →
      octalMode? s = integer? 8 (String.ofList body) := by
    intro body hbody
    unfold octalMode?
    generalize htext : plainForm s = text at hbody
    rw [plainForm] at htext
    rw [htext]
    cases hbody with
    | marked => rfl
    | bare h =>
      dsimp only
      split
      · exact absurd rfl (h _)
      · rfl
  constructor
  · intro h
    by_cases hmark : ∃ t, plainForm s = '0' :: 'o' :: t
    · obtain ⟨t, ht⟩ := hmark
      have hbody : Unmarked (plainForm s) t := ht ▸ .marked t
      rw [hread t hbody, integer?_eq_some_iff, String.toList_ofList] at h
      exact ⟨t, hbody, h⟩
    · have hbody : Unmarked (plainForm s) (plainForm s) := .bare (not_exists.mp hmark)
      rw [hread _ hbody, integer?_eq_some_iff, String.toList_ofList] at h
      exact ⟨_, hbody, h⟩
  · rintro ⟨body, hbody, h⟩
    rw [hread body hbody, integer?_eq_some_iff, String.toList_ofList]
    exact h

/-- A text spells at most one integer. -/
theorem numeral_unique {base : Nat} {j : Int} (h : Numeral base cs i) (h' : Numeral base cs j) :
    i = j := by
  rw [← String.toList_ofList (l := cs), ← integer?_eq_some_iff] at h h'
  exact Option.some.inj (h.symm.trans h')

theorem digitIn?_of_octalDigit {c : Char} (h : OctalDigit c) :
    digitIn? 8 c = some (c.toNat - '0'.toNat) := by
  have hlow : 48 ≤ c.toNat := UInt32.le_iff_toNat_le.mp (Char.le_def.mp h.1)
  have hhigh : c.toNat ≤ 55 := UInt32.le_iff_toNat_le.mp (Char.le_def.mp h.2)
  have hvalue : digitValue? c = some (c.toNat - 48) := by
    rw [digitValue?, digitZeros, List.find?_cons_of_pos]
    · rfl
    · simp only [decide_eq_true_eq]
      omega
  rw [digitIn?, hvalue]
  exact Option.filter_some_pos (by simp only [decide_eq_true_eq]; omega)

theorem furtherDigits_of_octal (h : ∀ c ∈ cs, OctalDigit c) :
    FurtherDigits 8 cs (cs.map fun c => c.toNat - '0'.toNat) := by
  induction cs with
  | nil => exact .done
  | cons c cs ih =>
    rw [List.forall_mem_cons] at h
    exact .next (digitIn?_of_octalDigit h.1) (ih h.2)

/-- Octal digits spell their value. -/
theorem numeral_of_octal (hany : cs ≠ []) (hoctal : ∀ c ∈ cs, OctalDigit c) :
    Numeral 8 cs (octalValue cs) := by
  obtain ⟨c, rest, rfl⟩ := List.exists_cons_of_ne_nil hany
  rw [List.forall_mem_cons] at hoctal
  have hdigits : Digits 8 (c :: rest) ((c :: rest).map fun c => c.toNat - '0'.toNat) :=
    .intro (digitIn?_of_octalDigit hoctal.1) (furtherDigits_of_octal hoctal.2)
  have hblank : ∀ c ∈ ([] : List Char), isNumeralBlank c = true := nofun
  have h := Numeral.intro hblank hblank .none .none hdigits
  rw [List.append_nil] at h
  exact h

theorem numeral_ne_nil {base : Nat} (h : Numeral base cs i) : cs ≠ [] := by
  obtain ⟨-, -, -, -, digits⟩ := h
  obtain ⟨c, rest, d, rfl, -⟩ := digits.head
  simp

/-- Octal digits have no mark. -/
theorem unmarked_of_octal (hoctal : ∀ c ∈ cs, OctalDigit c) : Unmarked cs cs := by
  refine .bare fun t heq => ?_
  have hletter : OctalDigit 'o' := hoctal 'o' (by simp [heq])
  exact absurd hletter.2 (by decide)

/-- An octal numeral is the digits that stand behind its mark. -/
theorem Octal.unmarked (h : Octal s i) :
    ∃ digits, digits ≠ [] ∧ (∀ c ∈ digits, OctalDigit c) ∧ Unmarked (plainForm s) digits ∧
      i = octalValue digits := by
  obtain ⟨hany, hoctal, hform⟩ := h
  refine ⟨_, hany, hoctal, ?_, rfl⟩
  obtain hbare | hmarked := hform
  · rw [hbare]
    exact unmarked_of_octal hoctal
  · rw [hmarked]
    exact .marked _

/-- **What a text spells**, it spells as an octal numeral or as a lax one. -/
theorem spells_iff : Spells s i ↔ Octal s i ∨ Lax s i := by
  constructor
  · rintro ⟨body, hbody, hnumeral⟩
    by_cases hoctal : ∀ c ∈ body, OctalDigit c
    · left
      have hany := numeral_ne_nil hnumeral
      rw [numeral_unique hnumeral (numeral_of_octal hany hoctal)]
      refine .intro hany hoctal ?_
      generalize plainForm s = text at hbody
      cases hbody with
      | marked => exact .inr rfl
      | bare => exact .inl rfl
    · right
      simp only [not_forall] at hoctal
      obtain ⟨c, hc, hno⟩ := hoctal
      exact ⟨body, hbody, hnumeral, c, hc, hno⟩
  · rintro (hoctal | ⟨body, hbody, hnumeral, -⟩)
    · obtain ⟨digits, hany, hdigits, hbody, rfl⟩ := hoctal.unmarked
      exact ⟨digits, hbody, numeral_of_octal hany hdigits⟩
    · exact ⟨body, hbody, hnumeral⟩

/-- No text is both. -/
theorem not_octal_of_lax {j : Int} (h : Lax s i) : ¬ Octal s j := by
  obtain ⟨body, hbody, -, c, hc, hno⟩ := h
  intro hoctal
  obtain ⟨digits, -, hdigits, hbody', -⟩ := hoctal.unmarked
  rw [hbody.unique hbody'] at hc
  exact hno (hdigits c hc)

/-! ## §2. Modes. -/

/-- The range of modes. -/
def InRange (i : Int) : Prop := 0 ≤ i ∧ i ≤ 0o7777

/-- What is said of a text that is not taken for a mode. -/
inductive Complaint (s : String) : String → Prop where
  /-- It spells no integer. -/
  | unreadable (h : ∀ i, ¬ Octal s i ∧ ¬ Lax s i) :
      Complaint s ("Value error, modo octal inválido: " ++ quote s)
  /-- What it spells is too small or too great. -/
  | outOfRange {i : Int} (h : Octal s i ∨ Lax s i) (out : ¬ InRange i) :
      Complaint s "Value error, el modo debe estar entre 0 y 7777 (octal)"

theorem readMode_bind (v : Value) :
    readMode v = match readWhole v with
      | .error message => .error message
      | .ok i =>
        if 0 ≤ i ∧ i ≤ maxMode then .ok i
        else .error "Value error, el modo debe estar entre 0 y 7777 (octal)" := by
  unfold readMode
  cases readWhole v with
  | error message => rfl
  | ok i =>
    simp only [bind, Except.bind]
    split <;> rfl

/-- A mode is a whole number in range. -/
theorem readMode_eq_ok_iff {v : Value} : readMode v = .ok i ↔ readWhole v = .ok i ∧ InRange i := by
  rw [readMode_bind]
  cases readWhole v with
  | error message => simp
  | ok j =>
    dsimp only
    split
    · rename_i hrange
      rw [Except.ok.injEq]
      constructor
      · rintro rfl
        exact ⟨rfl, hrange⟩
      · exact fun h => h.1
    · rename_i hrange
      simp only [reduceCtorEq, Except.ok.injEq, false_iff]
      rintro ⟨rfl, hin⟩
      exact hrange hin

theorem readWhole_text (s : String) :
    readWhole (.text s) = match octalMode? s with
      | some i => .ok i
      | none => .error ("Value error, modo octal inválido: " ++ quote s) := by
  cases hread : octalMode? s with
  | some i =>
    delta readWhole
    simp only [hread]
  | none =>
    delta readWhole
    simp only [hread]

theorem readWhole_text_ok_iff : readWhole (.text s) = .ok i ↔ Spells s i := by
  rw [readWhole_text, ← octalMode?_eq_some_iff]
  cases octalMode? s <;> simp

/-- A mode given as a text is what the text spells, if that is in range. -/
theorem readMode_text_ok_iff :
    readMode (.text s) = .ok i ↔ InRange i ∧ (Octal s i ∨ Lax s i) := by
  rw [readMode_eq_ok_iff, readWhole_text_ok_iff, spells_iff, and_comm]

/-- What is said of a text that is not accepted. -/
theorem readMode_text_error_iff {message : String} :
    readMode (.text s) = .error message ↔ Complaint s message := by
  have hspells : ∀ i, octalMode? s = some i ↔ Octal s i ∨ Lax s i :=
    fun i => octalMode?_eq_some_iff.trans spells_iff
  rw [readMode_bind, readWhole_text]
  cases hread : octalMode? s with
  | none =>
    have hnone : ∀ i, ¬ Octal s i ∧ ¬ Lax s i := by
      intro i
      rw [← not_or, ← hspells, hread]
      nofun
    dsimp only
    constructor
    · intro h
      cases h
      exact .unreadable hnone
    · rintro (_ | ⟨h, -⟩)
      · rfl
      · exact absurd h (not_or.mpr (hnone _))
  | some i =>
    have hi := (hspells i).mp hread
    dsimp only
    constructor
    · intro h
      split at h
      · cases h
      · rename_i hout
        cases h
        exact .outOfRange hi hout
    · rintro (h | ⟨h, hout⟩)
      · exact absurd hi (not_or.mpr (h i))
      · rename_i j
        have hj := (hspells j).mpr h
        rw [hread] at hj
        cases hj
        exact if_neg hout

end Field

namespace Declaration

/-- A declaration of nothing but a mode. -/
theorem read_mode_only (id : String) {v : Value} (h : v ≠ .null) :
    read .file id (.mapping [(.text "mode", v)]) = match Field.readMode v with
      | .ok i => .ok { mode := .given i }
      | .error message => .error (.declaration id (.badFields [("mode", message)])) := by
  have hfind (f : Field) : Mapping.find? f.name [(.text "mode", v)] =
      if f = .mode then some v else none := by
    cases f <;> rfl
  have hall : Reading.all .file [(.text "mode", v)] = match Field.readMode v with
      | .ok i => ⟨{ mode := .given i }, []⟩
      | .error message => ⟨{}, [("mode", message)]⟩ := by
    have hkeys (r : Reading) : Reading.key .file r (.text "mode", v) = r := rfl
    rw [Reading.all, List.foldl_cons, List.foldl_nil, hkeys]
    simp only [Schema.fields, List.foldl_cons, List.foldl_nil, Reading.field, hfind, readField]
    cases hmode : Field.readMode v with
    | ok i => simp [Slot.read, hmode, Except.map]
    | error message => simp [Slot.read, hmode, Except.map, report, Field.name]
  have hread : read .file id (.mapping [(.text "mode", v)]) =
      if (Reading.all .file [(.text "mode", v)]).errors.isEmpty
        then .ok (Reading.all .file [(.text "mode", v)]).declaration
        else .error (.declaration id
          (.badFields (Reading.all .file [(.text "mode", v)]).errors)) := rfl
  rw [hread, hall]
  cases Field.readMode v <;> rfl

/-- A text is taken for a mode only if it is an octal numeral, in range and with its value. -/
def OctalOnly (id s : String) : Prop :=
  ∀ d, read .file id (.mapping [(.text "mode", .text s)]) = .ok d ↔
    ∃ i, d = { mode := .given i } ∧ Field.InRange i ∧ Field.Octal s i

/-- **A mode given as a text.**  It is taken for octal numerals only, and for all of them in range, exactly
    if it is no lax numeral in range.  A text is accepted if what it spells is in range, as an octal numeral
    or as a lax one, and the mode is then what it spells; of any other text, the refusal names the mode and
    nothing else, and says whether no integer is spelled or one out of range. -/
theorem mode_text_octal_iff (id s : String) :
    (OctalOnly id s ↔ ∀ i, Field.Lax s i → ¬ Field.InRange i) ∧
    (∀ d, read .file id (.mapping [(.text "mode", .text s)]) = .ok d ↔
      ∃ i, d = { mode := .given i } ∧ Field.InRange i ∧ (Field.Octal s i ∨ Field.Lax s i)) ∧
    ∀ f, read .file id (.mapping [(.text "mode", .text s)]) = .error f ↔
      ∃ message, f = .declaration id (.badFields [("mode", message)]) ∧ Field.Complaint s message := by
  have hread := read_mode_only id (v := .text s) nofun
  have hok : ∀ d, read .file id (.mapping [(.text "mode", .text s)]) = .ok d ↔
      ∃ i, d = { mode := .given i } ∧ Field.InRange i ∧ (Field.Octal s i ∨ Field.Lax s i) := by
    intro d
    simp only [← Field.readMode_text_ok_iff]
    rw [hread]
    cases Field.readMode (.text s) with
    | ok i => simp [eq_comm]
    | error message => simp
  refine ⟨⟨?_, ?_⟩, hok, ?_⟩
  · intro honly i hlax hrange
    obtain ⟨j, hd, -, hoctal⟩ := (honly _).mp ((hok _).mpr ⟨i, rfl, hrange, .inr hlax⟩)
    exact Field.not_octal_of_lax hlax hoctal
  · intro hnone d
    rw [hok]
    constructor
    · rintro ⟨i, hd, hrange, hoctal | hlax⟩
      · exact ⟨i, hd, hrange, hoctal⟩
      · exact absurd hrange (hnone i hlax)
    · rintro ⟨i, hd, hrange, hoctal⟩
      exact ⟨i, hd, hrange, .inl hoctal⟩
  · intro f
    simp only [← Field.readMode_text_error_iff]
    rw [hread]
    cases Field.readMode (.text s) with
    | ok i => simp
    | error message => simp [eq_comm]

/-- A second `0o` is taken for none: the text is no octal numeral, and is read as 0644. -/
theorem twiceMarked_accepted :
    read .file "file[/motd]" (.mapping [(.text "mode", .text "0o0o644")]) =
      .ok { mode := .given 0o644 } ∧
    (∀ i, ¬ Field.Octal "0o0o644" i) ∧ ¬ OctalOnly "file[/motd]" "0o0o644" := by
  have haccepted : read .file "file[/motd]" (.mapping [(.text "mode", .text "0o0o644")]) =
      .ok { mode := .given 0o644 } := rfl
  have hnot : ∀ i, ¬ Field.Octal "0o0o644" i := by
    rintro i ⟨-, hoctal, hform⟩
    have hplain : Field.plainForm "0o0o644" = ['0', 'o', '0', 'o', '6', '4', '4'] := by decide
    rw [hplain] at hform
    have hletter : Field.OctalDigit 'o' := by
      obtain rfl | hbehind := hform
      · exact hoctal 'o' (by simp)
      · obtain rfl := (List.cons.inj (List.cons.inj hbehind).2).2
        exact hoctal 'o' (by simp)
    exact absurd hletter.2 (by decide)
  refine ⟨haccepted, hnot, fun honly => ?_⟩
  obtain ⟨i, -, -, hoctal⟩ := (honly _).mp haccepted
  exact hnot i hoctal

end Declaration

end Converge
