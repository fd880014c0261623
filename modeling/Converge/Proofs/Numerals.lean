/-
  Converge.Proofs.Numerals
  ────────────────────────
  **WHICH TEXTS SPELL AN INTEGER.**

  A numeral is described here by its parts: blanks, a sign, the mark of its base, and digits with single
  underscores between them.  Its value is that of the digits in the base.  The reader of integers walks over
  the text with the number read so far and drops the parts as it meets them; it takes the texts so described
  and no other, and gives their value.

  Main results:
    * `digits?_eq_some_iff` — the reader of digits;
    * `exists_trimBy`, `trimBy_append` — what trimming leaves;
    * `integer?_eq_some_iff` — the reader of integers.
-/
import Mathlib.Data.List.TakeWhile
import Mathlib.Data.Nat.Digits.Defs
import Mathlib.Tactic.Ring
import Converge.Number.Numeral

namespace Converge.Text

/-! ## §1. Trimming. -/

section Trimming

variable {p : Char → Bool} {front core back cs : List Char}

theorem dropWhile_append_of_all (hfront : ∀ c ∈ front, p c = true) (cs : List Char) :
    (front ++ cs).dropWhile p = cs.dropWhile p := by
  induction front with
  | nil => rfl
  | cons c front ih =>
    rw [List.forall_mem_cons] at hfront
    rw [List.cons_append, List.dropWhile_cons_of_pos hfront.1, ih hfront.2]

theorem dropWhile_of_none (h : ∀ c ∈ cs, p c = false) : cs.dropWhile p = cs := by
  cases cs with
  | nil => rfl
  | cons c cs => exact List.dropWhile_cons_of_neg (by simp [h c List.mem_cons_self])

/-- Trimming drops what stands around a text without characters of the class. -/
theorem trimBy_append (hfront : ∀ c ∈ front, p c = true) (hback : ∀ c ∈ back, p c = true)
    (hcore : ∀ c ∈ core, p c = false) : trimBy p (front ++ core ++ back) = core := by
  have hback' : ∀ c ∈ back.reverse, p c = true := fun c hc => hback c (List.mem_reverse.mp hc)
  have hcore' : ∀ c ∈ core.reverse, p c = false := fun c hc => hcore c (List.mem_reverse.mp hc)
  unfold trimBy
  rw [List.append_assoc, dropWhile_append_of_all hfront]
  cases core with
  | nil =>
    -- nothing is left of the text behind the blanks either
    have hnone : back.dropWhile p = [] := List.dropWhile_eq_nil_iff.mpr hback
    rw [List.nil_append, hnone]
    rfl
  | cons c core =>
    have hstays : (c :: core ++ back).dropWhile p = c :: core ++ back :=
      List.dropWhile_cons_of_neg (by simp [hcore c List.mem_cons_self])
    rw [hstays, List.reverse_append, dropWhile_append_of_all hback', dropWhile_of_none hcore',
      List.reverse_reverse]

/-- A text is what trimming leaves of it with characters of the class around. -/
theorem exists_trimBy (p : Char → Bool) (cs : List Char) :
    ∃ front back, cs = front ++ trimBy p cs ++ back ∧ (∀ c ∈ front, p c = true) ∧
      ∀ c ∈ back, p c = true := by
  refine ⟨cs.takeWhile p, ((cs.dropWhile p).reverse.takeWhile p).reverse, ?_, ?_, ?_⟩
  · have hsplit : trimBy p cs ++ ((cs.dropWhile p).reverse.takeWhile p).reverse =
        cs.dropWhile p := by
      rw [trimBy, ← List.reverse_append, List.takeWhile_append_dropWhile, List.reverse_reverse]
    rw [List.append_assoc, hsplit, List.takeWhile_append_dropWhile]
  · intro c hc
    exact List.mem_takeWhile_imp hc
  · intro c hc
    exact List.mem_takeWhile_imp (List.mem_reverse.mp hc)

end Trimming

end Converge.Text

namespace Converge.Number

open Converge.Text

variable {base : Nat} {cs written : List Char} {ds : List Nat} {i : Int} {n : Nat}

/-! ## §2. Digits. -/

/-- What may follow a digit: more digits, each with at most one underscore before it. -/
inductive FurtherDigits (base : Nat) : List Char → List Nat → Prop where
  /-- Nothing more. -/
  | done : FurtherDigits base [] []
  /-- A digit right behind. -/
  | next {c : Char} {d : Nat} {cs : List Char} {ds : List Nat} (digit : digitIn? base c = some d)
      (more : FurtherDigits base cs ds) : FurtherDigits base (c :: cs) (d :: ds)
  /-- A digit behind an underscore. -/
  | gap {c : Char} {d : Nat} {cs : List Char} {ds : List Nat} (digit : digitIn? base c = some d)
      (more : FurtherDigits base cs ds) : FurtherDigits base ('_' :: c :: cs) (d :: ds)

/-- One or more digits with single underscores between them, and their values. -/
inductive Digits (base : Nat) : List Char → List Nat → Prop where
  | intro {c : Char} {d : Nat} {cs : List Char} {ds : List Nat} (first : digitIn? base c = some d)
      (more : FurtherDigits base cs ds) : Digits base (c :: cs) (d :: ds)

/-- The number with these digits, the greatest first. -/
def valueIn (base : Nat) (ds : List Nat) : Nat := Nat.ofDigits base ds.reverse

/-- The first two digits may be taken for one of a greater value. -/
theorem valueIn_cons_cons (base acc d : Nat) (ds : List Nat) :
    valueIn base (acc :: d :: ds) = valueIn base ((acc * base + d) :: ds) := by
  simp only [valueIn, List.reverse_cons, List.append_assoc, Nat.ofDigits_append,
    Nat.ofDigits_singleton, List.length_reverse]
  rw [List.length_singleton, pow_one]
  ring

theorem digitIn?_eq_none {c : Char} (hdecimal : digitValue? c = none)
    (hsmall : ¬ ('a' ≤ c ∧ c ≤ 'z')) (hgreat : ¬ ('A' ≤ c ∧ c ≤ 'Z')) : digitIn? base c = none := by
  simp only [digitIn?, hdecimal, if_neg hsmall, if_neg hgreat, Option.filter_none]

theorem digitIn?_underscore (base : Nat) : digitIn? base '_' = none :=
  digitIn?_eq_none (by decide) (by decide) (by decide)

/-- Reading goes on over exactly what may follow a digit. -/
theorem moreDigits?_eq_some_iff {acc : Nat} :
    moreDigits? base acc cs = some n ↔
      ∃ ds, FurtherDigits base cs ds ∧ valueIn base (acc :: ds) = n := by
  constructor
  · intro h
    induction acc, cs using moreDigits?.induct with
    | base => exact base
    | case1 acc =>
      cases h
      exact ⟨[], .done, by simp [valueIn]⟩
    | case2 acc c rest ih =>
      obtain ⟨d, hd, hrest⟩ := Option.bind_eq_some_iff.mp h
      obtain ⟨ds, hmore, hvalue⟩ := ih d hrest
      exact ⟨d :: ds, .gap hd hmore, by rw [valueIn_cons_cons, hvalue]⟩
    | case3 acc c rest hgap ih =>
      rw [moreDigits?] at h
      · obtain ⟨d, hd, hrest⟩ := Option.bind_eq_some_iff.mp h
        obtain ⟨ds, hmore, hvalue⟩ := ih d hrest
        exact ⟨d :: ds, .next hd hmore, by rw [valueIn_cons_cons, hvalue]⟩
      · exact hgap
  · rintro ⟨ds, hmore, hvalue⟩
    induction hmore generalizing acc with
    | done => rw [← hvalue]; simp [moreDigits?, valueIn]
    | @next c d cs ds digit more ih =>
      rw [valueIn_cons_cons] at hvalue
      have hc : c ≠ '_' := by
        rintro rfl
        rw [digitIn?_underscore] at digit
        cases digit
      rw [moreDigits?, digit, Option.bind_some, ih hvalue]
      intro e rest heq
      exact absurd heq hc
    | gap digit more ih =>
      rw [valueIn_cons_cons] at hvalue
      rw [moreDigits?, digit, Option.bind_some, ih hvalue]

/-- **The reader of digits** takes digits with single underscores between them, and gives their value. -/
theorem digits?_eq_some_iff :
    digits? base cs = some n ↔ ∃ ds, Digits base cs ds ∧ valueIn base ds = n := by
  cases cs with
  | nil =>
    constructor
    · nofun
    · rintro ⟨ds, ⟨⟩, -⟩
  | cons c cs =>
    simp only [digits?, Option.bind_eq_some_iff, moreDigits?_eq_some_iff]
    constructor
    · rintro ⟨d, hd, ds, hmore, hvalue⟩
      exact ⟨d :: ds, .intro hd hmore, hvalue⟩
    · rintro ⟨_, ⟨hd, hmore⟩, hvalue⟩
      exact ⟨_, hd, _, hmore, hvalue⟩

/-! ## §3. What is no digit. -/

theorem digitValue?_of_isBlank {c : Char} (h : isBlank c = true) : digitValue? c = none := by
  have hzeros : ∀ z ∈ digitZeros, (0x30 ≤ z ∧ z + 10 ≤ 0x85) ∨ (0xa0 < z ∧ z + 10 ≤ 0x1680) ∨
      (0x1680 < z ∧ z + 10 ≤ 0x2000) ∨ 0x3000 < z := by decide
  unfold digitValue?
  rw [Option.map_eq_none_iff, List.find?_eq_none]
  intro z hz
  have := hzeros z hz
  simp [isBlank] at h
  simp
  omega

/-- Blanks are no digits. -/
theorem digitIn?_of_isNumeralBlank {c : Char} (h : isNumeralBlank c = true) :
    digitIn? base c = none := by
  simp only [isNumeralBlank, Bool.and_eq_true] at h
  have hblank := h.1
  refine digitIn?_eq_none (digitValue?_of_isBlank hblank) ?_ ?_
  · rintro ⟨hlow, hhigh⟩
    have hlow : 97 ≤ c.toNat := UInt32.le_iff_toNat_le.mp (Char.le_def.mp hlow)
    have hhigh : c.toNat ≤ 122 := UInt32.le_iff_toNat_le.mp (Char.le_def.mp hhigh)
    simp [isBlank] at hblank
    omega
  · rintro ⟨hlow, hhigh⟩
    have hlow : 65 ≤ c.toNat := UInt32.le_iff_toNat_le.mp (Char.le_def.mp hlow)
    have hhigh : c.toNat ≤ 90 := UInt32.le_iff_toNat_le.mp (Char.le_def.mp hhigh)
    simp [isBlank] at hblank
    omega

/-- A character whose lower case is a letter is that letter or its capital. -/
theorem eq_or_eq_of_toLower {l c : Char} (h : l.toLower = c) :
    l = c ∨ l = Char.ofNat (c.toNat - 32) := by
  unfold Char.toLower at h
  split at h
  · rename_i hcapital
    right
    have hcode : l.toNat + 32 = c.toNat := by
      have hbound : l.toNat ≤ 90 := UInt32.le_iff_toNat_le.mp hcapital.2
      rw [← h]
      change l.toNat + 32 = UInt32.toNat (l.val + 32)
      rw [UInt32.toNat_add, Char.toNat_val]
      exact (Nat.mod_eq_of_lt (by simp; omega)).symm
    rw [← hcode, Nat.add_sub_cancel, Char.ofNat_toNat]
  · exact .inl h

/-- The letter of a base is no digit in it. -/
theorem digitIn?_of_letter {l : Char} (h : prefixLetter? base = some l.toLower) :
    digitIn? base l = none := by
  unfold prefixLetter? at h
  split at h
  case h_4 => cases h
  all_goals
    obtain rfl | rfl := eq_or_eq_of_toLower (Option.some.inj h).symm <;> decide

/-! ## §4. Integers. -/

/-- A sign or none, and what it makes of a number. -/
inductive Sign : List Char → (Nat → Int) → Prop where
  | none : Sign [] Int.ofNat
  | plus : Sign ['+'] Int.ofNat
  | minus : Sign ['-'] fun n => -(n : Int)

/-- The mark of a base or none: a zero of any script and the letter of the base, and at most one underscore
    behind them. -/
inductive Mark (base : Nat) : List Char → Prop where
  | none : Mark base []
  | letter {z l : Char} (zero : digitValue? z = some 0)
      (letter : prefixLetter? base = some l.toLower) : Mark base [z, l]
  | gap {z l : Char} (zero : digitValue? z = some 0)
      (letter : prefixLetter? base = some l.toLower) : Mark base [z, l, '_']

/-- A text that spells an integer: a sign, the mark of the base and digits, with blanks around. -/
inductive Numeral (base : Nat) : List Char → Int → Prop where
  | intro {front minus mark written back : List Char} {signed : Nat → Int} {ds : List Nat}
      (before : ∀ c ∈ front, isNumeralBlank c = true) (after : ∀ c ∈ back, isNumeralBlank c = true)
      (sign : Sign minus signed) (marked : Mark base mark) (digits : Digits base written ds) :
      Numeral base (front ++ (minus ++ (mark ++ written)) ++ back) (signed (valueIn base ds))

section Marks

variable {z l : Char} {mark rest : List Char}

theorem letter_ne_underscore (base : Nat) : prefixLetter? base ≠ some '_' := by
  unfold prefixLetter?
  split <;> decide

theorem dropPrefix_unmarked (h : ¬ (digitValue? z = some 0 ∧ prefixLetter? base = some l.toLower)) :
    dropPrefix base (z :: l :: rest) = z :: l :: rest := by
  change ite _ _ _ = _
  rw [if_neg h]

theorem dropPrefix_gap (hzero : digitValue? z = some 0)
    (hletter : prefixLetter? base = some l.toLower) :
    dropPrefix base (z :: l :: '_' :: rest) = rest := by
  rw [dropPrefix, if_pos ⟨hzero, hletter⟩]

theorem dropPrefix_letter (hzero : digitValue? z = some 0)
    (hletter : prefixLetter? base = some l.toLower) (hgap : ∀ t, rest ≠ '_' :: t) :
    dropPrefix base (z :: l :: rest) = rest := by
  change ite _ _ _ = _
  rw [if_pos ⟨hzero, hletter⟩]
  split
  · exact absurd rfl (hgap _)
  · rfl

/-- What is taken off a text is a mark. -/
theorem exists_dropPrefix (base : Nat) (cs : List Char) :
    ∃ mark, Mark base mark ∧ cs = mark ++ dropPrefix base cs := by
  match cs with
  | [] => exact ⟨[], .none, rfl⟩
  | [z] => exact ⟨[], .none, rfl⟩
  | z :: l :: rest =>
    by_cases hmark : digitValue? z = some 0 ∧ prefixLetter? base = some l.toLower
    · obtain ⟨hzero, hletter⟩ := hmark
      by_cases hgap : ∃ t, rest = '_' :: t
      · obtain ⟨t, rfl⟩ := hgap
        exact ⟨_, .gap hzero hletter, by rw [dropPrefix_gap hzero hletter]; rfl⟩
      · rw [not_exists] at hgap
        exact ⟨_, .letter hzero hletter, by rw [dropPrefix_letter hzero hletter hgap]; rfl⟩
    · exact ⟨[], .none, by rw [dropPrefix_unmarked hmark]; rfl⟩

/-- The first of the digits is one. -/
theorem Digits.head (h : Digits base written ds) :
    ∃ c rest d, written = c :: rest ∧ digitIn? base c = some d := by
  obtain ⟨first, -⟩ := h
  exact ⟨_, _, _, rfl, first⟩

theorem Digits.ne_underscore (h : Digits base written ds) (t : List Char) : written ≠ '_' :: t := by
  obtain ⟨c, rest, d, rfl, hc⟩ := h.head
  intro heq
  cases heq
  rw [digitIn?_underscore] at hc
  cases hc

/-- No mark is seen in digits. -/
theorem dropPrefix_digits (h : Digits base written ds) : dropPrefix base written = written := by
  obtain ⟨first, more⟩ := h
  cases more with
  | done => rfl
  | next digit more =>
    refine dropPrefix_unmarked ?_
    rintro ⟨-, hletter⟩
    rw [digitIn?_of_letter hletter] at digit
    cases digit
  | gap digit more =>
    refine dropPrefix_unmarked ?_
    rintro ⟨-, hletter⟩
    exact letter_ne_underscore base hletter

/-- A mark is taken off the digits behind it. -/
theorem dropPrefix_mark (hmark : Mark base mark) (hdigits : Digits base written ds) :
    dropPrefix base (mark ++ written) = written := by
  cases hmark with
  | none => exact dropPrefix_digits hdigits
  | letter zero letter => exact dropPrefix_letter zero letter hdigits.ne_underscore
  | gap zero letter => exact dropPrefix_gap zero letter

theorem digits?_dropPrefix_iff :
    digits? base (dropPrefix base cs) = some n ↔
      ∃ mark written ds, cs = mark ++ written ∧ Mark base mark ∧ Digits base written ds ∧
        valueIn base ds = n := by
  rw [digits?_eq_some_iff]
  constructor
  · rintro ⟨ds, hdigits, hvalue⟩
    obtain ⟨mark, hmark, heq⟩ := exists_dropPrefix base cs
    exact ⟨mark, _, ds, heq, hmark, hdigits, hvalue⟩
  · rintro ⟨mark, written, ds, rfl, hmark, hdigits, hvalue⟩
    rw [dropPrefix_mark hmark hdigits]
    exact ⟨ds, hdigits, hvalue⟩

end Marks

section Integers

variable {minus mark : List Char} {signed : Nat → Int}

theorem Sign.not_blank (h : Sign minus signed) : ∀ c ∈ minus, isNumeralBlank c = false := by
  cases h with
  | none => simp
  | plus | minus => exact List.forall_mem_singleton.mpr (by decide)

theorem not_blank_of_digit {c : Char} {d : Nat} (h : digitIn? base c = some d) :
    isNumeralBlank c = false := by
  by_contra hblank
  rw [digitIn?_of_isNumeralBlank (Bool.not_eq_false _ ▸ hblank)] at h
  cases h

theorem Mark.not_blank (h : Mark base mark) : ∀ c ∈ mark, isNumeralBlank c = false := by
  have hzero : ∀ z, digitValue? z = some 0 → isNumeralBlank z = false := by
    intro z hz
    by_contra hblank
    simp only [isNumeralBlank, Bool.not_eq_false, Bool.and_eq_true] at hblank
    rw [digitValue?_of_isBlank hblank.1] at hz
    cases hz
  have hletter : ∀ l : Char, prefixLetter? base = some l.toLower → isNumeralBlank l = false := by
    intro l hl
    unfold prefixLetter? at hl
    split at hl
    case h_4 => cases hl
    all_goals
      obtain rfl | rfl := eq_or_eq_of_toLower (Option.some.inj hl).symm <;> decide
  cases h with
  | none => simp
  | letter zero letter => simp [hzero _ zero, hletter _ letter]
  | gap zero letter =>
    have hgap : isNumeralBlank '_' = false := by decide
    simp [hzero _ zero, hletter _ letter, hgap]

theorem FurtherDigits.not_blank (h : FurtherDigits base written ds) :
    ∀ c ∈ written, isNumeralBlank c = false := by
  induction h with
  | done => simp
  | next digit more ih => exact List.forall_mem_cons.mpr ⟨not_blank_of_digit digit, ih⟩
  | gap digit more ih =>
    refine List.forall_mem_cons.mpr ⟨by decide, ?_⟩
    exact List.forall_mem_cons.mpr ⟨not_blank_of_digit digit, ih⟩

theorem Digits.not_blank (h : Digits base written ds) : ∀ c ∈ written, isNumeralBlank c = false := by
  obtain ⟨first, more⟩ := h
  exact List.forall_mem_cons.mpr ⟨not_blank_of_digit first, more.not_blank⟩

/-- Neither a mark nor digits start with a character that is no digit. -/
theorem marked_ne_cons (hmark : Mark base mark) (hdigits : Digits base written ds) {c : Char}
    (hvalue : digitValue? c = none) (hdigit : digitIn? base c = none) (t : List Char) :
    mark ++ written ≠ c :: t := by
  intro heq
  cases hmark with
  | none =>
    obtain ⟨first, -⟩ := hdigits
    cases heq
    rw [hdigit] at first
    cases first
  | letter zero =>
    cases heq
    rw [hvalue] at zero
    cases zero
  | gap zero =>
    cases heq
    rw [hvalue] at zero
    cases zero

/-- **The reader of integers** takes the texts that spell one, and gives what they spell. -/
theorem integer?_eq_some_iff {s : String} : integer? base s = some i ↔ Numeral base s.toList i := by
  constructor
  · intro h
    obtain ⟨front, back, htext, hfront, hback⟩ := exists_trimBy isNumeralBlank s.toList
    rw [htext]
    unfold integer? at h
    generalize trimBy isNumeralBlank s.toList = core at h ⊢
    split at h
    · obtain ⟨_, hnegated, rfl⟩ := Option.map_eq_some_iff.mp h
      obtain ⟨n, hn, hcast⟩ := Option.bind_eq_some_iff.mp hnegated
      cases hcast
      obtain ⟨mark, written, ds, rfl, hmark, hdigits, rfl⟩ := digits?_dropPrefix_iff.mp hn
      exact .intro hfront hback .minus hmark hdigits
    · obtain ⟨n, hn, rfl⟩ := Option.map_eq_some_iff.mp h
      obtain ⟨mark, written, ds, rfl, hmark, hdigits, rfl⟩ := digits?_dropPrefix_iff.mp hn
      exact .intro hfront hback .plus hmark hdigits
    · obtain ⟨n, hn, rfl⟩ := Option.map_eq_some_iff.mp h
      obtain ⟨mark, written, ds, rfl, hmark, hdigits, rfl⟩ := digits?_dropPrefix_iff.mp hn
      exact .intro hfront hback .none hmark hdigits
  · intro h
    generalize htext : s.toList = text at h
    obtain ⟨before, after, sign, marked, digits⟩ := h
    rename_i front minus mark written back signed ds
    have hcore : ∀ c ∈ minus ++ (mark ++ written), isNumeralBlank c = false := by
      simp only [List.mem_append]
      rintro c (hc | hc | hc)
      · exact sign.not_blank c hc
      · exact marked.not_blank c hc
      · exact digits.not_blank c hc
    have hread : digits? base (dropPrefix base (mark ++ written)) = some (valueIn base ds) :=
      digits?_dropPrefix_iff.mpr ⟨mark, written, ds, rfl, marked, digits, rfl⟩
    rw [integer?, htext, trimBy_append before after hcore]
    cases sign with
    | minus => simp [hread]
    | plus => simp [hread]
    | none =>
      -- what starts with a mark or a digit is not taken for signed
      have hminus := marked_ne_cons marked digits (c := '-') (by decide)
        (digitIn?_eq_none (by decide) (by decide) (by decide))
      have hplus := marked_ne_cons marked digits (c := '+') (by decide)
        (digitIn?_eq_none (by decide) (by decide) (by decide))
      rw [List.nil_append]
      split
      · exact absurd ‹_› (hminus _)
      · exact absurd ‹_› (hplus _)
      · rw [hread]; rfl

end Integers

end Converge.Number
