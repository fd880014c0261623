/-
  Converge.Proofs.Literal
  ───────────────────────
  **WHEN ESCAPED TEXT IS SHOWN AS IT IS.**

  A text is escaped by itself, and then others are put behind it.  It comes out of rendering as it was
  under two conditions on the text alone (`Stands`): it does not end in a single backslash, which is
  doubled, and each bracket that follows a backslash opens a tag, since the backslash before any other
  bracket is taken away.  And there is one condition on what is put behind it: where the text leaves a
  tag open (`LeavesOpen`), the next bracket must not close it.

  Main results:
    * `renders_escaped_iff` — an escaped text with something behind it is shown as it is;
    * `renders_woven_iff` — so are escaped texts with plain ones between them.
-/
import Converge.Proofs.Escaping

namespace Converge.Markup

variable {styles : List String} {cs body : List Char} {n : Nat} {c : Char}

/-! ## §1. Texts that stand. -/

/-- By itself the text is escaped so that it is shown as it is: it does not end in a single backslash,
    and each bracket behind a backslash opens a tag. -/
structure Stands (cs : List Char) : Prop where
  ending : ['\\'] <:+ cs → ['\\', '\\'] <:+ cs
  brackets : ∀ after, '\\' :: '[' :: after <:+ cs → OpensTag after

/-- The text ends inside what may become a tag: behind its last bracket a tag can start. -/
def LeavesOpen (cs : List Char) : Prop :=
  ∃ rest, '[' :: rest <:+ cs ∧ StartsTag rest ∧ rest.find? isBracket = none

section Suffixes

variable {α : Type} {x y d : α} {t front rest : List α}

/-- An end of a list that starts with what is not in the front lies behind the front. -/
theorem cons_suffix_append_iff (h : x ∉ front) : x :: t <:+ front ++ rest ↔ x :: t <:+ rest := by
  induction front with
  | nil => rfl
  | cons d front ih =>
    rw [List.mem_cons, not_or] at h
    rw [List.cons_append, List.suffix_cons_iff, ih h.2]
    simp [h.1]

/-- An end of a list that does not hold `d` lies behind `d`. -/
theorem suffix_append_cons_iff (h : d ∉ t) : t <:+ front ++ d :: rest ↔ t <:+ rest := by
  induction front with
  | nil =>
    rw [List.nil_append, List.suffix_cons_iff, or_iff_right]
    rintro rfl
    exact h List.mem_cons_self
  | cons e front ih =>
    rw [List.cons_append, List.suffix_cons_iff, ih, or_iff_right]
    rintro rfl
    exact h (by simp)

/-- So does one that starts with a pair of which the second is not in the front and neither is `d`. -/
theorem pair_suffix_append_iff (hfront : y ∉ front) (hx : d ≠ x) (hy : d ≠ y) :
    x :: y :: t <:+ front ++ d :: rest ↔ x :: y :: t <:+ rest := by
  induction front with
  | nil => simp [List.suffix_cons_iff, Ne.symm hx]
  | cons e front ih =>
    rw [List.mem_cons, not_or] at hfront
    rw [List.cons_append, List.suffix_cons_iff, ih hfront.2, or_iff_right]
    intro heq
    -- the second of the pair would be in the front, or it would be `d`
    cases front with
    | nil =>
      cases heq
      exact hy rfl
    | cons e' front =>
      cases heq
      exact hfront.2 List.mem_cons_self

end Suffixes

/-- A backslash and a bracket behind it are where backslashes end at a bracket, or further on. -/
theorem escape_suffix_iff {after : List Char} :
    '\\' :: '[' :: after <:+ slashes n ++ '[' :: cs ↔
      n ≠ 0 ∧ after = cs ∨ '\\' :: '[' :: after <:+ cs := by
  induction n with
  | zero => simp [List.suffix_cons_iff]
  | succ n ih =>
    rw [slashes_succ, List.cons_append, List.suffix_cons_iff, ih]
    cases n with
    | zero => simp
    | succ n => simp [slashes_succ]

theorem not_mem_slashes (hslash : c ≠ '\\') (n : Nat) : c ∉ slashes n :=
  fun h => hslash (mem_slashes h)

theorem stands_ending_iff : Stands (slashes n) ↔ n ≠ 1 := by
  constructor
  · rintro ⟨hending, -⟩ rfl
    have hlength : 2 ≤ (slashes 1).length := (hending List.suffix_rfl).length_le
    rw [length_slashes] at hlength
    omega
  · intro hn
    refine ⟨fun hone => ?_, fun after hafter => ?_⟩
    · match n with
      | 0 => simpa using hone.length_le
      | n + 2 => exact ⟨slashes n, by simp [slashes, List.replicate_succ']⟩
    · have hmem : '[' ∈ slashes n := hafter.mem (by simp)
      exact absurd hmem (not_mem_slashes (by decide) n)

/-- What is in front of a character that is no backslash and opens nothing may be left out. -/
theorem stands_append_iff {front : List Char} (hfront : '[' ∉ front) (hslash : c ≠ '\\')
    (hopen : c ≠ '[') : Stands (front ++ c :: cs) ↔ Stands cs := by
  have hone : ['\\'] <:+ front ++ c :: cs ↔ ['\\'] <:+ cs :=
    suffix_append_cons_iff (by simpa using hslash)
  have htwo : ['\\', '\\'] <:+ front ++ c :: cs ↔ ['\\', '\\'] <:+ cs :=
    suffix_append_cons_iff (by simpa using hslash)
  have hescape : ∀ after, '\\' :: '[' :: after <:+ front ++ c :: cs ↔ '\\' :: '[' :: after <:+ cs :=
    fun after => pair_suffix_append_iff hfront hslash hopen
  constructor
  · rintro ⟨hending, hbrackets⟩
    exact ⟨fun h => htwo.mp (hending (hone.mpr h)), fun after h => hbrackets after ((hescape _).mpr h)⟩
  · rintro ⟨hending, hbrackets⟩
    exact ⟨fun h => htwo.mpr (hending (hone.mp h)), fun after h => hbrackets after ((hescape _).mp h)⟩

theorem stands_bracket_iff :
    Stands (slashes n ++ '[' :: cs) ↔ (n ≠ 0 → OpensTag cs) ∧ Stands cs := by
  have hone : ['\\'] <:+ slashes n ++ '[' :: cs ↔ ['\\'] <:+ cs :=
    suffix_append_cons_iff (by decide)
  have htwo : ['\\', '\\'] <:+ slashes n ++ '[' :: cs ↔ ['\\', '\\'] <:+ cs :=
    suffix_append_cons_iff (by decide)
  constructor
  · rintro ⟨hending, hbrackets⟩
    refine ⟨fun hn => hbrackets cs (escape_suffix_iff.mpr (.inl ⟨hn, rfl⟩)),
      fun h => htwo.mp (hending (hone.mpr h)), fun after h => ?_⟩
    exact hbrackets after (escape_suffix_iff.mpr (.inr h))
  · rintro ⟨hopens, hending, hbrackets⟩
    refine ⟨fun h => htwo.mpr (hending (hone.mp h)), fun after h => ?_⟩
    rcases escape_suffix_iff.mp h with ⟨hn, rfl⟩ | h
    · exact hopens hn
    · exact hbrackets after h

theorem IsTag.not_mem (hbody : IsTag body) : '[' ∉ body :=
  fun h => absurd (hbody.bare _ h) (by decide)

theorem leavesOpen_append_iff {front : List Char} (hfront : '[' ∉ front) :
    LeavesOpen (front ++ cs) ↔ LeavesOpen cs := by
  unfold LeavesOpen
  simp only [cons_suffix_append_iff hfront]

theorem not_leavesOpen_of_not_mem (h : '[' ∉ cs) : ¬ LeavesOpen cs := by
  rintro ⟨rest, hsuffix, -⟩
  exact h (hsuffix.mem List.mem_cons_self)

theorem leavesOpen_bracket_iff :
    LeavesOpen ('[' :: cs) ↔ StartsTag cs ∧ cs.find? isBracket = none ∨ LeavesOpen cs := by
  unfold LeavesOpen
  constructor
  · rintro ⟨rest, hsuffix, hrest⟩
    rcases List.suffix_cons_iff.mp hsuffix with heq | hsuffix
    · cases heq
      exact .inl hrest
    · exact .inr ⟨rest, hsuffix, hrest⟩
  · rintro (hopen | ⟨rest, hsuffix, hrest⟩)
    · exact ⟨cs, List.suffix_rfl, hopen⟩
    · exact ⟨rest, hsuffix.trans (List.suffix_cons _ _), hrest⟩

/-! ## §2. An escaped text with something behind it. -/

/-- What is put behind an escaped text, and how it is to be shown: nothing, or something that starts
    alike with a character that has no part in tags, with as many opening brackets. -/
structure Seam (more shown : List Char) : Prop where
  starts : more = [] ∧ shown = [] ∨ ∃ c more' shown', more = c :: more' ∧ shown = c :: shown' ∧
    c ≠ '\\' ∧ isBracket c = false ∧ startsTag c = false
  brackets : more.count '[' = shown.count '['

variable {more shown : List Char}

theorem startsTag_cons : StartsTag (c :: cs) ↔ startsTag c = true := by
  constructor
  · rintro ⟨d, rest, heq, hd⟩
    cases heq
    exact hd
  · exact fun hc => ⟨c, cs, rfl, hc⟩

theorem not_startsTag_slashes (hn : n ≠ 0) : ¬ StartsTag (slashes n ++ cs) := by
  obtain ⟨k, rfl⟩ := Nat.exists_eq_succ_of_ne_zero hn
  rw [slashes_succ, List.cons_append, startsTag_cons]
  decide

theorem Seam.not_startsTag (h : Seam more shown) : ¬ StartsTag more := by
  rcases h.starts with ⟨rfl, -⟩ | ⟨c, more', shown', rfl, -, -, -, hc⟩
  · rintro ⟨d, rest, heq, -⟩
    cases heq
  · rw [startsTag_cons, hc]
    exact Bool.false_ne_true

/-- Escaping makes nothing the start of a tag, and neither does what is put behind. -/
theorem startsTag_escapeChars_iff (h : Seam more shown) :
    StartsTag (escapeChars cs ++ more) ↔ StartsTag cs := by
  induction cs using text_induction with
  | ending n =>
    rw [escapeChars_ending]
    by_cases hn : n = 0
    · subst hn
      exact iff_of_false h.not_startsTag (by rintro ⟨d, rest, heq, -⟩; cases heq)
    · refine iff_of_false (not_startsTag_slashes (by split <;> omega)) ?_
      rw [← List.append_nil (slashes n)]
      exact not_startsTag_slashes hn
  | plain n c cs hslash hopen _ =>
    rw [escapeChars_plain n hslash hopen, List.append_assoc]
    by_cases hn : n = 0
    · subst hn
      exact startsTag_cons.trans startsTag_cons.symm
    · exact iff_of_false (not_startsTag_slashes hn) (not_startsTag_slashes hn)
  | opened n cs htag _ =>
    rw [escapeChars_opened n htag, List.append_assoc]
    by_cases hn : n = 0
    · subst hn
      exact startsTag_cons.trans startsTag_cons.symm
    · exact iff_of_false (not_startsTag_slashes hn) (not_startsTag_slashes hn)
  | tag n body cs hbody _ =>
    rw [escapeChars_tag n hbody, List.append_assoc]
    refine iff_of_false (not_startsTag_slashes (by omega)) ?_
    by_cases hn : n = 0
    · subst hn
      rw [slashes_zero, List.nil_append, startsTag_cons]
      decide
    · exact not_startsTag_slashes hn

/-- A bracket that opens no tag in a text opens one in the escaped text with something behind it exactly
    if it is left open and the next bracket closes. -/
theorem opensTag_escapeChars_iff (h : Seam more shown) (hnot : ¬ OpensTag cs) :
    OpensTag (escapeChars cs ++ more) ↔
      (StartsTag cs ∧ cs.find? isBracket = none) ∧ more.find? isBracket = some ']' := by
  rw [opensTag_iff] at hnot ⊢
  rw [startsTag_escapeChars_iff h, List.find?_append, find?_escapeChars]
  cases hfind : cs.find? isBracket with
  | none => simp
  | some c =>
    rw [hfind] at hnot
    simpa using hnot

/-- Backslashes with another character behind them can be told apart. -/
theorem slashes_append_inj {m : Nat} {d : Char} {rest rest' : List Char} (hc : c ≠ '\\')
    (hd : d ≠ '\\') (h : slashes n ++ c :: rest = slashes m ++ d :: rest') :
    n = m ∧ c = d ∧ rest = rest' := by
  induction n generalizing m with
  | zero =>
    cases m with
    | zero => cases h; exact ⟨rfl, rfl, rfl⟩
    | succ m => cases h; exact absurd rfl hc
  | succ n ih =>
    cases m with
    | zero => cases h; exact absurd rfl hd
    | succ m =>
      obtain ⟨rfl, hrest⟩ := ih (List.cons.inj h).2
      exact ⟨rfl, hrest⟩

/-- At the end of the text one backslash is shown as two, and any other number as it is. -/
theorem renders_end_iff (h : Seam more shown) :
    Renders styles (escapeChars (slashes n) ++ more) (slashes n ++ shown) ↔
      n ≠ 1 ∧ Renders styles more shown := by
  rw [escapeChars_ending]
  have hn : n = (if n = 1 then 2 else n) ↔ n ≠ 1 := by split <;> omega
  generalize (if n = 1 then 2 else n) = k at hn ⊢
  rcases h.starts with ⟨rfl, rfl⟩ | ⟨c, more', shown', rfl, rfl, hslash, hbracket, -⟩
  · rw [List.append_nil, List.append_nil, renders_ending_iff, ← hn, and_iff_left renders_nil]
    exact ⟨fun heq => by simpa [length_slashes] using congrArg List.length heq, fun heq => by rw [heq]⟩
  · have hopen : c ≠ '[' := by
      rintro rfl
      cases hbracket
    rw [renders_plain_iff hslash hopen, ← hn, renders_cons_iff hslash hopen]
    constructor
    · rintro ⟨out', heq, hrest⟩
      obtain ⟨rfl, -, rfl⟩ := slashes_append_inj hslash hslash heq
      exact ⟨rfl, hrest⟩
    · rintro ⟨rfl, hrest⟩
      exact ⟨shown', rfl, hrest⟩

/-- A bracket of a text is shown as it is if it has no backslash before it and opens no tag. -/
theorem renders_bracket_iff (hcount : more.count '[' ≤ shown.count '[') :
    Renders styles (slashes n ++ '[' :: more) (slashes n ++ '[' :: shown) ↔
      n = 0 ∧ ¬ OpensTag more ∧ Renders styles more shown := by
  by_cases hopens : OpensTag more
  · refine iff_of_false ?_ (by simp [hopens])
    obtain ⟨body, rest, rfl, hbody⟩ := hopens
    intro hrenders
    by_cases hodd : n % 2 = 1
    · -- half of the backslashes are gone
      obtain ⟨out', heq, -⟩ := (renders_odd_iff hbody hodd).mp hrenders
      rw [bracketed, List.cons_append, List.append_assoc, List.cons_append] at heq
      obtain ⟨hn, -⟩ := slashes_append_inj (by decide) (by decide) heq
      omega
    · -- the bracket is gone
      obtain ⟨styles', out', heq, hrest⟩ := renders_even hbody hodd hrenders
      have hle := (sublist_of_renders hrest).count_le '['
      have hout := congrArg (List.count '[') heq
      rw [List.count_append, List.count_append, count_slashes, count_slashes, List.count_cons_self] at hout
      have hbehind : (body ++ ']' :: rest).count '[' = body.count '[' + rest.count '[' := by simp
      omega
  · rw [renders_opened_iff (tagBody?_eq_none_iff.mpr hopens)]
    constructor
    · rintro ⟨out', heq, hrest⟩
      obtain ⟨hn, -, rfl⟩ := slashes_append_inj (by decide) (by decide) heq
      exact ⟨by omega, hopens, hrest⟩
    · rintro ⟨rfl, -, hrest⟩
      exact ⟨shown, rfl, hrest⟩

/-- **An escaped text is shown as it is, with what is behind it**, exactly if it stands by itself and what
    is behind it does not close what it leaves open. -/
theorem renders_escaped_iff (h : Seam more shown) :
    Renders styles (escapeChars cs ++ more) (cs ++ shown) ↔
      Stands cs ∧ ¬ (LeavesOpen cs ∧ more.find? isBracket = some ']') ∧ Renders styles more shown := by
  induction cs using text_induction with
  | ending n =>
    have hclosed : ¬ LeavesOpen (slashes n) := not_leavesOpen_of_not_mem (not_mem_slashes (by decide) n)
    rw [renders_end_iff h, stands_ending_iff]
    simp [hclosed]
  | plain n c cs hslash hopen ih =>
    have hfront : '[' ∉ slashes n := not_mem_slashes (by decide) n
    have hcons : LeavesOpen (slashes n ++ c :: cs) ↔ LeavesOpen cs := by
      have hc : '[' ∉ [c] := by simpa using Ne.symm hopen
      exact (leavesOpen_append_iff hfront).trans (leavesOpen_append_iff hc)
    rw [escapeChars_plain n hslash hopen, stands_append_iff hfront hslash hopen, hcons, ← ih,
      List.append_assoc, List.append_assoc, List.cons_append, List.cons_append,
      renders_plain_iff hslash hopen]
    simp
  | opened n cs htag ih =>
    have hnot := tagBody?_eq_none_iff.mp htag
    have hcount : (escapeChars cs ++ more).count '[' = (cs ++ shown).count '[' := by
      rw [List.count_append, List.count_append, count_escapeChars, h.brackets]
    rw [escapeChars_opened n htag, List.append_assoc, List.append_assoc, List.cons_append,
      List.cons_append, renders_bracket_iff (Nat.le_of_eq hcount), opensTag_escapeChars_iff h hnot, ih,
      stands_bracket_iff, leavesOpen_append_iff (not_mem_slashes (by decide) n),
      leavesOpen_bracket_iff]
    have hn : (n ≠ 0 → OpensTag cs) ↔ n = 0 := by
      simp [hnot]
    -- what is left open is this bracket or a later one
    rw [hn, or_and_right, not_or]
    constructor
    · rintro ⟨hzero, hopen, hstands, hlater, hrest⟩
      exact ⟨⟨hzero, hstands⟩, ⟨hopen, hlater⟩, hrest⟩
    · rintro ⟨⟨hzero, hstands⟩, ⟨hopen, hlater⟩, hrest⟩
      exact ⟨hzero, hopen, hstands, hlater, hrest⟩
  | tag n body cs hbody ih =>
    have hclosing : Stands (body ++ ']' :: cs) ↔ Stands cs :=
      stands_append_iff hbody.not_mem (by decide) (by decide)
    have hopens : OpensTag (body ++ ']' :: cs) := ⟨body, cs, rfl, hbody⟩
    have hleaves : LeavesOpen (slashes n ++ '[' :: (body ++ ']' :: cs)) ↔ LeavesOpen cs := by
      have hbehind : LeavesOpen (body ++ ']' :: cs) ↔ LeavesOpen cs := by
        rw [List.append_cons]
        exact leavesOpen_append_iff (by simpa using hbody.not_mem)
      have hclosed : (body ++ ']' :: cs).find? isBracket ≠ none := by
        rw [(opensTag_iff.mp hopens).2]
        simp
      rw [leavesOpen_append_iff (not_mem_slashes (by decide) n), leavesOpen_bracket_iff, hbehind,
        or_iff_right fun hopen => hclosed hopen.2]
    have hhalf : (2 * n + 1) / 2 = n := by omega
    rw [escapeChars_tag n hbody, stands_bracket_iff, hclosing, hleaves, List.append_assoc,
      List.cons_append, List.append_assoc, List.cons_append, renders_odd_iff hbody (by omega), hhalf,
      and_iff_right (fun _ => hopens), ← ih]
    simp [bracketed]

/-- **An escaped text alone is shown as it is** exactly if it stands. -/
theorem renders_alone_iff : Renders styles (escapeChars cs) cs ↔ Stands cs := by
  have h : Renders styles (escapeChars cs ++ []) (cs ++ []) ↔ _ :=
    renders_escaped_iff ⟨.inl ⟨rfl, rfl⟩, rfl⟩
  rw [List.append_nil, List.append_nil] at h
  simpa [renders_nil] using h

/-! ## §3. Escaped texts with plain ones between them. -/

/-- The text has no part in tags. -/
def Bare (cs : List Char) : Prop := ∀ c ∈ cs, c ≠ '\\' ∧ isBracket c = false

instance (cs : List Char) : Decidable (Bare cs) :=
  List.decidableBAll _ cs

/-- A text that keeps two escaped ones apart. -/
structure Glue (cs : List Char) : Prop where
  bare : Bare cs
  starts : ∃ c rest, cs = c :: rest ∧ startsTag c = false

/-- Texts with a function applied, each behind a plain one. -/
def weave (f : List Char → List Char) (parts : List (List Char × List Char)) : List Char :=
  parts.flatMap fun p => p.1 ++ f p.2

/-- A text leaves a tag open, and the next bracket in the texts behind it closes. -/
def Straddles (texts : List (List Char)) : Prop :=
  ∃ before t after, texts = before ++ t :: after ∧ LeavesOpen t ∧
    after.flatten.find? isBracket = some ']'

theorem not_straddles_nil : ¬ Straddles [] := by
  rintro ⟨before, t, after, heq, -⟩
  cases before <;> cases heq

theorem straddles_cons_iff {t : List Char} {texts : List (List Char)} :
    Straddles (t :: texts) ↔
      LeavesOpen t ∧ texts.flatten.find? isBracket = some ']' ∨ Straddles texts := by
  constructor
  · rintro ⟨before, t', after, heq, hopen⟩
    cases before with
    | nil =>
      cases heq
      exact .inl hopen
    | cons u before =>
      cases heq
      exact .inr ⟨before, t', after, rfl, hopen⟩
  · rintro (hopen | ⟨before, t', after, rfl, hopen⟩)
    · exact ⟨[], t, texts, rfl, hopen⟩
    · exact ⟨t :: before, t', after, rfl, hopen⟩

/-- Texts without an opening bracket leave nothing open. -/
theorem not_straddles_of_not_mem {texts : List (List Char)} (h : ∀ t ∈ texts, '[' ∉ t) :
    ¬ Straddles texts := by
  rintro ⟨before, t, after, rfl, hopen, -⟩
  exact not_leavesOpen_of_not_mem (h t (by simp)) hopen

/-- A text without a backslash stands. -/
theorem stands_of_not_mem (h : '\\' ∉ cs) : Stands cs where
  ending hsuffix := absurd (hsuffix.mem (by simp)) h
  brackets _ hsuffix := absurd (hsuffix.mem (by simp)) h

section Woven

variable {lead t : List Char} {parts : List (List Char × List Char)}

theorem Bare.not_mem (h : Bare lead) : '[' ∉ lead := fun hmem => absurd (h _ hmem).2 (by decide)

theorem Bare.find? (h : Bare lead) : lead.find? isBracket = none :=
  List.find?_eq_none.mpr fun c hc => by simp [(h c hc).2]

/-- A plain text in front is shown as it is. -/
theorem renders_lead_iff (h : Bare lead) :
    Renders styles (lead ++ more) (lead ++ shown) ↔ Renders styles more shown := by
  induction lead with
  | nil => rfl
  | cons c lead ih =>
    have hopen : c ≠ '[' := fun heq => h.not_mem (heq ▸ List.mem_cons_self)
    rw [List.cons_append, List.cons_append, renders_cons_iff (h c List.mem_cons_self).1 hopen]
    exact ih fun d hd => h d (List.mem_cons_of_mem c hd)

theorem find?_weave (h : ∀ p ∈ parts, Glue p.1) :
    (weave escapeChars parts).find? isBracket = (parts.map (·.2)).flatten.find? isBracket := by
  induction parts with
  | nil => rfl
  | cons p parts ih =>
    rw [List.forall_mem_cons] at h
    unfold weave at ih ⊢
    rw [List.flatMap_cons, List.append_assoc, List.find?_append, h.1.bare.find?, Option.none_or,
      List.find?_append, find?_escapeChars, ih h.2, List.map_cons, List.flatten_cons, List.find?_append]

theorem seam_weave (h : ∀ p ∈ parts, Glue p.1) : Seam (weave escapeChars parts) (weave id parts) where
  starts := by
    cases parts with
    | nil => exact .inl ⟨rfl, rfl⟩
    | cons p parts =>
      obtain ⟨hbare, c, rest, hp, hstarts⟩ := h p List.mem_cons_self
      have hc := hbare c (by rw [hp]; exact List.mem_cons_self)
      refine .inr ⟨c, rest ++ (escapeChars p.2 ++ weave escapeChars parts),
        rest ++ (p.2 ++ weave id parts), ?_, ?_, hc.1, hc.2, hstarts⟩
      · simp [weave, hp]
      · simp [weave, hp]
  brackets := by
    induction parts with
    | nil => rfl
    | cons p parts ih =>
      have ih := ih fun q hq => h q (List.mem_cons_of_mem p hq)
      unfold weave at ih ⊢
      simp [List.count_append, count_escapeChars, ih]

/-- **A first text and texts behind plain ones are shown as they are** exactly if each of them stands by
    itself and none leaves a tag open that is closed in a later one. -/
theorem renders_woven_iff (h : ∀ p ∈ parts, Glue p.1) :
    Renders styles (escapeChars t ++ weave escapeChars parts) (t ++ weave id parts) ↔
      (∀ text ∈ t :: parts.map (·.2), Stands text) ∧ ¬ Straddles (t :: parts.map (·.2)) := by
  induction parts generalizing t with
  | nil =>
    unfold weave
    rw [List.flatMap_nil, List.flatMap_nil, List.append_nil, List.append_nil, renders_alone_iff]
    simp [straddles_cons_iff, not_straddles_nil]
  | cons p parts ih =>
    rw [renders_escaped_iff (seam_weave h), find?_weave h]
    have hp := List.forall_mem_cons.mp h
    have hrest : Renders styles (weave escapeChars (p :: parts)) (weave id (p :: parts)) ↔
        Renders styles (escapeChars p.2 ++ weave escapeChars parts) (p.2 ++ weave id parts) := by
      unfold weave
      rw [List.flatMap_cons, List.flatMap_cons, List.append_assoc, List.append_assoc,
        renders_lead_iff hp.1.bare]
      rfl
    have hall : (∀ text ∈ t :: (p :: parts).map (·.2), Stands text) ↔
        Stands t ∧ ∀ text ∈ p.2 :: parts.map (·.2), Stands text := List.forall_mem_cons
    rw [hrest, ih hp.2, hall, straddles_cons_iff (t := t), not_or]
    exact and_assoc.symm.trans and_and_and_comm

end Woven

/-! ## §4. Whole texts. -/

/-- Every character of the text is printed. -/
def Clear (cs : List Char) : Prop := ∀ c ∈ cs, isDropped c = false

instance (cs : List Char) : Decidable (Clear cs) :=
  List.decidableBAll _ cs

theorem Clear.append {cs' : List Char} (h : Clear cs) (h' : Clear cs') : Clear (cs ++ cs') := by
  intro d hd
  rcases List.mem_append.mp hd with hd | hd
  · exact h d hd
  · exact h' d hd

theorem Clear.escapeChars (h : Clear cs) : Clear (escapeChars cs) := by
  intro d hd
  rcases mem_escapeChars hd with rfl | hd
  · decide
  · exact h d hd

theorem Clear.weave {parts : List (List Char × List Char)} {f : List Char → List Char}
    (h : ∀ p ∈ parts, Clear p.1 ∧ Clear (f p.2)) : Clear (weave f parts) := by
  intro d hd
  obtain ⟨p, hp, hd⟩ := List.mem_flatMap.mp hd
  exact ((h p hp).1.append (h p hp).2) d hd

/-- A text without characters that are not printed is printed exactly if it is rendered. -/
theorem render_ok_iff {s t : String} (h : Clear s.toList) :
    render s = .ok t ↔ Renders [] s.toList t.toList := by
  have hkeep : ∀ {out : List Char}, Renders [] s.toList out →
      out.filter (fun c => !isDropped c) = out := by
    intro out hout
    rw [List.filter_eq_self]
    intro c hc
    rw [h c ((sublist_of_renders hout).subset hc)]
    rfl
  unfold render
  rw [map_eq_ok]
  constructor
  · rintro ⟨out, hout, rfl⟩
    have hrenders := renders_of_ok hout
    rwa [hkeep hrenders, String.toList_ofList]
  · intro hrenders
    exact ⟨t.toList, hrenders 0, by rw [hkeep hrenders, String.ofList_toList]⟩

end Converge.Markup
