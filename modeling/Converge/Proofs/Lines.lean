/-
  Converge.Proofs.Lines
  ─────────────────────
  **WHEN THE LINE ABOUT A FAILURE IS PRINTED AS IT IS.**

  The line about a failure is an escaped message inside a pair of tags that make it red.  The parts of an escaped
  text are inert: they are printed whatever styles are open, and they open and close none.  A tag behind a text
  that does not end in a backslash is a part of its own.  So the pair of tags goes, and the message comes out
  as it would alone: as it is exactly if it stands.

  Main results:
    * `pieces_append_bracket` — a bracket starts a part of its own;
    * `renderPieces_inert` — inert parts are printed in one way, whatever comes behind;
    * `printed_failed_iff` — when the line about a failure is printed as it is.
-/
import Converge.Proofs.Table
import Converge.Transcript

namespace Converge.Markup

variable {styles : List String} {cs more out : List Char} {n : Nat}

/-! ## §1. What escaping leaves is inert. -/

/-- A part that opens and closes nothing. -/
inductive Piece.Inert : Piece → Prop where
  | plain (n : Nat) (c : Option Char) : Inert (.plain n c)
  /-- The last of an odd number of backslashes makes the tag text. -/
  | tag {n : Nat} (body : List Char) (odd : n % 2 = 1) : Inert (.tag n body)

/-- What is printed of a part that is inert. -/
def Piece.said : Piece → List Char
  | .plain n c => slashes (if c = some '[' then n - 1 else n) ++ c.toList
  | .tag n body => slashes (n / 2) ++ bracketed body

/-- A bracket that opens no tag opens none in the escaped text. -/
theorem opensNone_escapeChars (h : tagBody? cs = none) : tagBody? (escapeChars cs) = none := by
  rw [tagBody?_eq_none_iff] at h ⊢
  have hseam : Seam [] [] := ⟨.inl ⟨rfl, rfl⟩, rfl⟩
  have hopens := opensTag_escapeChars_iff hseam h
  rw [List.append_nil] at hopens
  rw [hopens]
  rintro ⟨-, hclosing⟩
  cases hclosing

/-- **What escaping leaves is inert.** -/
theorem inert_escapeChars (cs : List Char) : ∀ p ∈ pieces (escapeChars cs), p.Inert := by
  induction cs using text_induction with
  | ending n =>
    rw [escapeChars_ending, pieces_ending]
    generalize (if n = 1 then 2 else n) = k
    split
    · nofun
    · exact List.forall_mem_singleton.mpr (.plain _ _)
  | plain n c cs hslash hopen ih =>
    rw [escapeChars_plain n hslash hopen, pieces_plain n hslash hopen]
    exact List.forall_mem_cons.mpr ⟨.plain _ _, ih⟩
  | opened n cs htag ih =>
    rw [escapeChars_opened n htag, pieces_opened n (opensNone_escapeChars htag)]
    exact List.forall_mem_cons.mpr ⟨.plain _ _, ih⟩
  | tag n body cs hbody ih =>
    rw [escapeChars_tag n hbody, pieces_tag _ hbody]
    exact List.forall_mem_cons.mpr ⟨.tag body (by omega), ih⟩

/-- An inert part is printed, and the styles stay as they are. -/
theorem renderPieces_inert_cons {p : Piece} (h : p.Inert) (position : Nat) (styles : List String)
    (rest : List Piece) :
    renderPieces position styles (p :: rest) =
      (renderPieces (position + p.width) styles rest).map (p.said ++ ·) := by
  cases h with
  | plain n c =>
    cases c with
    | none =>
      rw [renderPieces]
      · rfl
      · simp
    | some c =>
      by_cases hopen : c = '['
      · subst hopen
        rw [renderPieces_opened]
        simp [Piece.width, Piece.said]
      · rw [renderPieces_plain position n styles rest hopen]
        simp [Piece.width, Piece.said, hopen]
  | tag body odd =>
    rw [renderPieces_odd position styles rest odd]
    rfl

/-- **Inert parts are printed in one way**, whatever is open and whatever comes behind. -/
theorem renderPieces_inert {ps : List Piece} (h : ∀ p ∈ ps, p.Inert) (position : Nat)
    (styles : List String) (qs : List Piece) :
    renderPieces position styles (ps ++ qs) =
      (renderPieces (ps.foldl (fun place p => place + p.width) position) styles qs).map
        (ps.flatMap Piece.said ++ ·) := by
  induction ps generalizing position with
  | nil =>
    rw [List.nil_append, List.foldl_nil, List.flatMap_nil]
    cases renderPieces position styles qs <;> rfl
  | cons p ps ih =>
    rw [List.forall_mem_cons] at h
    rw [List.cons_append, renderPieces_inert_cons h.1, ih h.2, List.foldl_cons]
    cases renderPieces _ styles qs with
    | error fault => rfl
    | ok out => simp [Except.map]

/-! ## §2. A tag behind a text. -/

/-- The text does not end in a backslash. -/
def Ends (cs : List Char) : Prop := ¬ ['\\'] <:+ cs

theorem ends_append_cons_iff {front : List Char} {c : Char} (hslash : c ≠ '\\') :
    Ends (front ++ c :: cs) ↔ Ends cs :=
  not_congr (suffix_append_cons_iff (by simpa using hslash))

theorem ends_slashes_iff : Ends (slashes n) ↔ n = 0 := by
  cases n with
  | zero => exact iff_of_true (by simp [Ends]) rfl
  | succ n =>
    refine iff_of_false (fun h => h ?_) (Nat.succ_ne_zero n)
    rw [slashes, List.replicate_succ']
    exact List.suffix_append _ _

/-- A bracket that opens no tag opens none with a bracket behind the text. -/
theorem opensNone_append (h : tagBody? cs = none) (more : List Char) :
    tagBody? (cs ++ '[' :: more) = none := by
  rw [tagBody?_eq_none_iff, opensTag_iff] at h ⊢
  rintro ⟨hstarts, hclosing⟩
  rw [List.find?_append] at hclosing
  cases hfind : cs.find? isBracket with
  | none =>
    -- the first bracket is the one behind the text
    rw [hfind] at hclosing
    cases hclosing
  | some c =>
    rw [hfind, Option.some_or] at hclosing
    refine h ⟨?_, hfind.trans hclosing⟩
    obtain ⟨d, rest, heq, hd⟩ := hstarts
    cases cs with
    | nil => cases hfind
    | cons c' cs =>
      cases heq
      exact ⟨_, cs, rfl, hd⟩

/-- **A bracket starts a part of its own** behind a text that does not end in a backslash. -/
theorem pieces_append_bracket (h : Ends cs) (more : List Char) :
    pieces (cs ++ '[' :: more) = pieces cs ++ pieces ('[' :: more) := by
  induction cs using text_induction with
  | ending n =>
    obtain rfl := ends_slashes_iff.mp h
    have hnone : pieces [] = [] := pieces_ending 0
    rw [slashes_zero, hnone]
    rfl
  | plain n c cs hslash hopen ih =>
    rw [List.append_assoc, List.cons_append, pieces_plain n hslash hopen, pieces_plain n hslash hopen,
      ih ((ends_append_cons_iff hslash).mp h)]
    rfl
  | opened n cs htag ih =>
    rw [List.append_assoc, List.cons_append, pieces_opened n (opensNone_append htag more),
      pieces_opened n htag, ih ((ends_append_cons_iff (by decide)).mp h)]
    rfl
  | tag n body cs hbody ih =>
    have hbehind := (ends_append_cons_iff (by decide)).mp h
    rw [pieces_tag n hbody, List.append_assoc, List.cons_append, List.append_assoc, List.cons_append,
      pieces_tag n hbody, ih ((ends_append_cons_iff (by decide)).mp hbehind)]
    rfl

/-- Escaping puts no backslash at the end of a text that does not end in one. -/
theorem Ends.escapeChars (h : Ends cs) : Ends (escapeChars cs) := by
  induction cs using text_induction with
  | ending n =>
    obtain rfl := ends_slashes_iff.mp h
    rw [escapeChars_ending, if_neg (by decide)]
    exact h
  | plain n c cs hslash hopen ih =>
    rw [escapeChars_plain n hslash hopen]
    rw [ends_append_cons_iff hslash] at h ⊢
    exact ih h
  | opened n cs htag ih =>
    rw [escapeChars_opened n htag]
    rw [ends_append_cons_iff (by decide)] at h ⊢
    exact ih h
  | tag n body cs hbody ih =>
    rw [escapeChars_tag n hbody]
    rw [ends_append_cons_iff (by decide), ends_append_cons_iff (by decide)] at h ⊢
    exact ih h

/-- **An escaped text with a tag behind it** is printed as it is exactly if it stands. -/
theorem renders_tagged_iff (hends : Ends cs) (hmore : Renders styles ('[' :: more) []) :
    Renders styles (escapeChars cs ++ '[' :: more) cs ↔ Stands cs := by
  have hinert := inert_escapeChars cs
  have halone (position : Nat) : renderPieces position styles (pieces (escapeChars cs)) =
      .ok ((pieces (escapeChars cs)).flatMap Piece.said) := by
    have h := renderPieces_inert hinert position styles []
    rw [List.append_nil] at h
    rw [h]
    simp [renderPieces, Except.map]
  have htagged (position : Nat) :
      renderPieces position styles (pieces (escapeChars cs ++ '[' :: more)) =
        .ok ((pieces (escapeChars cs)).flatMap Piece.said) := by
    rw [pieces_append_bracket hends.escapeChars, renderPieces_inert hinert, hmore]
    simp [Except.map]
  have hstands : Renders styles (escapeChars cs) cs ↔ Stands cs := renders_alone_iff
  rw [← hstands]
  unfold Renders
  simp only [halone, htagged]

/-- A tag that opens a style is not printed. -/
theorem renders_opening_iff {body : List Char} (hbody : IsTag body) (hopens : body.head? ≠ some '/') :
    Renders styles ('[' :: (body ++ ']' :: cs)) out ↔ Renders (styleName body :: styles) cs out := by
  have hstep (position : Nat) :
      renderPieces position styles (pieces ('[' :: (body ++ ']' :: cs))) =
        (renderPieces (position + (body.length + 2)) (styleName body :: styles) (pieces cs)).map id := by
    have hpieces : pieces ('[' :: (body ++ ']' :: cs)) = .tag 0 body :: pieces cs :=
      pieces_tag 0 hbody
    rw [hpieces, renderPieces]
    · simp only [Piece.width, Nat.zero_add, Nat.zero_mod, Nat.zero_div, slashes_zero, List.nil_append]
      rw [if_neg (by decide)]
      rfl
    · rintro closed rfl
      exact hopens rfl
  refine (renders_step_iff hstep).trans ⟨?_, fun h => ⟨out, rfl, h⟩⟩
  rintro ⟨out', rfl, h⟩
  exact h

/-- The tag that ends what is red. -/
theorem renders_closing_red : Renders ["red"] ['[', '/', 'r', 'e', 'd', ']'] [] := by
  have hclosed : renderPieces 0 ["red"] (pieces ['[', '/', 'r', 'e', 'd', ']']) = .ok [] := by
    decide +kernel
  exact renders_of_ok hclosed

end Converge.Markup

namespace Converge.Entry

open Converge.Markup Converge.Runner Converge.Text

/-! ## §3. The line. -/

theorem expandTabsFrom_of_no_tab {cs : List Char} (h : '\t' ∉ cs) (column : Nat) :
    expandTabsFrom column cs = cs := by
  induction cs generalizing column with
  | nil => rfl
  | cons c cs ih =>
    rw [List.mem_cons, not_or] at h
    rw [expandTabsFrom, if_neg (Ne.symm h.1)]
    split
    · rw [ih h.2]
    · rw [ih h.2]

theorem expandTabs_of_printable {s : String} (h : Printable s) : expandTabs s = s := by
  have htab : '\t' ∉ s.toList := fun hmem => (h _ hmem).1 rfl
  rw [expandTabs, expandTabsFrom_of_no_tab htab, String.ofList_toList]

/-- Rendering a printable text gives a printable one. -/
theorem printable_of_render {s t : String} (h : Printable s) (hrender : render s = .ok t) :
    Printable t := by
  have hrenders := (render_ok_iff h.clear).mp hrender
  exact fun c hc => h c ((sublist_of_renders hrenders).subset hc)

/-- What is printed of a text is not the text itself only if it is what it renders to. -/
theorem expandTabs_shown_iff {s t : String} (h : Printable s) (hne : s ≠ t) :
    expandTabs (shown s) = t ↔ render s = .ok t := by
  unfold shown
  cases hrender : render s with
  | ok u =>
    dsimp only
    rw [expandTabs_of_printable (printable_of_render h hrender), Except.ok.injEq]
  | error fault =>
    dsimp only
    rw [expandTabs_of_printable h]
    exact iff_of_false hne nofun

/-- The characters of the line about a failure. -/
theorem toList_failed (message : String) :
    (styled "red" ("✘ " ++ escape message)).toList =
      '[' :: (['r', 'e', 'd'] ++ ']' :: '✘' :: ' ' ::
        (escapeChars message.toList ++ ['[', '/', 'r', 'e', 'd', ']'])) := by
  have hescape : (escape message).toList = escapeChars message.toList := String.toList_ofList
  simp [styled, String.toList_append, hescape]

/-- **The line about a failure is printed as it is** exactly if the message stands, where the message holds
    no control character and does not end in a backslash. -/
theorem printed_failed_iff {message : String} (hprint : Printable message) (hends : Ends message.toList) :
    (Entry.failed message).printed = .line ("✘ " ++ message) ↔ Stands message.toList := by
  have hchars := toList_failed message
  have hmarkup : Printable (styled "red" ("✘ " ++ escape message)) := by
    have hopening : ∀ c ∈ ['[', 'r', 'e', 'd', ']', '✘', ' '], c ≠ '\t' ∧ isDropped c = false := by
      simp [isDropped]
    have hclosing : ∀ c ∈ ['[', '/', 'r', 'e', 'd', ']'], c ≠ '\t' ∧ isDropped c = false := by
      simp [isDropped]
    intro c hc
    rw [hchars] at hc
    change c ∈ ['[', 'r', 'e', 'd', ']', '✘', ' '] ++ _ at hc
    rcases List.mem_append.mp hc with hc | hc
    · exact hopening c hc
    · rcases List.mem_append.mp hc with hc | hc
      · rcases mem_escapeChars hc with rfl | hc
        · decide
        · exact hprint c hc
      · exact hclosing c hc
  have hne : styled "red" ("✘ " ++ escape message) ≠ "✘ " ++ message := by
    intro heq
    have hlist := congrArg String.toList heq
    rw [hchars, String.toList_append] at hlist
    cases hlist
  have hprinted : (Entry.failed message).printed =
      .line (expandTabs (shown (styled "red" ("✘ " ++ escape message)))) := rfl
  rw [hprinted, Printed.line.injEq, expandTabs_shown_iff hmarkup hne, render_ok_iff hmarkup.clear,
    hchars, String.toList_append]
  calc Renders [] ('[' :: (['r', 'e', 'd'] ++ ']' :: '✘' :: ' ' ::
          (escapeChars message.toList ++ ['[', '/', 'r', 'e', 'd', ']']))) ("✘ ".toList ++ message.toList)
      ↔ Renders ["red"] ('✘' :: ' ' :: (escapeChars message.toList ++ ['[', '/', 'r', 'e', 'd', ']']))
          ("✘ ".toList ++ message.toList) := by
        have hname : styleName ['r', 'e', 'd'] = "red" := by decide +kernel
        have hbody : IsTag ['r', 'e', 'd'] := ⟨⟨'r', ['e', 'd'], rfl, by decide⟩, by simp [isBracket]⟩
        rw [renders_opening_iff hbody (by decide), hname]
    _ ↔ Renders ["red"] (escapeChars message.toList ++ ['[', '/', 'r', 'e', 'd', ']'])
          message.toList :=
        (renders_cons_iff (by decide) (by decide)).trans (renders_cons_iff (by decide) (by decide))
    _ ↔ Stands message.toList := renders_tagged_iff hends renders_closing_red

end Converge.Entry
