/-
  Converge.Proofs.Table
  ─────────────────────
  **WHEN THE TABLE SHOWS WHAT WAS FOUND.**

  Names of resources and what differs come from users, and a table is markup.  Each text is escaped by
  itself, and a cell puts several of them together, so a bracket that is opened in one text may be closed
  in another, and backslashes before a bracket or at the end of a text are not always shown as they are.
  A row shows what it should exactly if its texts stand, each by itself and next to one another.

  Main results:
    * `render_differences_iff` — when the last cell of a row is what it should be;
    * `display_literal_iff` — when the table is.
-/
import Converge.Proofs.Exactness
import Converge.Proofs.Literal
import Converge.Proofs.Loading
import Converge.Proofs.Runs

namespace Converge.Runner

open Converge.Machine Act

/-! ## §1. What should be shown. -/

/-- A difference, with a function applied to what is there and to what is declared. -/
def differenceWith (f : String → String) (d : Difference) : String :=
  d.field ++ ": " ++ f d.actual.plain ++ " → " ++ f d.desired.plain

/-- A difference as it should be shown. -/
def differenceText (d : Difference) : String := differenceWith id d

/-- A row as it should be shown. -/
def literalRow (o : Outcome) : List String :=
  match o.state with
  | none => [o.resource.id, "-", "-", "-", "error"]
  | some s =>
    [o.resource.id, s.current.name, s.want.name, if s.update then "sí" else "no",
      if o.ok then "\n".intercalate (s.differences.map differenceText) else "error"]

/-- The texts of differences, in the order in which they are shown. -/
def textsOf (ds : List Difference) : List (List Char) :=
  ds.flatMap fun d => [d.actual.plain.toList, d.desired.plain.toList]

/-- The texts of a row stand, each by itself and those of the last cell next to one another. -/
structure Legible (o : Outcome) : Prop where
  id : Markup.Stands o.resource.id.toList
  texts : ∀ s, o.state = some s → o.ok = true → ∀ t ∈ textsOf s.differences, Markup.Stands t
  apart : ∀ s, o.state = some s → o.ok = true → ¬ Markup.Straddles (textsOf s.differences)

/-- The text holds no tab and no character that is not printed. -/
def Printable (s : String) : Prop := ∀ c ∈ s.toList, c ≠ '\t' ∧ Markup.isDropped c = false

instance (s : String) : Decidable (Printable s) :=
  List.decidableBAll _ s.toList

theorem Printable.clear {s : String} (h : Printable s) : Markup.Clear s.toList := fun c hc => (h c hc).2

/-- The differences are of attributes that are compared, and what differs is printable. -/
structure Sound (ds : List Difference) : Prop where
  fields : ∀ d ∈ ds, d.field ∈ FileResource.Attribute.names
  texts : ∀ d ∈ ds, Printable d.actual.plain ∧ Printable d.desired.plain

/-- What is shown of an outcome is printable. -/
structure Shows (o : Outcome) : Prop where
  id : Printable o.resource.id
  differences : ∀ s, o.state = some s → Sound s.differences

/-! ## §2. Cells with one text. -/

theorem render_bare {s : String} (hbare : Markup.Bare s.toList) (hprint : Printable s) :
    Markup.render s = .ok s := by
  rw [Markup.render_ok_iff hprint.clear]
  simpa using (Markup.renders_lead_iff hbare).mpr Markup.renders_nil

theorem render_escape_iff {s : String} (h : Printable s) :
    Markup.render (Markup.escape s) = .ok s ↔ Markup.Stands s.toList := by
  have hchars : (Markup.escape s).toList = Markup.escapeChars s.toList := String.toList_ofList
  rw [Markup.render_ok_iff (by rw [hchars]; exact h.clear.escapeChars), hchars,
    Markup.renders_alone_iff]

theorem render_errorMarkup : Markup.render errorMarkup = .ok "error" := by decide +kernel

theorem render_name (e : Existence) : Markup.render e.name = .ok e.name := by
  cases e <;> exact render_bare (by decide) (by decide)

/-! ## §3. Cells with differences. -/

/-- The texts of differences behind the first one, each behind what is put before it. -/
def partsOf (ds : List Difference) : List (List Char × List Char) :=
  ds.flatMap fun d =>
    [('\n' :: (d.field ++ ": ").toList, d.actual.plain.toList), (" → ".toList, d.desired.plain.toList)]

theorem map_partsOf (ds : List Difference) : (partsOf ds).map (·.2) = textsOf ds := by
  unfold partsOf textsOf
  rw [List.map_flatMap]
  rfl

/-- A cell with differences, text by text. -/
theorem toList_differences {f : String → String} {g : List Char → List Char}
    (hf : ∀ s, (f s).toList = g s.toList) (d : Difference) (ds : List Difference) :
    ("\n".intercalate ((d :: ds).map (differenceWith f))).toList =
      (d.field ++ ": ").toList ++ (g d.actual.plain.toList ++
        Markup.weave g ((" → ".toList, d.desired.plain.toList) :: partsOf ds)) := by
  induction ds generalizing d with
  | nil => simp [differenceWith, Markup.weave, partsOf, hf]
  | cons d' ds ih =>
    have ih := ih d'
    rw [String.toList_intercalate] at ih ⊢
    rw [List.map_cons, List.map_cons, List.map_cons, List.map_cons, List.intercalate_cons_cons]
    rw [List.map_cons, List.map_cons] at ih
    rw [ih]
    simp [differenceWith, Markup.weave, partsOf, hf]

/-- The name of an attribute has no part in tags and is printable. -/
theorem bare_field {field : String} (h : field ∈ FileResource.Attribute.names) :
    Markup.Bare (field ++ ": ").toList ∧ Markup.Clear (field ++ ": ").toList := by
  simp only [FileResource.Attribute.names, List.mem_cons, List.not_mem_nil, or_false] at h
  rcases h with rfl | rfl | rfl <;> decide

theorem glue_arrow : Markup.Glue " → ".toList := ⟨by decide, ' ', _, rfl, by decide⟩

theorem glue_partsOf {ds : List Difference} (h : ∀ d ∈ ds, d.field ∈ FileResource.Attribute.names) :
    ∀ p ∈ partsOf ds, Markup.Glue p.1 := by
  intro p hp
  obtain ⟨d, hd, hp⟩ := List.mem_flatMap.mp hp
  rcases List.mem_pair.mp hp with rfl | rfl
  · refine ⟨?_, '\n', _, rfl, by decide⟩
    exact List.forall_mem_cons.mpr ⟨by decide, (bare_field (h d hd)).1⟩
  · exact glue_arrow

theorem clear_partsOf {ds : List Difference} (h : Sound ds) :
    ∀ p ∈ partsOf ds, Markup.Clear p.1 ∧ Markup.Clear (Markup.escapeChars p.2) := by
  have harrow : Markup.Clear " → ".toList := by decide
  intro p hp
  obtain ⟨d, hd, hp⟩ := List.mem_flatMap.mp hp
  rcases List.mem_pair.mp hp with rfl | rfl
  · have hlead : Markup.Clear ('\n' :: (d.field ++ ": ").toList) :=
      List.forall_mem_cons.mpr ⟨by decide, (bare_field (h.fields d hd)).2⟩
    exact ⟨hlead, (h.texts d hd).1.clear.escapeChars⟩
  · exact ⟨harrow, (h.texts d hd).2.clear.escapeChars⟩

/-- **The last cell of a row shows the differences as they are** exactly if their texts stand, each by
    itself and next to one another. -/
theorem render_differences_iff {ds : List Difference} (h : Sound ds) :
    Markup.render ("\n".intercalate (ds.map differenceMarkup)) =
        .ok ("\n".intercalate (ds.map differenceText)) ↔
      (∀ t ∈ textsOf ds, Markup.Stands t) ∧ ¬ Markup.Straddles (textsOf ds) := by
  cases ds with
  | nil =>
    have hempty : Markup.render "" = .ok "" := render_bare (by decide) (by decide)
    simpa [textsOf, Markup.not_straddles_nil] using hempty
  | cons d ds =>
    show Markup.render ("\n".intercalate ((d :: ds).map (differenceWith Markup.escape))) =
      .ok ("\n".intercalate ((d :: ds).map (differenceWith id))) ↔ _
    have hmarkup := toList_differences (f := Markup.escape) (g := Markup.escapeChars)
      (fun _ => String.toList_ofList) d ds
    have htext := toList_differences (f := id) (g := id) (fun _ => rfl) d ds
    obtain ⟨hbare, hlead⟩ := bare_field (h.fields d List.mem_cons_self)
    have hclear : Markup.Clear ("\n".intercalate ((d :: ds).map (differenceWith Markup.escape))).toList := by
      rw [hmarkup]
      refine hlead.append ((h.texts d List.mem_cons_self).1.clear.escapeChars.append ?_)
      -- what is behind the first text is behind it among the parts of all differences
      exact .weave fun p hp => clear_partsOf h p (List.mem_cons_of_mem _ hp)
    have hglue : ∀ p ∈ (" → ".toList, d.desired.plain.toList) :: partsOf ds, Markup.Glue p.1 :=
      List.forall_mem_cons.mpr ⟨glue_arrow, glue_partsOf (List.forall_mem_cons.mp h.fields).2⟩
    rw [Markup.render_ok_iff hclear, hmarkup, htext]
    refine (Markup.renders_lead_iff hbare).trans ((Markup.renders_woven_iff hglue).trans ?_)
    rw [List.map_cons, map_partsOf]
    rfl

/-! ## §4. The table. -/

/-- Of a row without differences only the name of the resource comes from a user. -/
theorem legible_iff_of_failed {o : Outcome} (h : o.state = none ∨ o.ok = false) :
    Legible o ↔ Markup.Stands o.resource.id.toList := by
  refine ⟨Legible.id, fun hid => ⟨hid, ?_, ?_⟩⟩
  all_goals
    intro s hs hok
    rcases h with h | h
    · rw [h] at hs
      cases hs
    · rw [h] at hok
      cases hok

theorem legible_iff_of_ok {o : Outcome} {s : State} (hs : o.state = some s) (hok : o.ok = true) :
    Legible o ↔ Markup.Stands o.resource.id.toList ∧
      (∀ t ∈ textsOf s.differences, Markup.Stands t) ∧ ¬ Markup.Straddles (textsOf s.differences) := by
  constructor
  · exact fun h => ⟨h.id, h.texts s hs hok, h.apart s hs hok⟩
  · rintro ⟨hid, htexts, hapart⟩
    have hsame : ∀ s', o.state = some s' → s' = s := fun s' hs' => Option.some.inj (hs'.symm.trans hs)
    refine ⟨hid, fun s' hs' _ => ?_, fun s' hs' _ => ?_⟩
    · rw [hsame s' hs']
      exact htexts
    · rw [hsame s' hs']
      exact hapart

/-- **A row shows what it should** exactly if it is legible. -/
theorem rowMarkup_iff {o : Outcome} (h : Shows o) :
    (rowMarkup o).mapM Markup.render = .ok (literalRow o) ↔ Legible o := by
  have hdash : Markup.render "-" = .ok "-" := render_bare (by decide) (by decide)
  have hyes : Markup.render "sí" = .ok "sí" := render_bare (by decide) (by decide)
  have hno : Markup.render "no" = .ok "no" := render_bare (by decide) (by decide)
  rw [mapM_ok_iff]
  unfold rowMarkup literalRow
  cases hs : o.state with
  | none =>
    rw [legible_iff_of_failed (.inl hs)]
    simp only [List.forall₂_cons, List.forall₂_nil_left_iff, render_escape_iff h.id, hdash,
      render_errorMarkup, and_true]
  | some s =>
    have hupdate : Markup.render (if s.update then "sí" else "no") =
        .ok (if s.update then "sí" else "no") := by
      split
      · exact hyes
      · exact hno
    cases hok : o.ok with
    | false =>
      rw [legible_iff_of_failed (.inr hok)]
      simp only [List.forall₂_cons, List.forall₂_nil_left_iff, render_escape_iff h.id, render_name,
        hupdate, Bool.false_eq_true, if_false, render_errorMarkup, and_true]
    | true =>
      rw [legible_iff_of_ok hs hok]
      simp only [List.forall₂_cons, List.forall₂_nil_left_iff, render_escape_iff h.id, render_name,
        hupdate, if_true, render_differences_iff (h.differences s hs), and_true, true_and]

theorem rows_iff {outcomes : List Outcome} (h : ∀ o ∈ outcomes, Shows o) :
    rows outcomes = .ok (outcomes.map literalRow) ↔ ∀ o ∈ outcomes, Legible o := by
  unfold rows
  rw [mapM_ok_iff, List.forall₂_map_right_iff, List.forall₂_same]
  exact forall₂_congr fun o ho => rowMarkup_iff (h o ho)

/-- The session after a table with the rows has been printed. -/
def printed (title : String) (outcomes : List Outcome) (rows : List (List String)) (s : Session) :
    Session :=
  { s with transcript := s.transcript ++
      [.table ⟨title, columns, rows⟩, .summary (outcomes.countP fun o => !o.ok) outcomes.length] }

theorem display_of_rows {outcomes : List Outcome} {rs : List (List String)}
    (h : rows outcomes = .ok rs) (title : String) (s : Session) :
    perform (display title outcomes) s = (.ok (), printed title outcomes rs s) := by
  unfold display printed
  rw [h, perform_bind, perform_say]
  simp [perform_say]

theorem display_of_fault {outcomes : List Outcome} {fault : MarkupFault}
    (h : rows outcomes = .error fault) (title : String) (s : Session) :
    perform (display title outcomes) s = (.error (.markup fault), s) := by
  unfold display
  rw [h]
  exact perform_throw _ s

/-- **The table shows what was found** exactly if every row is legible.  In any case the machine is left
    alone, and a table is printed with one row for each outcome, or nothing is printed and a tag that closes
    nothing is reported. -/
theorem display_literal_iff (title : String) {outcomes : List Outcome} (h : ∀ o ∈ outcomes, Shows o)
    (s : Session) :
    ((∃ rs, rs.length = outcomes.length ∧
        perform (display title outcomes) s = (.ok (), printed title outcomes rs s)) ∨
      ∃ fault, perform (display title outcomes) s = (.error (.markup fault), s)) ∧
    (perform (display title outcomes) s =
        (.ok (), printed title outcomes (outcomes.map literalRow) s) ↔
      ∀ o ∈ outcomes, Legible o) := by
  rw [← rows_iff h]
  cases hrows : rows outcomes with
  | error fault =>
    rw [display_of_fault hrows]
    exact ⟨.inr ⟨fault, rfl⟩, by simp⟩
  | ok rs =>
    have hlength := (mapM_ok_iff.mp hrows).length_eq.symm
    rw [display_of_rows hrows]
    exact ⟨.inl ⟨rs, hlength, rfl⟩, by simp [printed]⟩

/-- A file whose name has brackets, and whose mode is not the declared one. -/
def bracketFile : Outcome where
  resource := ⟨"/[b]", "/[b]", 0o644, "root", "root", none, .present⟩
  state := some (.ofPresent .present
    [⟨"file[/[b]]", "mode", .text "0644", .text "0640", Difference.warning⟩])

/-- Brackets in a name are shown. -/
theorem bracketed_shown : (∀ o ∈ [bracketFile], Shows o) ∧
    perform (display "Plan" [bracketFile]) ⟨bare, []⟩ = (.ok (), printed "Plan" [bracketFile]
      [["file[/[b]]", "present", "present", "sí", "mode: 0640 → 0644"]] ⟨bare, []⟩) := by
  have hshows : ∀ o ∈ [bracketFile], Shows o := by
    intro o ho
    rw [List.mem_singleton.mp ho]
    refine ⟨by decide, fun s hs => ?_⟩
    cases hs
    exact ⟨by decide, by decide⟩
  refine ⟨hshows, (display_literal_iff "Plan" hshows ⟨bare, []⟩).2.mpr ?_⟩
  intro o ho
  rw [List.mem_singleton.mp ho]
  refine ⟨Markup.stands_of_not_mem (by decide), ?_, ?_⟩
  · intro s hs _ t ht
    cases hs
    exact Markup.stands_of_not_mem (by revert t; decide)
  · intro s hs _
    cases hs
    exact Markup.not_straddles_of_not_mem (by decide)

/-- A machine with a site, where a bracket is opened in the name of a file and closed in that of a
    source. -/
def crossed : Machine :=
  { bare with disk := ⟨[(["[a"], ⟨.file [97], 0o644, 0, 0⟩), (["s"], .plainDirectory),
      (["s", "data"], .plainDirectory), (["s", "data", "b]"], ⟨.file [98], 0o644, 0, 0⟩)]⟩ }

/-- The site of that machine. -/
def crossedSite : Options := { site := some (Path.ofString "/s") }

/-- The file with that source. -/
def crossedFile : FileResource := ⟨"/[a", "/[a", 0o644, "root", "root", some "b]", .present⟩

/-- What a comparison finds. -/
def crossedState : State :=
  .ofPresent .present
    [⟨"file[/[a]", "content", .text "/s/data/b]", .text "/[a", Difference.info⟩]

theorem stat_crossed : crossed.stat "/[a" = .ok ⟨.file [97], 0o644, 0, 0⟩ := by
  have hroot : crossed.disk.node? [] = some .plainDirectory := rfl
  have hturn : turn crossed.disk true linkBudget [] "[a" true = .go linkBudget ["[a"] [] := rfl
  refine stat_ok_iff.mpr ⟨rfl, ["[a"], ?_⟩
  unfold arrive
  rw [show steps "/[a" = ["[a"] by decide]
  exact (walk_go hroot rfl hturn).trans (walk_arrived rfl)

theorem read_crossed : crossed.read "/s/data/b]" = .ok [98] := by
  have hroot : crossed.disk.node? [] = some .plainDirectory := rfl
  have hsite : crossed.disk.node? ["s"] = some .plainDirectory := rfl
  have hdata : crossed.disk.node? ["s", "data"] = some .plainDirectory := rfl
  have hturn : turn crossed.disk true linkBudget [] "s" false = .go linkBudget ["s"] [] := rfl
  have hdown : turn crossed.disk true linkBudget ["s"] "data" false =
      .go linkBudget ["s", "data"] [] := rfl
  have hlast : turn crossed.disk true linkBudget ["s", "data"] "b]" true =
      .go linkBudget ["s", "data", "b]"] [] := rfl
  have hthere : crossed.arrive "/s/data/b]" =
      .ok (.present ["s", "data", "b]"] ⟨.file [98], 0o644, 0, 0⟩) := by
    unfold arrive
    rw [show steps "/s/data/b]" = ["s", "data", "b]"] by decide]
    exact (walk_go hroot rfl hturn).trans <| (walk_go hsite rfl hdown).trans <|
      (walk_go hdata rfl hlast).trans (walk_arrived rfl)
  rw [read_eq, hthere]
  rfl

open FileResource in
theorem evaluate_crossed : crossedFile.evaluate crossedSite crossed = .ok crossedState := by
  have hstat := stat_crossed
  have hfile : crossed.read (Path.ofString crossedFile.path).toString = .ok [97] :=
    read_of_stat rfl hstat rfl
  have hsource : crossedFile.sourcePath crossedSite = .ok (some ⟨.root, ["s", "data", "b]"]⟩) := rfl
  have htext : (⟨.root, ["s", "data", "b]"]⟩ : Path).toString = "/s/data/b]" := by decide
  have hdiffers : Checksum.ofContent [98] ≠ Checksum.ofContent [97] := by decide +kernel
  have howner : crossedFile.ownerDifference ⟨.file [97], 0o644, 0, 0⟩ crossed = .ok none := rfl
  rw [evaluate_of_ownerDifference hstat rfl howner]
  unfold contentDifference Checksum.contentChanged Checksum.ofFile
  rw [hfile, hsource]
  simp only [bind, Except.bind, htext, read_crossed, Except.map, mapError_ok, pure, Except.pure,
    bne_iff_ne.mpr hdiffers, if_true]
  rfl

/-- **A difference of which nothing is left but a slash.**  The bracket in the name of the file is closed in
    that of the source, so all between them is taken for a tag. -/
theorem crossed_lost :
    perform (run .plan crossedSite [crossedFile]) ⟨crossed, []⟩ =
      (.ok [success crossedFile crossedState], ⟨crossed, []⟩) ∧
    (∀ o ∈ [success crossedFile crossedState], Shows o) ∧
    literalRow (success crossedFile crossedState) =
      ["file[/[a]", "present", "present", "sí", "content: /[a → /s/data/b]"] ∧
    perform (display "Plan" [success crossedFile crossedState]) ⟨crossed, []⟩ =
      (.ok (), printed "Plan" [success crossedFile crossedState]
        [["file[/[a]", "present", "present", "sí", "content: /"]] ⟨crossed, []⟩) := by
  refine ⟨?ran, ?shows, ?literal, ?lost⟩
  case ran =>
    have hone : perform (runOne .plan crossedSite crossedFile) ⟨crossed, []⟩ =
        (.ok (success crossedFile crossedState), ⟨crossed, []⟩) := by
      unfold runOne step
      rw [perform_tryCatch, perform_bind, perform_observe, evaluate_crossed]
      rfl
    rw [run_cons, perform_bind, hone]
    rfl
  case shows =>
    intro o ho
    rw [List.mem_singleton.mp ho]
    refine ⟨by decide, fun s hs => ?_⟩
    cases hs
    exact ⟨by decide, by decide⟩
  case literal => rfl
  case lost =>
    have hrows : rows [success crossedFile crossedState] =
        .ok [["file[/[a]", "present", "present", "sí", "content: /"]] := by decide +kernel
    exact display_of_rows hrows "Plan" _

end Converge.Runner
