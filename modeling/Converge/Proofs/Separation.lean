/-
  Converge.Proofs.Separation
  ──────────────────────────
  **RESOURCES APART FROM EACH OTHER DO NOT INTERACT.**

  Where there are no links, each resource works at the place that its path spells and reads the places
  above it.  If no path of a list leads through another, then every resource finds its way as it was at
  the start, so what becomes of it in a run is what would have become of it alone, and the order does
  not matter.

  Main results:
    * `run_apart` — a run from a machine on which all ways are as they were;
    * `separate_resources_do_not_interact` — a run is all its single runs put together.
-/
import Converge.Proofs.Containment
import Converge.Proofs.Locality

namespace Converge.Runner

open Converge.Machine Act FileResource

/-! ## §1. Resources apart from each other. -/

/-- An absolute path in normal form: it is spelled by its names, none of which is `.` or `..`. -/
structure Normal (path : String) : Prop where
  /-- No slashes but one before each name. -/
  spelled : path = "/" ++ "/".intercalate (namesOf path)
  /-- No name stands for the directory itself. -/
  noDot : "." ∉ namesOf path
  /-- No name stands for the directory above. -/
  noUp : ".." ∉ namesOf path

theorem Normal.plain {path : String} (h : Normal path) : Plain path where
  absolute := by
    rw [h.spelled]
    unfold isAbsolute
    rw [String.toList_append]
    rfl
  noDot := h.noDot
  noUp := h.noUp

theorem Normal.eq_of_names {p q : String} (hp : Normal p) (hq : Normal q)
    (h : namesOf p = namesOf q) : p = q := by
  rw [hp.spelled, hq.spelled, h]

/-- The first path is a proper ancestor of the second. -/
def Above (p q : String) : Prop := namesOf p <+: namesOf q ∧ namesOf p ≠ namesOf q

/-- Neither path leads through the other. -/
def Apart (r r' : FileResource) : Prop :=
  ¬ namesOf r.path <+: namesOf r'.path ∧ ¬ namesOf r'.path <+: namesOf r.path

/-- Resources without sources whose paths are in normal form, hold no NUL, are distinct, and none of
    which is an ancestor of another. -/
structure Separate (rs : List FileResource) : Prop where
  normal : ∀ r ∈ rs, Normal r.path
  noNul : ∀ r ∈ rs, hasNul r.path = false ∧ hasNul r.owner = false ∧ hasNul r.group = false
  noSource : ∀ r ∈ rs, r.source.getD "" = ""
  distinct : (rs.map (·.path)).Nodup
  unrelated : ∀ r ∈ rs, ∀ r' ∈ rs, ¬ Above r.path r'.path

theorem Separate.perm {rs rs' : List FileResource} (h : Separate rs) (hperm : rs'.Perm rs) :
    Separate rs' where
  normal r hr := h.normal r (hperm.mem_iff.mp hr)
  noNul r hr := h.noNul r (hperm.mem_iff.mp hr)
  noSource r hr := h.noSource r (hperm.mem_iff.mp hr)
  distinct := (hperm.map _).nodup_iff.mpr h.distinct
  unrelated r hr r' hr' := h.unrelated r (hperm.mem_iff.mp hr) r' (hperm.mem_iff.mp hr')

/-- Of two paths that are distinct and no ancestors of each other, neither leads through the other. -/
theorem Separate.apart {rs : List FileResource} (h : Separate rs) : rs.Pairwise Apart := by
  have hdistinct : rs.Pairwise fun r r' => r.path ≠ r'.path := List.pairwise_map.mp h.distinct
  refine hdistinct.imp_of_mem ?_
  intro r r' hr hr' hne
  constructor
  · intro hpre
    refine h.unrelated r hr r' hr' ⟨hpre, ?_⟩
    exact fun heq => hne ((h.normal r hr).eq_of_names (h.normal r' hr') heq)
  · intro hpre
    refine h.unrelated r' hr' r hr ⟨hpre, ?_⟩
    exact fun heq => hne ((h.normal r hr).eq_of_names (h.normal r' hr') heq.symm)

theorem Separate.nulFree {rs : List FileResource} (h : Separate rs) {r : FileResource} (hr : r ∈ rs)
    (o : Options) (a : Accounts) : r.NulFree o a where
  path := (h.noNul r hr).1
  names := by
    obtain ⟨-, howner, hgroup⟩ := h.noNul r hr
    intro hnames
    rcases hnames with hnul | ⟨-, hnul⟩
    · rw [howner] at hnul
      cases hnul
    · rw [hgroup] at hnul
      cases hnul
  source p hp := by
    rw [sourcePath_none (h.noSource r hr)] at hp
    cases hp

/-! ## §2. A run beside single runs. -/

section Beside

variable {o : Options} {s : Session} {outcome : FileResource → Outcome}
  {lines : FileResource → Transcript} {alone : FileResource → Session}

/-- What becomes of a resource alone, from the session `s`. -/
def Alone (o : Options) (s : Session) (outcome : FileResource → Outcome)
    (lines : FileResource → Transcript) (alone : FileResource → Session) (r : FileResource) : Prop :=
  perform (runOne .apply o r) s = (.ok (outcome r), alone r) ∧
    (alone r).transcript = s.transcript ++ lines r

/-- One resource, from a session whose machine is as in `s` along the path. -/
theorem runOne_beside {r : FileResource} (hpath : Plain r.path) (hsource : r.source.getD "" = "")
    (halone : Alone o s outcome lines alone r) {s₁ : Session}
    (hs₁ : Alike r.path s.machine s₁.machine) :
    ∃ s₂, perform (runOne .apply o r) s₁ = (.ok (outcome r), s₂) ∧
      s₂.transcript = s₁.transcript ++ lines r ∧
      s₂.machine.disk.node? (namesOf r.path) = (alone r).machine.disk.node? (namesOf r.path) ∧
      (∃ d, s₂.machine = { s₁.machine with disk := d }) ∧
      ∀ q, q ≠ namesOf r.path → s₂.machine.disk.node? q = s₁.machine.disk.node? q := by
  obtain ⟨result, s', s₂, said, hp, hp', hrel, hsaid, hsaid'⟩ :=
    twin_runOne (o := o) hpath hsource s s₁ hs₁
  rw [halone.1, Prod.mk.injEq] at hp
  obtain ⟨rfl, rfl⟩ := hp
  have hlines : said = lines r := List.append_cancel_left (hsaid.symm.trans halone.2)
  subst hlines
  have hfootprint : Footprint r s₁.machine s₂.machine := by
    have hstep := machine_runOne .apply o r s₁
    rw [hp'] at hstep
    rw [show s₂.machine = (perform (r.reconcile o) s₁).2.machine from hstep]
    exact reconcile_footprint r o s₁
  refine ⟨s₂, hp', hsaid', ?_, hfootprint.onDisk, ?_⟩
  · obtain ⟨d, hd, hmatches⟩ := hrel
    rw [hd]
    exact hmatches.same _ (List.prefix_refl _)
  · intro q hq
    obtain ⟨d, hd, hmatches⟩ := hs₁
    refine hfootprint.elsewhere hpath ?_ hq
    intro p n hpre hn
    rw [hd] at hn
    rw [hmatches.same p hpre] at hn
    exact hmatches.clear p n hpre hn

/-- **A run from a machine on which all ways are as in `s`**: each resource has the outcome that it has
    alone, its place ends up as it does alone, and all other places stay. -/
theorem run_apart (rs : List FileResource) (s₁ : Session) (hapart : rs.Pairwise Apart)
    (hplain : ∀ r ∈ rs, Plain r.path ∧ r.source.getD "" = "")
    (halone : ∀ r ∈ rs, Alone o s outcome lines alone r)
    (halike : ∀ r ∈ rs, Alike r.path s.machine s₁.machine) :
    ∃ s₂, perform (run .apply o rs) s₁ = (.ok (rs.map outcome), s₂) ∧
      s₂.transcript = s₁.transcript ++ rs.flatMap lines ∧
      (∀ r ∈ rs, s₂.machine.disk.node? (namesOf r.path) =
        (alone r).machine.disk.node? (namesOf r.path)) ∧
      ∀ q, (∀ r ∈ rs, q ≠ namesOf r.path) →
        s₂.machine.disk.node? q = s₁.machine.disk.node? q := by
  induction rs generalizing s₁ with
  | nil =>
    refine ⟨s₁, rfl, by simp, ?_, fun q _ => rfl⟩
    intro r hr
    cases hr
  | cons r rest ih =>
    rw [List.pairwise_cons] at hapart
    obtain ⟨hfirst, hrest⟩ := hapart
    have hmem : r ∈ r :: rest := List.mem_cons_self
    obtain ⟨s₂, hone, hlines, hplace, ⟨d₂, hd₂⟩, helse⟩ := runOne_beside (hplain r hmem).1
      (hplain r hmem).2 (halone r hmem) (halike r hmem)
    -- the ways of the others do not lead through the place of this one
    have halike₂ : ∀ r' ∈ rest, Alike r'.path s.machine s₂.machine := by
      intro r' hr'
      obtain ⟨d, hd, hmatches⟩ := halike r' (List.mem_cons_of_mem r hr')
      refine ⟨d₂, by rw [hd₂, hd], ?_, hmatches.clear⟩
      intro q hq
      have hne : q ≠ namesOf r.path := by
        intro heq
        subst heq
        exact (hfirst r' hr').1 hq
      have hsame := helse q hne
      rw [hd₂, hd] at hsame
      exact hsame.trans (hmatches.same q hq)
    obtain ⟨s₃, hrun, hlines', hplaces, helse'⟩ := ih s₂ hrest
      (fun r' hr' => hplain r' (List.mem_cons_of_mem r hr'))
      (fun r' hr' => halone r' (List.mem_cons_of_mem r hr')) halike₂
    refine ⟨s₃, ?_, ?_, ?_, ?_⟩
    · rw [run_cons, perform_bind, hone]
      dsimp only
      rw [perform_bind, hrun]
      rfl
    · rw [hlines', hlines, List.flatMap_cons, List.append_assoc]
    · -- the place of the first resource stays as it left it
      intro r' hr'
      rcases List.mem_cons.mp hr' with rfl | hr'
      · rw [helse' _ ?_, hplace]
        intro r'' hr'' heq
        exact (hfirst r'' hr'').1 (heq ▸ List.prefix_refl _)
      · exact hplaces r' hr'
    · intro q hq
      rw [helse' q fun r' hr' => hq r' (List.mem_cons_of_mem r hr'), helse q (hq r hmem)]

end Beside

/-! ## §3. Runs in any order. -/

/-- No node is a link. -/
def LinkFree (d : Disk) : Prop := ∀ q node, d.node? q = some node → node.isLink = false

/-- The disk seen as `view` is `before` with everything that the disks `after` have changed. -/
structure Gathers (before : Disk) (after : List Disk) (view : Place → Option Node) : Prop where
  /-- What one of them has changed is as it left it. -/
  changed : ∀ d ∈ after, ∀ q, d.node? q ≠ before.node? q → view q = d.node? q
  /-- What none of them has changed is as it was. -/
  kept : ∀ q, (∀ d ∈ after, d.node? q = before.node? q) → view q = before.node? q

section Orders

variable {o : Options} {s : Session} {rs : List FileResource}

/-- The outcome of a resource alone. -/
def outcomeAlone (o : Options) (s : Session) (r : FileResource) : Outcome :=
  match (perform (runOne .apply o r) s).1 with
  | .ok outcome => outcome
  | .error f => fault r f

/-- The session after a resource alone. -/
def sessionAlone (o : Options) (s : Session) (r : FileResource) : Session :=
  (perform (runOne .apply o r) s).2

/-- What a resource alone prints. -/
def linesAlone (o : Options) (s : Session) (r : FileResource) : Transcript :=
  (sessionAlone o s r).transcript.drop s.transcript.length

theorem alike_of_linkFree (hlinks : LinkFree s.machine.disk) (path : String) :
    Alike path s.machine s.machine :=
  Alike.refl fun q n _ hn => hlinks q n hn

theorem alone_of_separate (hlinks : LinkFree s.machine.disk) (hrs : Separate rs) {r : FileResource}
    (hr : r ∈ rs) :
    Alone o s (outcomeAlone o s) (linesAlone o s) (sessionAlone o s) r := by
  have hnul : ¬ MeetsNul .apply o r s.machine :=
    not_meetsNul_of_nulFree (hrs.nulFree hr o s.machine.accounts) rfl
  obtain ⟨outcome, s₁, hone, -⟩ := runOne_of_not_meetsNul hnul
  obtain ⟨result, s', s'', said, hp, -, -, hsaid, -⟩ :=
    twin_runOne (o := o) (hrs.normal r hr).plain (hrs.noSource r hr) s s
      (alike_of_linkFree hlinks r.path)
  rw [hone, Prod.mk.injEq] at hp
  obtain ⟨-, rfl⟩ := hp
  unfold Alone linesAlone sessionAlone outcomeAlone
  rw [hone]
  refine ⟨rfl, ?_⟩
  dsimp only
  rw [hsaid, List.drop_left]

/-- A resource alone changes at most the place that its path spells. -/
theorem elsewhere_alone (hlinks : LinkFree s.machine.disk) (hrs : Separate rs) {r : FileResource}
    (hr : r ∈ rs) {q : Place} (hq : q ≠ namesOf r.path) :
    (sessionAlone o s r).machine.disk.node? q = s.machine.disk.node? q := by
  obtain ⟨s₂, hone, -, -, -, helse⟩ := runOne_beside (hrs.normal r hr).plain (hrs.noSource r hr)
    (alone_of_separate (o := o) hlinks hrs hr) (alike_of_linkFree hlinks r.path)
  unfold sessionAlone
  rw [hone]
  exact helse q hq

/-- A view that gives each resource's place as it is alone, and all other places as they were, gathers
    what the resources do alone. -/
theorem gathers_of_places (hlinks : LinkFree s.machine.disk) (hrs : Separate rs)
    {view : Place → Option Node}
    (hplaces : ∀ r ∈ rs, view (namesOf r.path) =
      (sessionAlone o s r).machine.disk.node? (namesOf r.path))
    (helse : ∀ q, (∀ r ∈ rs, q ≠ namesOf r.path) → view q = s.machine.disk.node? q) :
    Gathers s.machine.disk (rs.map fun r => (sessionAlone o s r).machine.disk) view where
  changed d hd q hq := by
    obtain ⟨r, hr, rfl⟩ := List.mem_map.mp hd
    by_cases hqr : q = namesOf r.path
    · rw [hqr]
      exact hplaces r hr
    · exact absurd (elsewhere_alone hlinks hrs hr hqr) hq
  kept q hq := by
    by_cases hat : ∃ r ∈ rs, q = namesOf r.path
    · obtain ⟨r, hr, rfl⟩ := hat
      rw [hplaces r hr]
      exact hq _ (List.mem_map_of_mem hr)
    · refine helse q fun r hr heq => ?_
      exact hat ⟨r, hr, heq⟩

/-- **Resources apart from each other do not interact.**  Without links, every run over the resources,
    in whatever order, gives each of them the outcome that it has alone and prints what each of them
    prints alone; it leaves the disk as it was with what each of them changes alone, so all orders
    leave the same nodes. -/
theorem separate_resources_do_not_interact (o : Options) {s : Session} {rs : List FileResource}
    (hlinks : LinkFree s.machine.disk) (hrs : Separate rs) :
    ∃ (outcome : FileResource → Outcome) (lines : FileResource → Transcript)
      (alone : FileResource → Session) (view : Place → Option Node),
      (∀ r ∈ rs, perform (run .apply o [r]) s = (.ok [outcome r], alone r) ∧
        (alone r).transcript = s.transcript ++ lines r) ∧
      Gathers s.machine.disk (rs.map fun r => (alone r).machine.disk) view ∧
      ∀ rs', rs'.Perm rs → ∃ s', perform (run .apply o rs') s = (.ok (rs'.map outcome), s') ∧
        s'.transcript = s.transcript ++ rs'.flatMap lines ∧
        ∀ q, s'.machine.disk.node? q = view q := by
  have hrun : ∀ rs', rs'.Perm rs → ∃ s',
      perform (run .apply o rs') s = (.ok (rs'.map (outcomeAlone o s)), s') ∧
      s'.transcript = s.transcript ++ rs'.flatMap (linesAlone o s) ∧
      (∀ r ∈ rs, s'.machine.disk.node? (namesOf r.path) =
        (sessionAlone o s r).machine.disk.node? (namesOf r.path)) ∧
      ∀ q, (∀ r ∈ rs, q ≠ namesOf r.path) → s'.machine.disk.node? q = s.machine.disk.node? q := by
    intro rs' hperm
    have hrs' := hrs.perm hperm
    obtain ⟨s', hrun, hlines, hplaces, helse⟩ := run_apart rs' s hrs'.apart
      (fun r hr => ⟨(hrs'.normal r hr).plain, hrs'.noSource r hr⟩)
      (fun r hr => alone_of_separate (o := o) hlinks hrs' hr)
      (fun r _ => alike_of_linkFree hlinks r.path)
    refine ⟨s', hrun, hlines, fun r hr => hplaces r (hperm.mem_iff.mpr hr), fun q hq => ?_⟩
    exact helse q fun r hr => hq r (hperm.mem_iff.mp hr)
  obtain ⟨s₀, -, -, hplaces, helse⟩ := hrun rs (List.Perm.refl rs)
  refine ⟨outcomeAlone o s, linesAlone o s, sessionAlone o s, s₀.machine.disk.node?, ?_,
    gathers_of_places hlinks hrs hplaces helse, ?_⟩
  · intro r hr
    obtain ⟨hone, hlines⟩ := alone_of_separate (o := o) hlinks hrs hr
    refine ⟨?_, hlines⟩
    rw [run_singleton, perform_bind, hone]
    rfl
  · intro rs' hperm
    obtain ⟨s', hrun', hlines', hplaces', helse'⟩ := hrun rs' hperm
    refine ⟨s', hrun', hlines', fun q => ?_⟩
    by_cases hat : ∃ r ∈ rs, q = namesOf r.path
    · obtain ⟨r, hr, rfl⟩ := hat
      rw [hplaces' r hr, hplaces r hr]
    · have hnone : ∀ r ∈ rs, q ≠ namesOf r.path := fun r hr heq => hat ⟨r, hr, heq⟩
      rw [helse' q hnone, helse q hnone]

/-- A file whose owner nobody knows. -/
def issue : FileResource where
  title := "/issue"
  path := "/issue"
  owner := "nobody"
  group := "root"

/-- One of two files fails, in either order. -/
theorem separate_motd_issue :
    LinkFree bare.disk ∧ Separate [motd, issue] ∧
    ∃ (outcome : FileResource → Outcome) (lines : FileResource → Transcript)
      (alone : FileResource → Session) (view : Place → Option Node),
      (∀ r ∈ [motd, issue], perform (run .apply {} [r]) ⟨bare, []⟩ = (.ok [outcome r], alone r) ∧
        (alone r).transcript = [] ++ lines r) ∧
      Gathers bare.disk ([motd, issue].map fun r => (alone r).machine.disk) view ∧
      ∀ rs', rs'.Perm [motd, issue] → ∃ s',
        perform (run .apply {} rs') ⟨bare, []⟩ = (.ok (rs'.map outcome), s') ∧
        s'.transcript = [] ++ rs'.flatMap lines ∧
        ∀ q, s'.machine.disk.node? q = view q := by
  have hlinks : LinkFree bare.disk := by
    intro q node hnode
    have hroot : q = [] := by
      by_cases hq : q = []
      · exact hq
      · simp [Disk.node?, bare, Disk.findIn, hq] at hnode
    subst hroot
    cases hnode
    rfl
  have hrs : Separate [motd, issue] := by
    refine ⟨?_, ?_, ?_, by decide, ?_⟩
    · intro r hr
      simp only [List.mem_cons, List.not_mem_nil, or_false] at hr
      rcases hr with rfl | rfl
      · exact ⟨by decide, by decide, by decide⟩
      · exact ⟨by decide, by decide, by decide⟩
    · decide
    · decide
    · unfold Above
      decide
  exact ⟨hlinks, hrs, separate_resources_do_not_interact {} (s := ⟨bare, []⟩) hlinks hrs⟩

end Orders

end Converge.Runner
