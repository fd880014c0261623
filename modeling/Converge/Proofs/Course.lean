/-
  Converge.Proofs.Course
  ──────────────────────
  **MENDING GOES THROUGH WHAT A COMPARISON REPORTS.**

  A comparison finds all differences before anything is done; mending looks again at each attribute
  between its own calls.  But no call changes what is looked at after it: setting a mode or an owner
  leaves accounts and contents as they are, and the owner that is compared is the one from before.  So
  mending takes the differences that were reported one by one: it says what it does about each, makes
  the call for it if there is one, and stops where the system refuses.

  Main results:
    * `update_eq_course` — mending is the course through the differences that were reported;
    * `avoids_update_iff`, `reaches_iff_due` — which calls it makes;
    * `update_follows_report` — what that comes to, whatever the faults.
-/
import Converge.Proofs.Avoidance
import Converge.Proofs.Exactness
import Converge.Proofs.Mending

namespace Converge.Machine

variable {m : Machine} {c : Call} {path : String} {e : CallFailure}

/-! ## §1. Refusals of calls on what exists. -/

theorem precheck_refused (hnul : hasNul path = false) (h : m.precheck c path = .error e) :
    ∃ errno, e = .system errno path := by
  cases e with
  | nulInPath =>
    rw [precheck_nul_iff, hnul] at h
    cases h.1
  | system errno path' =>
    refine ⟨errno, ?_⟩
    unfold precheck at h
    rw [hnul] at h
    repeat' split at h
    all_goals cases h
    all_goals rfl

/-- Where no NUL is in the way, it is the system that refuses, and the path is named. -/
theorem existing_refused (hnul : hasNul path = false) {follow : Bool}
    (h : m.existing c path follow = .error e) : ∃ errno, e = .system errno path := by
  unfold existing walkFrom at h
  cases hcheck : m.precheck c path with
  | error e' =>
    rw [hcheck] at h
    cases h
    exact precheck_refused hnul hcheck
  | ok u =>
    rw [hcheck] at h
    match hwalk : walk m.disk follow linkBudget (m.start path) (steps path) with
    | .error errno =>
      rw [hwalk] at h
      cases h
      exact ⟨errno, rfl⟩
    | .ok (.vacant parent name) =>
      rw [hwalk] at h
      cases h
      exact ⟨.noEntry, rfl⟩
    | .ok (.present place node) =>
      rw [hwalk] at h
      cases h

/-- What is done about a node that was found does not fail. -/
theorem refused_of_bind {α : Type} {x : Except CallFailure α} {f : α → Except CallFailure Machine}
    (hf : ∀ a e', f a ≠ .error e') (h : (x >>= f) = .error e) : x = .error e := by
  cases x with
  | error e' =>
    cases h
    rfl
  | ok a => exact absurd h (hf a e)

theorem chmod_refused (hnul : hasNul path = false) {mode : Nat} (h : m.chmod path mode = .error e) :
    ∃ errno, e = .system errno path :=
  existing_refused hnul (refused_of_bind (fun _ _ h => by cases h) h)

theorem chown_refused (hnul : hasNul path = false) {uid gid : Int}
    (h : m.chown path uid gid = .error e) : ∃ errno, e = .system errno path :=
  existing_refused hnul (refused_of_bind (fun _ _ h => by cases h) h)

end Converge.Machine

namespace Converge.FileResource

open Converge.Machine Act

variable {r : FileResource} {o : Options} {n : Node} {ids : Int × Int} {d : Difference}
  {ds : List Difference} {s : Session}

/-! ## §2. The course through differences. -/

/-- What mending says about a difference. -/
def remark (r : FileResource) (d : Difference) : String :=
  if d.field = Attribute.mode.name then r.modeMessage
  else if d.field = Attribute.owner.name then r.ownerMessage
  else "el contenido difiere de " ++ d.desired.plain ++ "; no se sincroniza"

/-- The call that mends a difference; a content is not mended. -/
def remedy (r : FileResource) (ids : Int × Int) (d : Difference) :
    Option (Machine → Except CallFailure Machine) :=
  if d.field = Attribute.mode.name then some (·.chmod r.path r.mode.toNat)
  else if d.field = Attribute.owner.name then some (·.chown r.path ids.1 ids.2)
  else none

theorem of_mode (r : FileResource) (ids : Int × Int) (h : d.field = Attribute.mode.name) :
    r.remark d = r.modeMessage ∧ r.remedy ids d = some (·.chmod r.path r.mode.toNat) := by
  unfold remark remedy
  rw [h]
  exact ⟨rfl, rfl⟩

theorem of_owner (r : FileResource) (ids : Int × Int) (h : d.field = Attribute.owner.name) :
    r.remark d = r.ownerMessage ∧ r.remedy ids d = some (·.chown r.path ids.1 ids.2) := by
  unfold remark remedy
  rw [h]
  exact ⟨rfl, rfl⟩

theorem of_content (r : FileResource) (ids : Int × Int) (h : d.field = Attribute.content.name) :
    r.remark d = "el contenido difiere de " ++ d.desired.plain ++ "; no se sincroniza" ∧
      r.remedy ids d = none := by
  unfold remark remedy
  rw [h]
  exact ⟨rfl, rfl⟩

/-- The session once something was said about a difference, with the machine by then. -/
def told (r : FileResource) (d : Difference) (s : Session) (m : Machine) : Session :=
  ⟨m, s.transcript ++ [.progress false r.id (r.remark d)]⟩

/-- Goes through differences in order: says what is done about each, makes the call for it, and stops
    at a call that is refused. -/
def course (r : FileResource) (ids : Int × Int) :
    List Difference → Session → Except Failure Unit × Session
  | [], s => (.ok (), s)
  | d :: ds, s =>
    match r.remedy ids d with
    | none => r.course ids ds (r.told d s s.machine)
    | some call =>
      match call s.machine with
      | .ok m => r.course ids ds (r.told d s m)
      | .error e => (.error (.call e), r.told d s s.machine)

/-- A difference is passed: there is no call for it, or the call leaves a machine behind. -/
inductive Passes (r : FileResource) (ids : Int × Int) (d : Difference) (m : Machine) : Machine → Prop
  | word (none : r.remedy ids d = none) : Passes r ids d m m
  | call {call : Machine → Except CallFailure Machine} {m' : Machine}
      (some : r.remedy ids d = some call) (done : call m = .ok m') : Passes r ids d m m'

/-- The system refuses the call for a difference. -/
def Stops (r : FileResource) (ids : Int × Int) (d : Difference) (m : Machine) (e : CallFailure) : Prop :=
  ∃ call, r.remedy ids d = some call ∧ call m = .error e

theorem course_of_passes {m : Machine} (h : r.Passes ids d s.machine m) :
    r.course ids (d :: ds) s = r.course ids ds (r.told d s m) := by
  cases h with
  | word hnone => simp only [course, hnone]
  | call hsome hdone => simp only [course, hsome, hdone]

theorem course_of_stops {e : CallFailure} (h : r.Stops ids d s.machine e) :
    r.course ids (d :: ds) s = (.error (.call e), r.told d s s.machine) := by
  obtain ⟨call, hsome, hrefused⟩ := h
  simp only [course, hsome, hrefused]

theorem passes_or_stops (r : FileResource) (ids : Int × Int) (d : Difference) (m : Machine) :
    (∃ m', r.Passes ids d m m') ∨ ∃ e, r.Stops ids d m e := by
  cases hremedy : r.remedy ids d with
  | none => exact Or.inl ⟨m, .word hremedy⟩
  | some call =>
    cases hcall : call m with
    | ok m' => exact Or.inl ⟨m', .call hremedy hcall⟩
    | error e => exact Or.inr ⟨e, call, hremedy, hcall⟩

/-! ## §3. What can be said of every course. -/

/-- A remedy sets a mode or an owner at the path. -/
theorem remedy_cases {call : Machine → Except CallFailure Machine} (h : r.remedy ids d = some call) :
    (d.field = Attribute.mode.name ∧ call = (·.chmod r.path r.mode.toNat)) ∨
    (d.field = Attribute.owner.name ∧ call = (·.chown r.path ids.1 ids.2)) := by
  unfold remedy at h
  split at h
  · cases h
    exact Or.inl ⟨‹_›, rfl⟩
  · split at h
    · cases h
      exact Or.inr ⟨‹_›, rfl⟩
    · cases h

theorem Stops.refused {m : Machine} {e : CallFailure} (h : r.Stops ids d m e)
    (hnul : hasNul r.path = false) : ∃ errno, e = .system errno r.path := by
  obtain ⟨call, hremedy, hcall⟩ := h
  obtain ⟨-, rfl⟩ | ⟨-, rfl⟩ := remedy_cases hremedy
  · exact chmod_refused hnul hcall
  · exact chown_refused hnul hcall

/-- **One thing is said about each difference, in order**: about all of them, or up to the first one whose
    call the system refuses, on the machine that is left. -/
theorem course_told (r : FileResource) (ids : Int × Int) (ds : List Difference) (s : Session) :
    ∃ front, front <+: ds ∧
      (r.course ids ds s).2.transcript =
        s.transcript ++ front.map (fun d => .progress false r.id (r.remark d)) ∧
      ((r.course ids ds s).1 = .ok () → front = ds) ∧
      ∀ f, (r.course ids ds s).1 = .error f → ∃ d e, front.getLast? = some d ∧
        r.Stops ids d (r.course ids ds s).2.machine e ∧ f = .call e := by
  induction ds generalizing s with
  | nil => exact ⟨[], List.prefix_rfl, (List.append_nil _).symm, fun _ => rfl, nofun⟩
  | cons d ds ih =>
    obtain ⟨m, hpasses⟩ | ⟨e, hstops⟩ := passes_or_stops r ids d s.machine
    · obtain ⟨front, hfront, htold, hall, hlast⟩ := ih (r.told d s m)
      rw [course_of_passes hpasses]
      refine ⟨d :: front, List.cons_prefix_cons.mpr ⟨rfl, hfront⟩, ?_, fun hok => by rw [hall hok], ?_⟩
      · rw [htold, told, List.append_assoc, List.map_cons, List.singleton_append]
      · intro f hfails
        obtain ⟨d', e, hd', hstops, hf⟩ := hlast f hfails
        exact ⟨d', e, by rw [List.getLast?_cons, hd']; rfl, hstops, hf⟩
    · rw [course_of_stops hstops]
      refine ⟨[d], List.cons_prefix_cons.mpr ⟨rfl, List.nil_prefix⟩, rfl, nofun, ?_⟩
      intro f hfails
      cases hfails
      exact ⟨d, e, rfl, hstops, rfl⟩

/-- A course through differences in content ends well and changes nothing. -/
theorem course_content (h : ∀ d ∈ ds, d.field = Attribute.content.name) :
    (r.course ids ds s).1 = .ok () ∧ (r.course ids ds s).2.machine = s.machine := by
  induction ds generalizing s with
  | nil => exact ⟨rfl, rfl⟩
  | cons d ds ih =>
    rw [course_of_passes (.word (of_content r ids (h d List.mem_cons_self)).2)]
    exact ih fun d' hd' => h d' (List.mem_cons_of_mem d hd')

/-! ## §4. Mending as a course. -/

/-- A step that goes with a difference, and what comes after it. -/
theorem perform_enact_bind (hwet : o.dryRun = false) {call : Machine → Except CallFailure Machine}
    (hremedy : r.remedy ids d = some call) {rest : Act Unit}
    (hrest : ∀ m, call s.machine = .ok m →
      perform rest (r.told d s m) = r.course ids ds (r.told d s m)) :
    perform (do r.enact o (r.remark d) call; rest) s = r.course ids (d :: ds) s := by
  rw [perform_bind, perform_enact, hwet]
  cases hcall : call s.machine with
  | ok m => exact (hrest m hcall).trans (course_of_passes (.call hremedy hcall)).symm
  | error e => exact (course_of_stops ⟨call, hremedy, hcall⟩).symm

/-- What mending looks at besides the file itself, which its calls do not change. -/
structure Looks (r : FileResource) (o : Options) (n : Node) (ids : Int × Int)
    (owner content : Option Difference) (m : Machine) : Prop where
  known : r.ownerIds m = .ok ids
  owners : r.ownerDifference n m = .ok owner
  contents : r.contentDifference o m = .ok content
  ownerField : ∀ d, owner = some d → d.field = Attribute.owner.name
  contentField : ∀ d, content = some d → d.field = Attribute.content.name

/-- Modes and owners of nodes are not among it. -/
theorem Looks.retouched {owner content : Option Difference} {m m' : Machine}
    (h : r.Looks o n ids owner content m) (hm : Retouched m m') :
    r.Looks o n ids owner content m' where
  known := (r.ownerIds_congr hm.accounts).trans h.known
  owners := (r.ownerDifference_congr n hm.accounts).trans h.owners
  contents := (r.contentDifference_retouched o hm).trans h.contents
  ownerField := h.ownerField
  contentField := h.contentField

section Parts

variable {owner content : Option Difference} (hwet : o.dryRun = false)
  (h : r.Looks o n ids owner content s.machine)

include hwet h

theorem perform_noteContent : perform (r.noteContent o) s = r.course ids content.toList s := by
  unfold noteContent
  rw [perform_bind, perform_observe, h.contents]
  cases content with
  | none => rfl
  | some d =>
    obtain ⟨hremark, hremedy⟩ := of_content r ids (h.contentField d rfl)
    rw [Option.toList_some, course_of_passes (.word hremedy), course, told, hremark, ← hwet]
    rfl

theorem perform_mendOwner : perform (do r.mendOwner o n; r.noteContent o) s =
    r.course ids (owner.toList ++ content.toList) s := by
  unfold mendOwner
  rw [bind_assoc, perform_bind, perform_observe, h.owners]
  cases owner with
  | none => exact perform_noteContent hwet h
  | some d =>
    obtain ⟨hremark, hremedy⟩ := of_owner r ids (h.ownerField d rfl)
    dsimp only
    rw [Option.isSome_some, if_pos rfl, giveAway_eq, bind_assoc, perform_bind, perform_observe,
      h.known, ← hremark]
    refine perform_enact_bind hwet hremedy fun m hcall => ?_
    exact perform_noteContent hwet (h.retouched (.of_chown hcall))

theorem perform_mendMode :
    perform (do r.mendMode o n; r.mendOwner o n; r.noteContent o) s =
      r.course ids ((r.modeDifference n).toList ++ owner.toList ++ content.toList) s := by
  rw [mendMode_eq, List.append_assoc]
  cases hgap : r.modeDifference n with
  | none => exact perform_mendOwner hwet h
  | some d =>
    have hfield : d.field = Attribute.mode.name :=
      (finds_mode (o := o) (m := s.machine)).field d hgap
    obtain ⟨hremark, hremedy⟩ := of_mode r ids hfield
    rw [Option.isSome_some, if_pos rfl, ← hremark]
    refine perform_enact_bind hwet hremedy fun m hcall => ?_
    exact perform_mendOwner hwet (h.retouched (.of_chmod hcall))

end Parts

/-- What a state says that reports a file as present. -/
theorem looks_of_evaluate {st : State} (heval : r.evaluate o s.machine = .ok st)
    (hpresent : st.current = .present) : ∃ n ids owner content,
      r.regularFile s.machine = .ok n ∧ r.Looks o n ids owner content s.machine ∧
      st.differences = (r.modeDifference n).toList ++ owner.toList ++ content.toList := by
  rcases evaluate_ok heval with
    ⟨e, -, -, rfl⟩ | ⟨n, owner, content, hstat, hfile, howner, hcontent, rfl⟩
  · cases hpresent
  · obtain ⟨⟨ids, hids⟩, -⟩ := ownerDifference_ok_iff.mp ⟨owner, howner⟩
    refine ⟨n, ids, owner, content, ?_, ?_, rfl⟩
    · unfold regularFile
      rw [hstat]
      exact if_pos hfile
    · exact ⟨hids, howner, hcontent, (finds_owner (o := o) howner).field,
        (finds_content hstat hfile hcontent).field⟩

/-- **Mending is the course through the differences that a comparison reports.** -/
theorem update_eq_course (hwet : o.dryRun = false) {st : State}
    (heval : r.evaluate o s.machine = .ok st) (hpresent : st.current = .present) :
    ∃ ids, r.ownerIds s.machine = .ok ids ∧
      perform (r.update o) s = r.course ids st.differences s := by
  obtain ⟨n, ids, owner, content, hlook, h, hds⟩ := looks_of_evaluate heval hpresent
  refine ⟨ids, h.known, ?_⟩
  rw [update_eq, perform_bind, perform_observe, hlook, hds]
  exact perform_mendMode hwet h

/-! ## §5. Calls on the way. -/

/-- The kind of call that mends a difference. -/
inductive MendedBy (d : Difference) : Call → Prop where
  | chmod (field : d.field = Attribute.mode.name) : MendedBy d .chmod
  | chown (field : d.field = Attribute.owner.name) : MendedBy d .chown

/-- The course through differences comes to a call of a kind. -/
inductive Reaches (r : FileResource) (ids : Int × Int) (c : Call) :
    List Difference → Machine → Prop where
  | now {d : Difference} {ds : List Difference} {m : Machine} (mended : MendedBy d c) :
      Reaches r ids c (d :: ds) m
  | later {d : Difference} {ds : List Difference} {m m' : Machine} (passes : r.Passes ids d m m')
      (rest : Reaches r ids c ds m') : Reaches r ids c (d :: ds) m

section Calling

variable {c : Call} {fs : List Fault} {m m' : Machine}
  {call : Machine → Except CallFailure Machine}

/-- A call does not meet faults of another kind. -/
theorem remedy_failing (hfs : ∀ f ∈ fs, f.call = c) (hother : ¬ MendedBy d c)
    (hremedy : r.remedy ids d = some call) :
    call (m.failing fs) = (call m).map (·.failing fs) := by
  obtain ⟨hfield, rfl⟩ | ⟨hfield, rfl⟩ := remedy_cases hremedy
  · exact chmod_failing hfs (fun heq => hother (heq ▸ .chmod hfield)) _ _
  · exact chown_failing hfs (fun heq => hother (heq ▸ .chown hfield)) _ _ _

theorem Passes.failing (hfs : ∀ f ∈ fs, f.call = c) (hother : ¬ MendedBy d c)
    (h : r.Passes ids d m m') : r.Passes ids d (m.failing fs) (m'.failing fs) := by
  cases h with
  | word hnone => exact .word hnone
  | call hremedy hdone =>
    refine .call hremedy ?_
    rw [remedy_failing hfs hother hremedy, hdone]
    rfl

theorem Stops.failing {e : CallFailure} (hfs : ∀ f ∈ fs, f.call = c) (hother : ¬ MendedBy d c)
    (h : r.Stops ids d m e) : r.Stops ids d (m.failing fs) e := by
  obtain ⟨call, hremedy, hcall⟩ := h
  refine ⟨call, hremedy, ?_⟩
  rw [remedy_failing hfs hother hremedy, hcall]
  rfl

/-- Faults of a kind of call that is not reached make no difference. -/
theorem course_failing (hfs : ∀ f ∈ fs, f.call = c) (hnot : ¬ r.Reaches ids c ds s.machine) :
    r.course ids ds { s with machine := s.machine.failing fs } =
      ((r.course ids ds s).1,
        { (r.course ids ds s).2 with machine := (r.course ids ds s).2.machine.failing fs }) := by
  induction ds generalizing s with
  | nil => rfl
  | cons d ds ih =>
    have hother : ¬ MendedBy d c := fun hmended => hnot (.now hmended)
    obtain ⟨m, hpasses⟩ | ⟨e, hstops⟩ := passes_or_stops r ids d s.machine
    · rw [course_of_passes hpasses, course_of_passes (m := m.failing fs) (hpasses.failing hfs hother)]
      exact ih (s := r.told d s m) fun hreaches => hnot (.later hpasses hreaches)
    · rw [course_of_stops hstops, course_of_stops (e := e) (hstops.failing hfs hother)]
      rfl

/-- A fault of the kind of call that mends a difference stops there. -/
theorem MendedBy.stops (h : MendedBy d c) (r : FileResource) (ids : Int × Int) (m : Machine)
    (e : Errno) : r.Stops ids d (m.failing [⟨c, r.path, e⟩]) (.system e r.path) := by
  have hfault : (m.failing [⟨c, r.path, e⟩]).faultFor? c r.path = some e := by
    simp [faultFor?, Machine.failing, under]
  have hrefused : (m.failing [⟨c, r.path, e⟩]).existing c r.path true = .error (.system e r.path) := by
    unfold existing
    rw [precheck_of_fault hfault]
    rfl
  cases h with
  | chmod hfield =>
    refine ⟨_, (of_mode r ids hfield).2, ?_⟩
    unfold Machine.chmod
    rw [hrefused]
    rfl
  | chown hfield =>
    refine ⟨_, (of_owner r ids hfield).2, ?_⟩
    unfold Machine.chown
    rw [hrefused]
    rfl

/-- A fault of a kind of call that is reached is where the course ends. -/
theorem Reaches.refused (h : r.Reaches ids c ds m) (e : Errno) (t : Transcript) :
    (r.course ids ds ⟨m.failing [⟨c, r.path, e⟩], t⟩).1 = .error (.call (.system e r.path)) := by
  induction h generalizing t with
  | now hmended => rw [course_of_stops (hmended.stops r ids _ e)]
  | @later d ds m m' hpasses hrest ih =>
    by_cases hmended : MendedBy d c
    · rw [course_of_stops (hmended.stops r ids _ e)]
    · -- the call before it does not meet the fault, and the rest does
      have hfs : ∀ f ∈ [(⟨c, r.path, e⟩ : Fault)], f.call = c := by simp
      rw [course_of_passes (m := m'.failing [⟨c, r.path, e⟩]) (hpasses.failing hfs hmended)]
      exact ih _

/-- What is reached is listed. -/
theorem Reaches.listed (h : r.Reaches ids c ds m) :
    (c = .chmod ∧ Attribute.mode.name ∈ ds.map (·.field)) ∨
      (c = .chown ∧ Attribute.owner.name ∈ ds.map (·.field)) := by
  induction h with
  | now hmended =>
    cases hmended with
    | chmod hfield => exact Or.inl ⟨rfl, by simp [hfield]⟩
    | chown hfield => exact Or.inr ⟨rfl, by simp [hfield]⟩
  | later _ _ ih =>
    rw [List.map_cons]
    exact ih.imp (And.imp_right (List.mem_cons_of_mem _)) (And.imp_right (List.mem_cons_of_mem _))

/-- Behind a difference in mode the owner is reached if the mode can be set. -/
theorem reaches_behind_mode (hfield : d.field = Attribute.mode.name) :
    r.Reaches ids .chown (d :: ds) m ↔
      ∃ m', m.chmod r.path r.mode.toNat = .ok m' ∧ r.Reaches ids .chown ds m' := by
  have hremedy := (of_mode r ids hfield).2
  constructor
  · intro hreaches
    cases hreaches with
    | now hmended =>
      cases hmended with
      | chown howner => exact absurd (hfield.symm.trans howner) (by decide)
    | later hpasses hrest =>
      cases hpasses with
      | word hnone =>
        rw [hremedy] at hnone
        cases hnone
      | call hsome hdone =>
        rw [hremedy] at hsome
        cases hsome
        exact ⟨_, hdone, hrest⟩
  · intro hset
    obtain ⟨m', hdone, hrest⟩ := hset
    exact .later (.call hremedy hdone) hrest

/-- **The calls that mending makes** are those that the course comes to. -/
theorem avoids_update_iff (hwet : o.dryRun = false) {st : State}
    (heval : r.evaluate o s.machine = .ok st) (hpresent : st.current = .present)
    (hids : r.ownerIds s.machine = .ok ids) (hc : c.changes = true) :
    Avoids c (r.update o) s ↔ ¬ r.Reaches ids c st.differences s.machine := by
  -- with more faults of these calls the comparison is the same, and so is the course to go
  have hcourse : ∀ fs : List Fault, (∀ f ∈ fs, f.call = c) →
      perform (r.update o) { s with machine := s.machine.failing fs } =
        r.course ids st.differences { s with machine := s.machine.failing fs } := by
    intro fs hfs
    obtain ⟨ids', hids', h⟩ := update_eq_course (s := { s with machine := s.machine.failing fs }) hwet
      ((evaluate_failing hc hfs).trans heval) hpresent
    rw [show r.ownerIds (s.machine.failing fs) = r.ownerIds s.machine from rfl, hids] at hids'
    cases hids'
    exact h
  obtain ⟨ids', hids', hplain⟩ := update_eq_course hwet heval hpresent
  rw [hids] at hids'
  cases hids'
  constructor
  · intro havoids hreaches
    -- it would end with two errors at once
    have hends : ∀ e, (perform (r.update o) s).1 = .error (.call (.system e r.path)) := by
      intro e
      have hfs : ∀ f ∈ [(⟨c, r.path, e⟩ : Fault)], f.call = c := by simp
      have hsame := congrArg Prod.fst (havoids _ hfs)
      rw [hcourse _ hfs, hreaches.refused] at hsame
      exact hsame.symm
    have htwo := (hends .noEntry).symm.trans (hends .notDirectory)
    cases htwo
  · intro hnot fs hfs
    rw [hcourse fs hfs, hplain]
    exact course_failing hfs hnot

/-! ## §6. Calls that are due. -/

/-- The first of the names that may be listed is listed first, or not at all. -/
theorem listed_first {name : String} {names : List String}
    (h : (ds.map (·.field)).Sublist (name :: names)) :
    (∃ d rest, ds = d :: rest ∧ d.field = name ∧ (rest.map (·.field)).Sublist names) ∨
      (ds.map (·.field)).Sublist names := by
  rcases List.sublist_cons_iff.mp h with h | ⟨fields, hfields, h⟩
  · exact Or.inr h
  · obtain ⟨d, rest, rfl, hfield, rfl⟩ := List.map_eq_cons_iff.mp hfields
    exact Or.inl ⟨d, rest, rfl, hfield, h⟩

/-- The calls that are due for differences on a machine: the mode is set if it is listed, and the owner
    if it is listed and setting the mode is not refused before. -/
inductive Due (r : FileResource) (ds : List Difference) (m : Machine) : Call → Prop where
  | chmod (listed : Attribute.mode.name ∈ ds.map (·.field)) : Due r ds m .chmod
  | chown (listed : Attribute.owner.name ∈ ds.map (·.field))
      (reached : Attribute.mode.name ∈ ds.map (·.field) →
        ∃ m', m.chmod r.path r.mode.toNat = .ok m') : Due r ds m .chown

/-- What may be listed first is reached if it is listed. -/
theorem reaches_first {name : String} {names : List String} (hname : name ∉ names)
    (hordered : (ds.map (·.field)).Sublist (name :: names))
    (hmended : ∀ d : Difference, d.field = name → MendedBy d c)
    (hlisted : name ∈ ds.map (·.field)) : r.Reaches ids c ds m := by
  rcases listed_first hordered with ⟨d, rest, rfl, hfield, -⟩ | hnot
  · exact .now (hmended d hfield)
  · exact absurd (hnot.subset hlisted) hname

/-- Where the mode is not listed, the course comes to the owner exactly if that is. -/
theorem reaches_owner_iff
    (hordered : (ds.map (·.field)).Sublist [Attribute.owner.name, Attribute.content.name]) :
    r.Reaches ids .chown ds m ↔ Attribute.owner.name ∈ ds.map (·.field) := by
  refine ⟨?_, reaches_first (by decide) hordered fun _ hfield => .chown hfield⟩
  intro hreaches
  obtain ⟨hkind, -⟩ | ⟨-, hlisted⟩ := hreaches.listed
  · cases hkind
  · exact hlisted

/-- Differences in order come to the calls that are due. -/
theorem reaches_iff_due (hordered : (ds.map (·.field)).Sublist Attribute.names) :
    r.Reaches ids c ds m ↔ r.Due ds m c := by
  have howner : r.Reaches ids .chown ds m ↔ Attribute.owner.name ∈ ds.map (·.field) ∧
      (Attribute.mode.name ∈ ds.map (·.field) → ∃ m', m.chmod r.path r.mode.toNat = .ok m') := by
    rcases listed_first hordered with ⟨d, rest, rfl, hfield, hrest⟩ | hnot
    · -- the mode is listed, and first, so the owner is listed in the rest
      rw [reaches_behind_mode hfield, List.map_cons, hfield]
      simp only [reaches_owner_iff hrest, exists_and_right, List.mem_cons, true_or, true_imp_iff]
      rw [and_comm, or_iff_right (by decide)]
    · have hmode : Attribute.mode.name ∉ ds.map (·.field) := fun h => absurd (hnot.subset h) (by decide)
      simp only [reaches_owner_iff hnot, hmode, false_imp_iff, and_true]
  constructor
  · intro hreaches
    obtain ⟨rfl, hlisted⟩ | ⟨rfl, -⟩ := hreaches.listed
    · exact .chmod hlisted
    · obtain ⟨hlisted, hreached⟩ := howner.mp hreaches
      exact .chown hlisted hreached
  · intro hdue
    cases hdue with
    | chmod hlisted => exact reaches_first (by decide) hordered (fun _ hfield => .chmod hfield) hlisted
    | chown hlisted hreached => exact howner.mpr ⟨hlisted, hreached⟩

end Calling

/-! ## §7. Mending against the report. -/

/-- What mending does, against the state that a comparison has reported. -/
structure Follows (r : FileResource) (o : Options) (s : Session) (st : State) (ids : Int × Int) :
    Prop where
  /-- The declared owner and group have these numbers. -/
  known : r.ownerIds s.machine = .ok ids
  /-- Mode, owner and content are reported in this order. -/
  ordered : (st.differences.map (·.field)).Sublist Attribute.names
  /-- Mending is the course through what is reported. -/
  course : perform (r.update o) s = r.course ids st.differences s
  /-- One thing is said about each difference, up to the first one whose call is refused. -/
  told : ∃ front, front <+: st.differences ∧
    (perform (r.update o) s).2.transcript =
      s.transcript ++ front.map (fun d => .progress false r.id (r.remark d)) ∧
    ((perform (r.update o) s).1 = .ok () → front = st.differences) ∧
    ∀ f, (perform (r.update o) s).1 = .error f → ∃ d e, front.getLast? = some d ∧
      r.Stops ids d (perform (r.update o) s).2.machine e ∧ f = .call e
  /-- Of the calls that change the disk it makes those that are due. -/
  calls : ∀ c, c.changes = true →
    (¬ Avoids c (r.update o) s ↔ r.Due st.differences s.machine c)
  idle : st.differences = [] → perform (r.update o) s = (.ok (), s)
  /-- A difference in content is spoken of only. -/
  still : (∀ d ∈ st.differences, d.field = Attribute.content.name) →
    (perform (r.update o) s).1 = .ok () ∧ (perform (r.update o) s).2.machine = s.machine
  /-- It fails only with what the system answers to a call. -/
  refused : ∀ f, (perform (r.update o) s).1 = .error f →
    ∃ errno, f = .call (.system errno r.path)

/-- **Mending acts on exactly what a comparison reports**, on every machine and under all faults. -/
theorem update_follows_report (hwet : o.dryRun = false) {st : State}
    (heval : r.evaluate o s.machine = .ok st) (hpresent : st.current = .present) :
    ∃ ids, r.Follows o s st ids := by
  obtain ⟨ids, hids, hcourse⟩ := update_eq_course hwet heval hpresent
  obtain ⟨n, hstat, -, hlists⟩ := lists_of_evaluate heval hpresent
  refine ⟨ids, hids, hlists.ordered, hcourse, ?told, ?calls, ?idle, ?still, ?refused⟩
  case told =>
    rw [hcourse]
    exact course_told r ids st.differences s
  case calls =>
    intro c hc
    rw [avoids_update_iff hwet heval hpresent hids hc, Classical.not_not]
    exact reaches_iff_due hlists.ordered
  case idle =>
    intro hnone
    rw [hcourse, hnone]
    rfl
  case still =>
    intro hcontent
    rw [hcourse]
    exact course_content hcontent
  case refused =>
    intro f hfails
    rw [hcourse] at hfails
    obtain ⟨front, -, -, -, hlast⟩ := course_told r ids st.differences s
    obtain ⟨d, e, -, hstops, rfl⟩ := hlast f hfails
    obtain ⟨errno, rfl⟩ := hstops.refused (fit_of_precheck (stat_ok_iff.mp hstat).1).noNul
    exact ⟨errno, rfl⟩

/-- Of the guest's message of the day mode and owner are reported, and mended in this order. -/
theorem guest_mended_as_reported : ∃ st, motd.evaluate {} (messageOf 1000) = .ok st ∧
    st.current = .present ∧ st.differences.map (·.field) = ["mode", "owner"] ∧
    ∃ ids, motd.Follows {} ⟨messageOf 1000, []⟩ st ids := by
  obtain ⟨st, heval, hpresent, -, hfields⟩ := evaluate_guest
  exact ⟨st, heval, hpresent, hfields,
    update_follows_report (s := ⟨messageOf 1000, []⟩) rfl heval hpresent⟩

end Converge.FileResource
