/-
  Converge.Proofs.Refusal
  ───────────────────────
  **WHAT A REFUSED RESOURCE LEAVES BEHIND.**

  A failure that is about the input, a name that is not known or a source that cannot be read, should
  be found before anything is changed.  A file that is there is compared in all respects before it is
  mended or removed, so there it is.  But what is missing is not compared: creating it asks for the
  declared names only, and its source is looked for when it has been created.

  Main results:
    * `createdFirst_of_unsited` — without a site a missing file with a source is created, then refused;
    * `refusal_leaves_machine_iff` — a failure about the input leaves the machine as it was exactly if
      the file was not created first.
-/
import Converge.Proofs.Comparison
import Converge.Proofs.Creation
import Converge.Proofs.Preview
import Converge.Proofs.Recovery

namespace Converge.FileResource

open Converge.Machine Act

variable {r : FileResource} {o : Options} {s s' : Session} {f : Failure}

/-! ## §1. Where bringing a file to its state can fail. -/

/-- The failure comes from an action, or from the comparison that follows it. -/
def FailsAt (r : FileResource) (o : Options) (a : Action) (s : Session) (f : Failure)
    (s' : Session) : Prop :=
  perform (r.act o a) s = (.error f, s') ∨
    o.dryRun = false ∧ perform (r.act o a) s = (.ok (), s') ∧ r.evaluate o s'.machine = .error f

/-- A failure comes from the first comparison, or from the action that is called for. -/
theorem reconcile_error (h : perform (r.reconcile o) s = (.error f, s')) :
    (r.evaluate o s.machine = .error f ∧ s' = s) ∨
    ∃ st a, r.evaluate o s.machine = .ok st ∧ st.action? = some a ∧ r.FailsAt o a s f s' := by
  rw [reconcile_eq, perform_bind, perform_observe] at h
  cases heval : r.evaluate o s.machine with
  | error e =>
    rw [heval, Prod.mk.injEq] at h
    exact Or.inl ⟨h.1, h.2.symm⟩
  | ok st =>
    rw [heval] at h
    dsimp only at h
    unfold carryOut at h
    cases ha : st.action? with
    | none =>
      rw [ha] at h
      cases h
    | some a =>
      rw [ha] at h
      dsimp only at h
      rw [perform_bind] at h
      refine Or.inr ⟨st, a, rfl, ha, ?_⟩
      match hact : perform (r.act o a) s with
      | (.error e, s₁) =>
        rw [hact] at h
        cases h
        exact Or.inl hact
      | (.ok u, s₁) =>
        rw [hact] at h
        dsimp only at h
        cases hdry : o.dryRun with
        | true =>
          rw [hdry, if_pos rfl] at h
          cases h
        | false =>
          rw [hdry, if_neg (by simp), perform_observe, Prod.mk.injEq] at h
          obtain ⟨hlast, rfl⟩ := h
          exact Or.inr ⟨hdry, hact, hlast⟩

/-- A comparison that meets no status fails because of that. -/
theorem evaluate_error_of_stat {m : Machine} {e : CallFailure} (hstat : m.stat r.path = .error e)
    (h : r.evaluate o m = .error f) : f = .call e := by
  unfold evaluate at h
  rw [hstat] at h
  dsimp only at h
  split at h
  · cases h
  · cases h
    rfl

/-- Where something else than a creation is called for, a file was found. -/
theorem file_of_action {st : State} {a : Action} (heval : r.evaluate o s.machine = .ok st)
    (ha : st.action? = some a) (hother : a ≠ .create) :
    ∃ n, s.machine.stat r.path = .ok n ∧ n.isFile = true := by
  rcases evaluate_ok heval with ⟨e, -, -, rfl⟩ | ⟨n, gap, content, hstat, hfile, -⟩
  · -- nothing but a creation is called for where nothing is
    cases hwant : r.want <;> rw [hwant] at ha <;> cases ha
    exact absurd rfl hother
  · exact ⟨n, hstat, hfile⟩

/-! ## §2. Creating. -/

namespace Made

variable {m m' : Machine}

/-- The path leads to a file whose owners can be compared. -/
theorem arrive (h : r.Made m m') : ∃ place n, m'.arrive r.path = .ok (.present place n) ∧
    n.isFile = true ∧ ∃ gap, r.ownerDifference n m' = .ok gap := by
  have haccounts : m'.accounts = m.accounts := by
    obtain ⟨d, rfl⟩ := h.onDisk
    rfl
  obtain ⟨uid, gid, place, file, hids, hfile, ha⟩ := h.leads
  refine ⟨place, _, ha, hfile, ownerDifference_ok_iff.mpr ⟨?_, ?_⟩⟩
  · exact ⟨_, (r.ownerIds_congr haccounts).trans hids⟩
  · obtain ⟨user, group, hnames⟩ := named_giveTo hids file
    rw [haccounts]
    exact ⟨user, group, (fileOwner_congr rfl rfl).trans hnames⟩

/-- **Of a file that was missing and has been made, only the content can be refused**, and then it has
    been made. -/
theorem refused (h : r.Made m m') (hmissing : ∃ e, m.stat r.path = .error e ∧ meansAbsent e = true)
    (heval : r.evaluate o m' = .error f) (habout : f.isAboutInput = true) :
    r.contentDifference o m' = .error f ∧ m' ≠ m := by
  obtain ⟨e, hstat, -⟩ := hmissing
  have hsame : m'.precheck .stat r.path = m.precheck .stat r.path := by
    obtain ⟨d, rfl⟩ := h.onDisk
    rfl
  obtain ⟨place, n, ha, hfile, gap, hgap⟩ := h.arrive
  cases hcheck : m.precheck .stat r.path with
  | error e' =>
    -- a status that is refused before is refused after, and says nothing about the input
    have hstat' : m'.stat r.path = .error e' := stat_of_refused (hsame.trans hcheck)
    rw [evaluate_error_of_stat hstat' heval] at habout
    cases habout
  | ok u =>
    refine ⟨?_, ?_⟩
    · rw [evaluate_of_ownerDifference (stat_ok_iff.mpr ⟨hsame.trans hcheck, place, ha⟩) hfile hgap]
        at heval
      cases hcontent : r.contentDifference o m' with
      | ok content =>
        rw [hcontent] at heval
        cases heval
      | error e' =>
        rw [hcontent] at heval
        cases heval
        rfl
    · -- on the same machine the status would be missing and found
      intro heq
      subst heq
      rw [stat_ok_iff.mpr ⟨hcheck, place, ha⟩] at hstat
      cases hstat

end Made

/-! ## §3. Mending and deleting. -/

/-- A step that is only printed. -/
theorem triple_enact_dry (hdry : o.dryRun = true) {P : Machine → Prop}
    {E : Failure → Machine → Prop} {message : String}
    {call : Machine → Except CallFailure Machine} :
    Triple P (r.enact o message call) (fun _ => P) E := by
  refine Triple.bind (triple_progress _) fun _ => ?_
  unfold take
  rw [if_pos hdry]
  exact Triple.pure fun _ hm => hm

/-- Mending a file that could be compared does not fail in a dry run. -/
theorem triple_update_dry (hdry : o.dryRun = true) :
    Triple (r.Comparable o) (r.update o) (fun _ => r.Comparable o) fun _ _ => False := by
  rw [update_eq]
  refine Triple.bind (Q := fun node m => Named m.accounts node ∧ r.Comparable o m)
    (Triple.observe_ok ?_) fun node => ?_
  · intro m hm
    obtain ⟨n, hstat, hfile, hnamed⟩ := hm.file
    refine ⟨n, ?_, hnamed, hm⟩
    unfold regularFile
    rw [hstat]
    simp only [hfile, if_true]
  refine Triple.bind (Q := fun _ m => Named m.accounts node ∧ r.Comparable o m) ?mode fun _ => ?_
  case mode =>
    rw [mendMode_eq]
    split
    · exact triple_enact_dry hdry
    · exact Triple.pure fun _ hm => hm
  refine Triple.bind (Q := fun _ => r.Comparable o) ?owner fun _ => ?content
  case owner =>
    refine Triple.bind (Q := fun _ => r.Comparable o) (Triple.observe_ok ?_) fun owner => ?_
    · intro m hm
      obtain ⟨gap, hgap⟩ := ownerDifference_ok_iff.mpr ⟨hm.2.known, hm.1⟩
      exact ⟨gap, hgap, hm.2⟩
    split
    · rw [giveAway_eq]
      refine Triple.bind (Q := fun _ => r.Comparable o) (Triple.observe_ok ?_) fun ids =>
        triple_enact_dry hdry
      intro m hm
      obtain ⟨ids, hids⟩ := hm.known
      exact ⟨ids, hids, hm⟩
    · exact Triple.pure fun _ hm => hm
  case content =>
    refine Triple.bind (Q := fun _ => r.Comparable o) (Triple.observe_ok ?_) fun content => ?_
    · intro m hm
      obtain ⟨gap, hgap⟩ := hm.content
      exact ⟨gap, hgap, hm⟩
    cases content with
    | none => exact Triple.pure fun _ hm => hm
    | some d => exact triple_progress _

/-- **Mending a file that could be compared is not refused for its input**, since its dry run is not. -/
theorem update_not_refused (hs : r.Comparable o s.machine)
    (h : perform (r.update o) s = (.error f, s')) : f.isAboutInput = false := by
  obtain ⟨dry, site⟩ := o
  -- comparing takes nothing from the options but the site
  have hs' : r.Comparable ⟨true, site⟩ s.machine := ⟨hs.file, hs.known, hs.content⟩
  obtain ⟨u, s₁, hok, -⟩ := (triple_update_dry rfl).ok hs'
  cases dry with
  | true =>
    rw [hok] at h
    cases h
  | false =>
    cases habout : f.isAboutInput with
    | false => rfl
    | true =>
      -- the dry run would be refused, too, and it ends well
      obtain ⟨shown, said, -, -, hbeside⟩ := (r.previews_update site).ends s s rfl
      have hsame := hbeside.refused (f := f) (by rw [h]) habout
      rw [hok] at hsame
      cases hsame

/-- Deleting is not refused for its input. -/
theorem triple_delete_fails : Triple (fun _ => True) (r.delete o) (fun _ _ => True)
    fun f _ => f.isAboutInput = false := by
  rw [delete_eq]
  refine Triple.bind (Q := fun _ _ => True) (Triple.observe_ok fun m _ => ⟨_, rfl, trivial⟩)
    fun there => ?_
  split
  · refine Triple.bind (triple_progress _) fun _ => ?_
    unfold take
    split
    · exact Triple.pure fun _ _ => trivial
    · exact Triple.change (fun _ _ _ _ => trivial) fun _ _ _ _ => rfl
  · exact Triple.pure fun _ _ => trivial

/-- A deletion that ended well has removed the file, or found nothing to remove. -/
theorem triple_deleted (m : Machine) : Triple (fun m₀ => m₀ = m) (r.delete o)
    (fun _ m' => m' = m ∨ m.remove r.path = .ok m') fun _ _ => True := by
  rw [delete_eq]
  refine Triple.bind (Q := fun _ m₀ => m₀ = m)
    (Triple.observe_ok fun m₀ heq => ⟨_, rfl, heq⟩) fun there => ?_
  split
  · refine Triple.bind (triple_progress _) fun _ => ?_
    unfold take
    split
    · exact Triple.pure fun _ heq => Or.inl heq
    · refine Triple.change ?_ fun _ _ _ _ => trivial
      intro m₀ m' heq hremoved
      subst heq
      exact Or.inr hremoved
  · exact Triple.pure fun _ heq => Or.inl heq

/-- What has been removed is found to be absent. -/
theorem evaluate_of_remove {m m' : Machine} (hcheck : m.precheck .stat r.path = .ok ())
    (h : m.remove r.path = .ok m') : r.evaluate o m' = .ok (.ofAbsent r.want) := by
  have hcheck' : m'.precheck .stat r.path = .ok () := by
    obtain ⟨-, parent, name, entry, -, -, -, -, -, -, -, -, rfl⟩ := remove_ok h
    exact hcheck
  exact evaluate_of_missing (stat_of_nowhere hcheck' (arrive_without h))

/-! ## §4. A source without a site. -/

/-- The file was missing and wanted; it was created as declared, and after that its content could not
    be compared with its source. -/
structure CreatedFirst (r : FileResource) (o : Options) (s s' : Session) (f : Failure) : Prop where
  missing : ∃ e, s.machine.stat r.path = .error e ∧ meansAbsent e = true
  wanted : r.want = .present
  real : o.dryRun = false
  created : perform (r.create o) s = (.ok (), s')
  refused : r.contentDifference o s'.machine = .error f

/-- A source that no site is known for cannot be looked for. -/
theorem contentDifference_unsited {source : String} (hsource : r.source = some source)
    (hne : source ≠ "") (hsite : o.site = none) (m : Machine) :
    r.contentDifference o m = .error (.config (.noSite r.id source)) := by
  unfold contentDifference sourcePath
  rw [hsource, hsite]
  dsimp only
  rw [if_neg hne]
  rfl

/-- **Without a site a missing file with a source is created, and refused after that.** -/
theorem createdFirst_of_unsited {uid gid : Int} {source : String}
    (h : r.Canonical s.machine.accounts uid gid) (hmode : 0 ≤ r.mode ∧ r.mode ≤ Field.maxMode)
    (hfit : Fit r.path) (hslash : endsWithSlash r.path = false) (hw : r.want = .present)
    (hdry : o.dryRun = false) (hcalm : s.machine.faults = [])
    (hfree : ∃ parent name, s.machine.arrive r.path = .ok (.vacant parent name))
    (hsource : r.source = some source) (hne : source ≠ "") (hsite : o.site = none) :
    ∃ s', perform (r.reconcile o) s = (.error (.config (.noSite r.id source)), s') ∧
      r.CreatedFirst o s s' (.config (.noSite r.id source)) := by
  have hstat : s.machine.stat r.path = .error (.system .noEntry r.path) := by
    obtain ⟨parent, name, ha⟩ := hfree
    rw [stat_eq (precheck_of_calm hcalm hfit .stat), ha]
  have hfirst : r.evaluate o s.machine = .ok (.ofAbsent .present) := by
    rw [evaluate_of_missing ⟨_, hstat, rfl⟩, hw]
  obtain ⟨u, s', hok, n, hstands, howned, -⟩ :=
    (triple_create h hmode hfit hslash hdry).ok (s := s) ⟨hcalm, rfl, hfree⟩
  have hrefused := contentDifference_unsited (o := o) hsource hne hsite s'.machine
  obtain ⟨gap, hgap, -⟩ := ownerDifference_named h hstands.accounts ⟨_, _, howned⟩
  have hlast : r.evaluate o s'.machine = .error (.config (.noSite r.id source)) := by
    rw [evaluate_of_ownerDifference (hstands.stat hfit) hstands.file hgap, hrefused]
    rfl
  refine ⟨s', ?_, ⟨_, hstat, rfl⟩, hw, hdry, hok, hrefused⟩
  rw [reconcile_eq, perform_bind, perform_observe, hfirst]
  dsimp only
  rw [carryOut_some (a := .create) rfl hdry, perform_bind]
  rw [show perform (r.act o .create) s = (.ok u, s') from hok]
  dsimp only
  rw [perform_observe, hlast]

/-- A message of the day that comes from a site. -/
def sourced : FileResource where
  title := "/motd"
  path := "/motd"
  owner := "root"
  group := "root"
  source := some "motd"

theorem sourced_createdFirst : ∃ s',
    perform (sourced.reconcile {}) ⟨bare, []⟩ =
      (.error (.config (.noSite "file[/motd]" "motd")), s') ∧
    sourced.CreatedFirst {} ⟨bare, []⟩ s' (.config (.noSite "file[/motd]" "motd")) := by
  have hfree : bare.arrive sourced.path = .ok (.vacant [] "motd") :=
    arrive_bare (by decide) (by decide) (by decide) (by decide) (by decide)
  have hnames : sourced.Canonical bare.accounts 0 0 := ⟨rfl, rfl, rfl, rfl⟩
  have hfit : Fit sourced.path := ⟨by decide, by decide, by decide⟩
  exact createdFirst_of_unsited (s := ⟨bare, []⟩) hnames (by decide) hfit (by decide) rfl rfl rfl
    ⟨_, _, hfree⟩ rfl (by decide) rfl

/-! ## §5. The whole. -/

section Actions

variable {st : State}

/-- A creation is refused before anything is changed, or for its content. -/
theorem FailsAt.create (h : r.FailsAt o .create s f s') (habout : f.isAboutInput = true)
    (hmissing : ∃ e, s.machine.stat r.path = .error e ∧ meansAbsent e = true)
    (hwant : r.want = .present) : s'.machine = s.machine ∨ r.CreatedFirst o s s' f := by
  unfold FailsAt act at h
  cases hdry : o.dryRun with
  | true =>
    -- a dry run takes no step, and nothing is compared after it
    have hstill := (Still.covers r hdry).create s
    rcases h with hfail | ⟨hwet, -, -⟩
    · rw [hfail] at hstill
      exact Or.inl hstill
    · rw [hdry] at hwet
      cases hwet
  | false =>
    have hmade := triple_made (r := r) hdry s.machine s rfl
    rcases h with hfail | ⟨-, hok, hlast⟩
    · rw [hfail] at hmade
      exact Or.inl (hmade habout)
    · rw [hok] at hmade
      exact Or.inr ⟨hmissing, hwant, hdry, hok, (hmade.refused hmissing hlast habout).1⟩

/-- Mending a file that could be compared leaves one that can be. -/
theorem FailsAt.update (h : r.FailsAt o .update s f s') (hwant : r.want = .present)
    (hs : r.Comparable o s.machine) : f.isAboutInput = false := by
  unfold FailsAt act at h
  rcases h with hfail | ⟨-, hok, hlast⟩
  · exact update_not_refused hs hfail
  · have hkept := (r.keeps_comparable o).triple_update (o := o) hwant s ⟨hwant, hs⟩
    rw [hok] at hkept
    obtain ⟨st', hst'⟩ := hkept.2.evaluate
    rw [hst'] at hlast
    cases hlast

/-- What has been deleted is not compared any more. -/
theorem FailsAt.delete (h : r.FailsAt o .delete s f s') (heval : r.evaluate o s.machine = .ok st)
    {n : Node} (hstat : s.machine.stat r.path = .ok n) : f.isAboutInput = false := by
  unfold FailsAt act at h
  rcases h with hfail | ⟨-, hok, hlast⟩
  · have hsystem := triple_delete_fails (r := r) (o := o) s trivial
    rw [hfail] at hsystem
    exact hsystem
  · have hdeleted := triple_deleted (r := r) (o := o) s.machine s rfl
    rw [hok] at hdeleted
    rcases hdeleted with hsame | hremoved
    · rw [hsame, heval] at hlast
      cases hlast
    · rw [evaluate_of_remove (stat_ok_iff.mp hstat).1 hremoved] at hlast
      cases hlast

end Actions

/-- A failure about the input leaves the machine as it was, or it came after the file was created. -/
theorem unchanged_or_createdFirst (h : perform (r.reconcile o) s = (.error f, s'))
    (habout : f.isAboutInput = true) :
    s'.machine = s.machine ∨ r.CreatedFirst o s s' f := by
  rcases reconcile_error h with ⟨-, rfl⟩ | ⟨st, a, heval, ha, hfails⟩
  · exact Or.inl rfl
  have hwarrant := warrant_of_action heval ha
  cases a with
  | create => exact hfails.create habout hwarrant.2 hwarrant.1
  | update =>
    obtain ⟨n, hstat, hfile⟩ := file_of_action heval ha (by simp)
    rw [hfails.update hwarrant.1 ((evaluate_ok_iff hstat hfile).mp ⟨st, heval⟩)] at habout
    cases habout
  | delete =>
    obtain ⟨n, hstat, -⟩ := file_of_action heval ha (by simp)
    rw [hfails.delete heval hstat] at habout
    cases habout

/-- A file that was created first is there, and was not. -/
theorem CreatedFirst.changed (hcreated : r.CreatedFirst o s s' f)
    (h : perform (r.reconcile o) s = (.error f, s')) (habout : f.isAboutInput = true) :
    s'.machine ≠ s.machine := by
  obtain ⟨hmissing, hwant, hwet, hok, -⟩ := hcreated
  have hfirst : r.evaluate o s.machine = .ok (.ofAbsent .present) := by
    rw [evaluate_of_missing hmissing, hwant]
  rcases reconcile_error h with ⟨heval, -⟩ | ⟨st, a, heval, ha, hfails⟩
  · rw [hfirst] at heval
    cases heval
  -- what is missing and wanted is created, and that ended well
  rw [hfirst] at heval
  cases heval
  cases ha
  rcases hfails with hfail | ⟨-, -, hlast⟩
  · rw [show perform (r.create o) s = (.error f, s') from hfail] at hok
    cases hok
  · have hmade := triple_made (r := r) hwet s.machine s rfl
    rw [hok] at hmade
    exact (hmade.refused hmissing hlast habout).2

/-- **When a refused resource has left the machine as it was**: exactly if its file was not created
    first, before its source was looked for. -/
theorem refusal_leaves_machine_iff (h : perform (r.reconcile o) s = (.error f, s'))
    (habout : f.isAboutInput = true) :
    s'.machine = s.machine ↔ ¬ r.CreatedFirst o s s' f := by
  constructor
  · intro hsame hcreated
    exact hcreated.changed h habout hsame
  · intro hnot
    rcases unchanged_or_createdFirst h habout with hsame | hcreated
    · exact hsame
    · exact absurd hcreated hnot

/-- The message of the day without a site. -/
theorem sourced_refused : ∃ s',
    perform (sourced.reconcile {}) ⟨bare, []⟩ =
      (.error (.config (.noSite "file[/motd]" "motd")), s') ∧
    (s'.machine = bare ↔
      ¬ sourced.CreatedFirst {} ⟨bare, []⟩ s' (.config (.noSite "file[/motd]" "motd"))) := by
  obtain ⟨s', h, -⟩ := sourced_createdFirst
  exact ⟨s', h, refusal_leaves_machine_iff h rfl⟩

/-- A source that was declared for a run without a site is refused, and the file has been created. -/
theorem sourced_left_behind :
    build bare "/motd" (.mapping [(.text "source", .text "motd")]) = .ok sourced ∧
    ∃ f s', perform (sourced.reconcile {}) ⟨bare, []⟩ = (.error f, s') ∧ f.isAboutInput = true ∧
      s'.machine ≠ bare := by
  refine ⟨rfl, ?_⟩
  obtain ⟨s', h, hcreated⟩ := sourced_createdFirst
  exact ⟨_, s', h, rfl, hcreated.changed h rfl⟩

end Converge.FileResource
