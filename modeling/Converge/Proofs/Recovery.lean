/-
  Converge.Proofs.Recovery
  ────────────────────────
  **WHAT ATTEMPTS THAT FAILED LEAVE BEHIND IS MENDED.**

  An attempt may stop anywhere: a file opened and not given away, given away and without its mode.
  But as long as the resource could be met at all, every attempt leaves a machine from which it still
  can be (`Creatable` and `Manageable`, or `Removable`).  From there one pass without faults gives the
  file its owner, which may cost it mode bits, and a second one gives it its mode.

  Main results:
    * `keeps_within` — what attempts under any faults keep;
    * `triple_pass`, `triple_settle` — what one pass without faults achieves;
    * `recovers_in_two_passes` — two passes after any attempts, and nothing left to do after them.
-/
import Converge.Proofs.Built
import Converge.Proofs.Creation
import Converge.Proofs.Mending

namespace Converge.FileResource

open Converge.Machine Act

/-! ## §1. Attempts. -/

/-- An attempt at a resource: the site it is given and the faults it meets. -/
structure Attempt where
  site : Option Path
  faults : List Fault

/-- The options of an attempt, which is no dry run. -/
def Attempt.options (t : Attempt) : Options := { site := t.site }

/-- An attempt that meets no faults. -/
def pass (site : Option Path) : Attempt := ⟨site, []⟩

/-- Makes an attempt. -/
def attempt (r : FileResource) (t : Attempt) (s : Session) : Except Failure State × Session :=
  perform (r.reconcile t.options) { s with machine := s.machine.under t.faults }

/-- The session after attempts, whatever became of them. -/
def afterAttempts (r : FileResource) : List Attempt → Session → Session
  | [], s => s
  | t :: ts, s => r.afterAttempts ts (r.attempt t s).2

/-- What every attempt keeps, faults aside, is kept by all. -/
theorem afterAttempts_keeps {r : FileResource} {I : Machine → Prop} (h : r.Keeps I)
    (hunder : ∀ m faults, I m → I (m.under faults)) (ts : List Attempt) (s : Session)
    (hs : I s.machine) : I (r.afterAttempts ts s).machine := by
  induction ts generalizing s with
  | nil => exact hs
  | cons t ts ih =>
    have hone : I (r.attempt t s).2.machine :=
      (h.reconcile (o := t.options)).after (hunder _ _ hs)
    exact ih _ hone

/-! ## §2. Settled resources. -/

/-- No fault meets a call, and every comparison gives `st`, in which there is nothing to do. -/
structure Settled (r : FileResource) (st : State) (m : Machine) : Prop where
  calm : m.faults = []
  same : ∀ o, r.evaluate o m = .ok st
  inSync : st.inSync = true

theorem action?_of_inSync {st : State} (h : st.inSync = true) : st.action? = none := by
  obtain ⟨hcreate, hdelete, hupdate⟩ := State.no_action_of_inSync h
  unfold State.action?
  rw [hcreate, hdelete, hupdate]
  rfl

/-- Where nothing is to be done, nothing is done and nothing said. -/
theorem reconcile_of_inSync {r : FileResource} {o : Options} {s : Session} {st : State}
    (h : r.evaluate o s.machine = .ok st) (hst : st.inSync = true) :
    perform (r.reconcile o) s = (.ok st, s) := by
  rw [reconcile_eq, perform_bind, perform_observe, h]
  dsimp only
  rw [carryOut_none (action?_of_inSync hst)]
  rfl

theorem under_of_calm {m : Machine} (h : m.faults = []) : m.under [] = m := by
  obtain ⟨_, _, _, _, _, _, _, _, faults⟩ := m
  cases h
  rfl

/-- A settled resource stays settled: a pass gives the same state and changes nothing. -/
theorem attempt_of_settled {r : FileResource} {st : State} {s : Session}
    (h : r.Settled st s.machine) (site : Option Path) : r.attempt (pass site) s = (.ok st, s) := by
  show perform _ { s with machine := s.machine.under [] } = _
  rw [under_of_calm h.calm]
  exact reconcile_of_inSync (h.same _) h.inSync

theorem afterAttempts_of_settled {r : FileResource} {st : State} {s : Session}
    (h : r.Settled st s.machine) (sites : List (Option Path)) :
    r.afterAttempts (sites.map pass) s = s := by
  induction sites with
  | nil => rfl
  | cons site sites ih =>
    show r.afterAttempts (sites.map pass) (r.attempt (pass site) s).2 = s
    rw [attempt_of_settled h site]
    exact ih

/-! ## §3. A resource that should be present. -/

section Present

variable {r : FileResource} {o : Options} {uid gid : Int}

/-- The path finds a free name, so that a file can be created. -/
def Creatable (r : FileResource) (m : Machine) : Prop :=
  endsWithSlash r.path = false ∧ ∃ parent name, m.arrive r.path = .ok (.vacant parent name)

/-- The path leads to a file whose owner and group have names. -/
def Manageable (r : FileResource) (m : Machine) : Prop :=
  ∃ place n, m.arrive r.path = .ok (.present place n) ∧ n.isFile = true ∧ Named m.accounts n

/-- The file can be created or managed, and a file that the process creates has named owners. -/
structure Within (r : FileResource) (a : Accounts) (m : Machine) : Prop where
  accounts : m.accounts = a
  /-- New files. -/
  process : Named a m.newFile
  /-- What is at the path. -/
  ready : r.Creatable m ∨ r.Manageable m

theorem Manageable.put {m : Machine} {place : Place} {n file : Node}
    (ha : m.arrive r.path = .ok (.present place n)) (hn : n.isFile = true)
    (hfile : file.isFile = true) (hnamed : Named m.accounts file) :
    r.Manageable (m.put place file) :=
  ⟨place, file, arrive_put ha hn hfile, hfile, hnamed⟩

theorem named_congr {a : Accounts} {n n' : Node} (huid : n'.uid = n.uid) (hgid : n'.gid = n.gid)
    (h : Named a n) : Named a n' := by
  obtain ⟨user, group, hf⟩ := h
  exact ⟨user, group, (fileOwner_congr huid hgid).trans hf⟩

/-- **Attempts under any faults** leave a file that can be created or managed one that can be. -/
theorem keeps_within {a : Accounts} (h : r.Canonical a uid gid) (hw : r.want = .present) :
    r.Keeps (r.Within a) where
  create _ m m' hm hc := by
    obtain ⟨-, -, ⟨parent, name, ha, rfl⟩ | ⟨place, node, -, -, rfl⟩⟩ := create_ok hc
    · -- the new file has the owners of the process
      refine ⟨hm.accounts, hm.process, Or.inr ⟨_, _, arrive_put_vacant ha m.newFile_isFile, rfl, ?_⟩⟩
      rw [show (m.put (parent ++ [name]) m.newFile).accounts = a from hm.accounts]
      exact hm.process
    · exact hm
  chmod _ m m' hm hl hc := by
    obtain ⟨-, place, node, ha, rfl⟩ := chmod_ok_iff.mp hc
    rcases hm.ready with ⟨-, parent, name, hfree⟩ | ⟨place', n, ha', hfile, hnamed⟩
    · rw [ha] at hfree
      cases hfree
    · rw [ha] at ha'
      cases ha'
      refine ⟨hm.accounts, hm.process, Or.inr (Manageable.put ha hfile hfile ?_)⟩
      exact named_congr rfl rfl hnamed
  chown _ m m' uid' gid' hm hl hids hc := by
    obtain ⟨-, place, node, ha, rfl⟩ := chown_ok_iff.mp hc
    have heq := (h.ownerIds hm.accounts).symm.trans hids
    cases heq
    obtain ⟨place', n, ha', hfile⟩ := hl
    rw [ha] at ha'
    cases ha'
    refine ⟨hm.accounts, hm.process, Or.inr (Manageable.put ha hfile hfile ?_)⟩
    rw [hm.accounts]
    exact ⟨_, _, h.owned node⟩
  remove habsent := by
    rw [hw] at habsent
    cases habsent

variable {a : Accounts}

theorem within_under (m : Machine) (faults : List Fault) (h : r.Within a m) :
    r.Within a (m.under faults) :=
  ⟨h.accounts, h.process, h.ready⟩

/-- A comparison of a file with the declared owner and mode. -/
theorem settled_of_owned (h : r.Canonical a uid gid) (hsource : r.source.getD "" = "")
    (hfit : Fit r.path) (hw : r.want = .present) {n : Node} {m : Machine}
    (hm : Stands a r.path n m) (howned : r.Owned a n) (hmode : (n.permissions : Int) = r.mode) :
    r.Settled (.ofPresent .present []) m where
  calm := hm.calm
  same o := by
    obtain ⟨gap, -, hiff, heval⟩ := evaluate_stands h hsource hfit hm ⟨_, _, howned⟩ o
    rw [heval, hiff.mpr howned, modeDifference_eq_none.mpr hmode, hw]
    rfl
  inSync := rfl

theorem action?_ofPresent_nil {w : Existence} (hw : w = .present) {ds : List Difference}
    (h : ds = []) : (State.ofPresent w ds).action? = none := by
  subst hw h
  rfl

theorem action?_ofPresent_cons {w : Existence} (hw : w = .present) {ds : List Difference}
    (h : ds ≠ []) : (State.ofPresent w ds).action? = some .update := by
  subst hw
  cases ds with
  | nil => exact absurd rfl h
  | cons d rest => rfl

section Pass

variable (h : r.Canonical a uid gid) (hsource : r.source.getD "" = "")
  (hmode : 0 ≤ r.mode ∧ r.mode ≤ Field.maxMode) (hfit : Fit r.path) (hw : r.want = .present)
  (hdry : o.dryRun = false)

include h hsource hmode hfit hw hdry

/-- **A pass over a file** whose owners have names: it gets the declared owner, and the declared mode
    if it had that owner. -/
theorem triple_pass {n : Node} (hn : Named a n) :
    Triple (Stands a r.path n) (r.reconcile o)
      (fun st m => r.Mended a n m ∧ r.evaluate o m = .ok st) fun _ _ => False := by
  rw [reconcile_eq]
  refine Triple.bind (Q := fun st m => Stands a r.path n m ∧ r.evaluate o m = .ok st)
    (Triple.observe_ok ?_) fun st => ?_
  · intro m hm
    obtain ⟨gap, -, -, heval⟩ := evaluate_stands h hsource hfit hm hn o
    exact ⟨_, heval, hm, heval⟩
  intro s hs
  obtain ⟨hm, hst⟩ := hs
  obtain ⟨gap, -, hiff, heval⟩ := evaluate_stands h hsource hfit hm hn o
  have hstate := hst.symm.trans heval
  cases hstate
  by_cases hdiff : (r.modeDifference n).toList ++ gap.toList = []
  · -- nothing differs, so nothing is done
    rw [carryOut_none (action?_ofPresent_nil hw hdiff)]
    rw [List.append_eq_nil_iff, Option.toList_eq_nil_iff, Option.toList_eq_nil_iff] at hdiff
    exact ⟨⟨n, hm, hiff.mp hdiff.2, fun _ => modeDifference_eq_none.mp hdiff.1⟩, hst⟩
  · -- the file is mended and compared once more
    rw [carryOut_some (action?_ofPresent_cons hw hdiff) hdry]
    have hmend : Triple (Stands a r.path n) (do r.update o; observe (r.evaluate o))
        (fun st m => r.Mended a n m ∧ r.evaluate o m = .ok st) fun _ _ => False := by
      refine Triple.bind (triple_update h hsource hmode hfit hdry hn) fun _ => Triple.observe_ok ?_
      intro m hmended
      obtain ⟨n', hm', howned, hperm⟩ := hmended
      obtain ⟨gap', -, -, heval'⟩ := evaluate_stands h hsource hfit hm' ⟨_, _, howned⟩ o
      exact ⟨_, heval', ⟨n', hm', howned, hperm⟩, heval'⟩
    exact hmend s hm

/-- **A pass over a file with the declared owner** settles it. -/
theorem triple_settle {n : Node} (hn : r.Owned a n) :
    Triple (Stands a r.path n) (r.reconcile o) (fun st m => r.Settled st m) fun _ _ => False := by
  refine (triple_pass h hsource hmode hfit hw hdry ⟨_, _, hn⟩).weaken (fun m hm => hm) ?_
    fun _ _ hfalse => hfalse
  intro st m hend
  obtain ⟨⟨n', hm, howned, hperm⟩, heval⟩ := hend
  have hsettled := settled_of_owned h hsource hfit hw hm howned (hperm hn)
  have hst := heval.symm.trans (hsettled.same o)
  cases hst
  exact hsettled

/-- A pass where a name is free creates the file and settles it. -/
theorem triple_pass_free (hslash : endsWithSlash r.path = false) :
    Triple (fun m => m.faults = [] ∧ m.accounts = a ∧
        ∃ parent name, m.arrive r.path = .ok (.vacant parent name)) (r.reconcile o)
      (fun st m => r.Settled st m ∧ ∃ n, Stands a r.path n m ∧ r.Owned a n) fun _ _ => False := by
  rw [reconcile_eq]
  refine Triple.bind (Q := fun st m => st = .ofAbsent .present ∧ m.faults = [] ∧ m.accounts = a ∧
    ∃ parent name, m.arrive r.path = .ok (.vacant parent name)) (Triple.observe_ok ?_) fun st => ?_
  · intro m hready
    obtain ⟨hm, ha, parent, name, hfree⟩ := hready
    refine ⟨_, ?_, rfl, hm, ha, parent, name, hfree⟩
    unfold evaluate
    rw [stat_eq (precheck_of_calm hm hfit .stat), hfree, hw]
    rfl
  refine Triple.pre ?_
  intro heq
  subst heq
  rw [carryOut_some (a := .create) rfl hdry]
  refine Triple.bind (triple_create h hmode hfit hslash hdry) fun _ => Triple.observe_ok ?_
  intro m hcreated
  obtain ⟨n, hstands, howned, hperm⟩ := hcreated
  have hsettled := settled_of_owned h hsource hfit hw hstands howned hperm
  exact ⟨_, hsettled.same o, hsettled, n, hstands, howned⟩

/-- Whatever earlier attempts left, a pass gives the file its owner. -/
theorem triple_pass_within :
    Triple (fun m => m.faults = [] ∧ r.Within a m) (r.reconcile o)
      (fun _ m => ∃ n, Stands a r.path n m ∧ r.Owned a n) fun _ _ => False := by
  intro s hs
  obtain ⟨hcalm, haccounts, -, hready⟩ := hs
  rcases hready with ⟨hslash, hfree⟩ | ⟨place, n, ha, hfile, hnamed⟩
  · exact (triple_pass_free h hsource hmode hfit hw hdry hslash).weaken (fun m hm => hm)
      (fun st m hm => hm.2) (fun _ _ hfalse => hfalse) s ⟨hcalm, haccounts, hfree⟩
  · rw [haccounts] at hnamed
    have howned : ∀ st m, r.Mended a n m ∧ r.evaluate o m = .ok st →
        ∃ n', Stands a r.path n' m ∧ r.Owned a n' := by
      intro st m hend
      obtain ⟨⟨n', hm, howned, -⟩, -⟩ := hend
      exact ⟨n', hm, howned⟩
    exact (triple_pass h hsource hmode hfit hw hdry hnamed).weaken (fun m hm => hm) howned
      (fun _ _ hfalse => hfalse) s ⟨hcalm, haccounts, ⟨place, ha⟩, hfile⟩

end Pass

/-- What a pass that ended well says about the machine it started on. -/
theorem within_of_pass {w : Machine} {s s' : Session} {st : State} (hw : r.want = .present)
    (hdry : o.dryRun = false) (hs : s.machine = w) (hcalm : w.faults = [])
    (hprocess : Named w.accounts w.newFile)
    (h : perform (r.reconcile o) s = (.ok st, s')) : Fit r.path ∧ r.Within w.accounts w := by
  subst hs
  rw [reconcile_eq] at h
  obtain ⟨st₀, s₁, hfirst, hrest⟩ := perform_bind_ok h
  rw [perform_observe, Prod.mk.injEq] at hfirst
  obtain ⟨heval, rfl⟩ := hfirst
  rcases evaluate_ok heval with ⟨e, hstat, -, rfl⟩ | ⟨n, gap, content, hstat, hfile, hgap, -, -⟩
  · -- nothing was there, so the file was created
    rw [carryOut_some (a := .create) (by rw [hw]; rfl) hdry] at hrest
    obtain ⟨_, s₂, hact, -⟩ := perform_bind_ok hrest
    obtain ⟨ids, s₃, hids, hact⟩ := perform_bind_ok hact
    rw [perform_observe, Prod.mk.injEq] at hids
    obtain ⟨-, rfl⟩ := hids
    obtain ⟨_, s₄, hsay, hact⟩ := perform_bind_ok hact
    obtain ⟨_, s₅, htake, -⟩ := perform_bind_ok hact
    obtain ⟨m', hcreate⟩ := call_of_take hdry htake
    rw [machine_of_progress hsay] at hcreate
    obtain ⟨hcheck, hslash, hcases⟩ := create_ok hcreate
    have hfit := fit_of_precheck hcheck
    refine ⟨hfit, rfl, hprocess, Or.inl ⟨hslash, ?_⟩⟩
    rcases hcases with ⟨parent, name, ha, -⟩ | ⟨place, node, ha, -, -⟩
    · exact ⟨parent, name, ha⟩
    · rw [stat_eq (precheck_of_calm hcalm hfit .stat), ha] at hstat
      cases hstat
  · obtain ⟨hcheck, place, ha⟩ := stat_ok_iff.mp hstat
    exact ⟨fit_of_precheck hcheck, rfl, hprocess,
      Or.inr ⟨place, n, ha, hfile, (ownerDifference_ok_iff.mp ⟨gap, hgap⟩).2⟩⟩

end Present

/-! ## §4. A resource that should be absent. -/

section Absent

variable {r : FileResource} {o : Options}

/-- A comparison finds nothing, or a file that can be removed. -/
def Removable (r : FileResource) (m : Machine) : Prop :=
  (∃ e, m.stat r.path = .error e ∧ meansAbsent e = true) ∨
  ∃ n gap, m.stat r.path = .ok n ∧ n.isFile = true ∧ r.ownerDifference n m = .ok gap ∧
    ∃ m', m.remove r.path = .ok m'

/-- The machine is as it was, faults aside, or the path leads nowhere any more. -/
def Untried (r : FileResource) (w m : Machine) : Prop :=
  m.under [] = w ∨ (Fit r.path ∧ LeadsNowhere (m.arrive r.path))

/-- **Attempts under any faults** remove the file or leave the machine as it was. -/
theorem keeps_untried (w : Machine) (hw : r.want = .absent) : r.Keeps (r.Untried w) where
  create hpresent := by
    rw [hw] at hpresent
    cases hpresent
  chmod hpresent := by
    rw [hw] at hpresent
    cases hpresent
  chown hpresent := by
    rw [hw] at hpresent
    cases hpresent
  remove _ m m' _ _ hc := Or.inr ⟨fit_of_precheck (remove_ok hc).1, arrive_without hc⟩

theorem settled_of_nowhere (hw : r.want = .absent) {m : Machine} (hm : m.faults = [])
    (hgone : ∃ e, m.stat r.path = .error e ∧ meansAbsent e = true) :
    r.Settled (.ofAbsent .absent) m where
  calm := hm
  same o := by
    rw [evaluate_of_missing hgone, hw]
  inSync := rfl

/-- A path that leads nowhere has no status. -/
theorem stat_of_nowhere {m : Machine} {path : String} (hcheck : m.precheck .stat path = .ok ())
    (h : LeadsNowhere (m.arrive path)) : ∃ e, m.stat path = .error e ∧ meansAbsent e = true := by
  rw [stat_eq hcheck]
  match ha : m.arrive path with
  | .error e =>
    rw [ha] at h
    rw [show e = .noEntry from h]
    exact ⟨_, rfl, rfl⟩
  | .ok (.vacant _ _) => exact ⟨_, rfl, rfl⟩
  | .ok (.present _ _) =>
    rw [ha] at h
    exact h.elim

/-- Deleting where the removal is known to succeed. -/
theorem triple_delete {m m' : Machine} (hdry : o.dryRun = false) (hthere : m.isThere r.path = true)
    (hremove : m.remove r.path = .ok m') :
    Triple (fun m₁ => m₁ = m) (r.delete o) (fun _ m₁ => m₁ = m') fun _ _ => False := by
  refine Triple.bind (Q := fun b m₁ => b = true ∧ m₁ = m) (Triple.observe_ok ?_)
    fun b => Triple.pre ?_
  · intro m₁ heq
    subst heq
    exact ⟨_, rfl, hthere, rfl⟩
  intro heq
  subst heq
  refine Triple.bind (triple_progress _) fun _ => triple_take_ok hdry ?_
  intro m₁ heq
  subst heq
  exact ⟨m', hremove, rfl⟩

/-- A removal settles a resource that should be absent. -/
theorem settled_of_remove (hw : r.want = .absent) {m m' : Machine} (hm : m.faults = [])
    (hremove : m.remove r.path = .ok m') : r.Settled (.ofAbsent .absent) m' := by
  obtain ⟨hcheck, parent, name, entry, -, -, -, -, -, -, -, -, hm'⟩ := remove_ok hremove
  have hcalm : m'.faults = [] := by
    rw [hm']
    exact hm
  have hgone := stat_of_nowhere (precheck_of_calm hcalm (fit_of_precheck hcheck) .stat)
    (arrive_without hremove)
  exact settled_of_nowhere hw hcalm hgone

/-- A file that could be compared and can be removed is removed, and compared once more when it is
    gone. -/
theorem reconcile_removes {s : Session} {n : Node} {m' : Machine} {st : State}
    (hw : r.want = .absent) (hdry : o.dryRun = false) (hcalm : s.machine.faults = [])
    (hstat : s.machine.stat r.path = .ok n) (heval : r.evaluate o s.machine = .ok st)
    (hremove : s.machine.remove r.path = .ok m') :
    ∃ s', perform (r.reconcile o) s = (.ok (.ofAbsent .absent), s') ∧ s'.machine = m' := by
  obtain ⟨u, s', hdelete, hs'⟩ :=
    (triple_delete hdry (isThere_of_stat hcalm hstat) hremove).ok (s := s) rfl
  have haction : st.action? = some .delete := by
    rcases evaluate_ok heval with ⟨e, he, -, -⟩ | ⟨n', gap, content, -, -, -, -, rfl⟩
    · rw [hstat] at he
      cases he
    · rw [hw]
      rfl
  refine ⟨s', ?_, hs'⟩
  rw [reconcile_eq, perform_bind, perform_observe, heval]
  dsimp only
  rw [carryOut_some haction hdry, perform_bind]
  rw [show perform (r.act o .delete) s = (.ok u, s') from hdelete]
  dsimp only
  rw [perform_observe, hs', (settled_of_remove hw hcalm hremove).same o]

/-- **A pass over what can be removed** removes it and settles the resource. -/
theorem triple_remove (hw : r.want = .absent) (hsource : r.source.getD "" = "")
    (hdry : o.dryRun = false) :
    Triple (fun m => m.faults = [] ∧ r.Removable m) (r.reconcile o) (fun st m => r.Settled st m)
      fun _ _ => False := by
  intro s hs
  obtain ⟨hcalm, hready⟩ := hs
  rcases hready with hgone | ⟨n, gap, hstat, hfile, hgap, m', hremove⟩
  · -- nothing is there
    have hsettled := settled_of_nowhere hw hcalm hgone
    rw [reconcile_of_inSync (hsettled.same o) hsettled.inSync]
    exact hsettled
  · -- a file is there
    obtain ⟨s', h, hs'⟩ := reconcile_removes hw hdry hcalm hstat
      (evaluate_of_owner hsource hstat hfile hgap o) hremove
    rw [h]
    subst hs'
    exact settled_of_remove hw hcalm hremove

/-- What a pass that ended well says about the machine it started on. -/
theorem removable_of_pass {w : Machine} {s s' : Session} {st : State} (hw : r.want = .absent)
    (hdry : o.dryRun = false) (hs : s.machine = w) (hcalm : w.faults = [])
    (h : perform (r.reconcile o) s = (.ok st, s')) : r.Removable w := by
  subst hs
  rw [reconcile_eq] at h
  obtain ⟨st₀, s₁, hfirst, hrest⟩ := perform_bind_ok h
  rw [perform_observe, Prod.mk.injEq] at hfirst
  obtain ⟨heval, rfl⟩ := hfirst
  rcases evaluate_ok heval with ⟨e, hstat, he, rfl⟩ | ⟨n, gap, content, hstat, hfile, hgap, -, rfl⟩
  · exact Or.inl ⟨e, hstat, he⟩
  · refine Or.inr ⟨n, gap, hstat, hfile, hgap, ?_⟩
    rw [carryOut_some (a := .delete) (by rw [hw]; rfl) hdry] at hrest
    obtain ⟨_, s₂, hact, -⟩ := perform_bind_ok hrest
    obtain ⟨b, s₃, hb, hact⟩ := perform_bind_ok hact
    rw [perform_observe, isThere_of_stat hcalm hstat, Prod.mk.injEq] at hb
    obtain ⟨hb, rfl⟩ := hb
    cases hb
    obtain ⟨_, s₄, hsay, htake⟩ := perform_bind_ok hact
    obtain ⟨m', hremove⟩ := call_of_take hdry htake
    rw [machine_of_progress hsay] at hremove
    exact ⟨m', hremove⟩

end Absent

/-! ## §5. Recovery. -/

/-- Two passes end well and the second settles the resource, the first already where it should be
    absent. -/
def SettlesInTwo (r : FileResource) (s : Session) : Prop :=
  ∀ site₁ site₂, ∃ st₁ s₁ st₂ s₂,
    r.attempt (pass site₁) s = (.ok st₁, s₁) ∧ r.attempt (pass site₂) s₁ = (.ok st₂, s₂) ∧
    (r.want = .absent → st₁.inSync = true) ∧ r.Settled st₂ s₂.machine

/-- **A file that should be present is settled by two passes** after any attempts. -/
theorem settles_present {r : FileResource} {a : Accounts} {uid gid : Int} {s : Session}
    (h : r.Canonical a uid gid) (hsource : r.source.getD "" = "")
    (hmode : 0 ≤ r.mode ∧ r.mode ≤ Field.maxMode) (hfit : Fit r.path) (hw : r.want = .present)
    (hs : r.Within a s.machine) : r.SettlesInTwo s := by
  intro site₁ site₂
  obtain ⟨st₁, s₁, h₁, n, hstands, howned⟩ :=
    (triple_pass_within (o := (pass site₁).options) h hsource hmode hfit hw rfl).ok
      (s := { s with machine := s.machine.under [] }) ⟨rfl, within_under _ _ hs⟩
  obtain ⟨st₂, s₂, h₂, hsettled⟩ :=
    (triple_settle (o := (pass site₂).options) h hsource hmode hfit hw rfl howned).ok hstands
  refine ⟨st₁, s₁, st₂, s₂, h₁, ?_, ?_, hsettled⟩
  · unfold attempt
    rw [show (pass site₂).faults = [] from rfl, under_of_calm hstands.calm]
    exact h₂
  · intro habsent
    rw [hw] at habsent
    cases habsent

/-- A file that should be absent is settled by the first pass. -/
theorem settles_absent {r : FileResource} {w : Machine} {s : Session} (hw : r.want = .absent)
    (hsource : r.source.getD "" = "") (hremovable : r.Removable w)
    (hs : r.Untried w s.machine) : r.SettlesInTwo s := by
  intro site₁ site₂
  have hready : r.Removable (s.machine.under []) := by
    rcases hs with hsame | ⟨hfit, hgone⟩
    · rw [hsame]
      exact hremovable
    · exact Or.inl (stat_of_nowhere (precheck_of_calm rfl hfit .stat) hgone)
  obtain ⟨st, s₁, h₁, hsettled⟩ :=
    (triple_remove (o := (pass site₁).options) hw hsource rfl).ok
      (s := { s with machine := s.machine.under [] }) ⟨rfl, hready⟩
  exact ⟨st, s₁, st, s₁, h₁, attempt_of_settled hsettled site₂, fun _ => hsettled.inSync, hsettled⟩

/-- **Recovery.**  If a pass over a resource would end well, then it can be interrupted in any way and
    as often as one likes: two passes without faults end well after that, the second one in sync (the
    first one too where the file should be absent), and every later one gives the same state, changes
    nothing and says nothing.  A NUL in the path or in a name would have failed the first pass. -/
theorem recovers_in_two_passes {w : Machine} {title : String} {data : Value} {r : FileResource}
    {uid gid : Int} {user group : String} {site : Option Path} {st : State} {s : Session}
    (hbuild : build w title data = .ok r) (hsource : r.source.getD "" = "")
    (hnames : r.Canonical w.accounts uid gid) (huser : w.accounts.userName w.uid = .ok user)
    (hgroup : w.accounts.groupName w.gid = .ok group)
    (hfirst : r.attempt (pass site) ⟨w, []⟩ = (.ok st, s)) (ts : List Attempt)
    (said : Transcript) (site₁ site₂ : Option Path) :
    ∃ st₁ s₁ st₂ s₂,
      r.attempt (pass site₁) (r.afterAttempts ts ⟨w, said⟩) = (.ok st₁, s₁) ∧
      r.attempt (pass site₂) s₁ = (.ok st₂, s₂) ∧
      (r.want = .absent → st₁.inSync = true) ∧ st₂.inSync = true ∧
      ∀ (sites : List (Option Path)) site',
        r.attempt (pass site') (r.afterAttempts (sites.map pass) s₂) = (.ok st₂, s₂) := by
  obtain ⟨-, hmode, hwant⟩ := build_ok hbuild
  have htwo : r.SettlesInTwo (r.afterAttempts ts ⟨w, said⟩) := by
    cases hw : r.want with
    | unknown => exact absurd hw hwant
    | present =>
      -- the pass that ended well shows that the file can be created or managed
      obtain ⟨hfit, hwithin⟩ := within_of_pass (w := w.under []) hw rfl rfl rfl
        ⟨user, group, fileOwner_of_names huser hgroup⟩ hfirst
      have hafter := afterAttempts_keeps (keeps_within hnames hw) within_under ts ⟨w, said⟩
        (within_under (w.under []) w.faults hwithin)
      exact settles_present hnames hsource hmode hfit hw hafter
    | absent =>
      -- it shows that there is nothing, or a file that can be removed
      have hremovable := removable_of_pass (w := w.under []) hw rfl rfl rfl hfirst
      have hafter := afterAttempts_keeps (keeps_untried (w.under []) hw)
        (fun m faults hm => hm) ts ⟨w, said⟩ (Or.inl rfl)
      exact settles_absent hw hsource hremovable hafter
  obtain ⟨st₁, s₁, st₂, s₂, h₁, h₂, hearly, hsettled⟩ := htwo site₁ site₂
  refine ⟨st₁, s₁, st₂, s₂, h₁, h₂, hearly, hsettled.inSync, ?_⟩
  intro sites site'
  rw [afterAttempts_of_settled hsettled sites]
  exact attempt_of_settled hsettled site'

/-- Creation is interrupted after the file was opened, and again before the mode is set. -/
theorem recovers_motd :
    build bare "/motd" (.mapping [(.text "mode", .integer 0o4755)]) = .ok motd ∧
    motd.Canonical bare.accounts 0 0 ∧ bare.accounts.userName bare.uid = .ok "root" ∧
    bare.accounts.groupName bare.gid = .ok "root" ∧
    (∃ st s, motd.attempt (pass none) ⟨bare, []⟩ = (.ok st, s)) ∧
    ∃ st₁ s₁ st₂ s₂,
      motd.attempt (pass none) (motd.afterAttempts
        [⟨none, [⟨.chown, "/motd", ⟨1⟩⟩]⟩, ⟨none, [⟨.chmod, "/motd", ⟨5⟩⟩]⟩]
        ⟨bare, []⟩) = (.ok st₁, s₁) ∧
      motd.attempt (pass none) s₁ = (.ok st₂, s₂) ∧
      (motd.want = .absent → st₁.inSync = true) ∧ st₂.inSync = true ∧
      ∀ (sites : List (Option Path)) site',
        motd.attempt (pass site') (motd.afterAttempts (sites.map pass) s₂) = (.ok st₂, s₂) := by
  have hbuild : build bare "/motd" (.mapping [(.text "mode", .integer 0o4755)]) = .ok motd := rfl
  have hnames : motd.Canonical bare.accounts 0 0 := ⟨rfl, rfl, rfl, rfl⟩
  have hfit : Fit motd.path := ⟨by decide, by decide, by decide⟩
  have hfree : bare.arrive motd.path = .ok (.vacant [] "motd") :=
    arrive_bare (by decide) (by decide) (by decide) (by decide) (by decide)
  obtain ⟨st, s, hfirst, -⟩ := (triple_pass_free (o := (pass none).options) hnames rfl (by decide)
    hfit rfl rfl (by decide)).ok (s := ⟨bare, []⟩) ⟨rfl, rfl, [], "motd", hfree⟩
  refine ⟨hbuild, hnames, rfl, rfl, ⟨st, s, hfirst⟩, ?_⟩
  exact recovers_in_two_passes hbuild rfl hnames rfl rfl hfirst _ [] none none

end Converge.FileResource
