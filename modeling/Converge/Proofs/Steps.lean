/-
  Converge.Proofs.Steps
  ─────────────────────
  **WHICH CALLS A RESOURCE MAKES, AND WHEN.**

  Creating opens, then sets the owner, then the mode; mending sets attributes of what was seen to be
  a file; deleting removes what was seen to be a file.  So a property that these calls keep, each
  where it is made, is kept by every action and by the whole of `reconcile`.

  Main results:
    * `Keeps.reconcile` — a property that the calls keep is kept, however the action ends;
    * `evaluate_ok` — what a state that was found says about the machine.
-/
import Converge.Proofs.Act
import Converge.Proofs.Calls
import Converge.Reconcile

namespace Converge.FileResource

open Converge.Machine Act

/-! ## §1. Looking. -/

theorem ownerIds_congr (r : FileResource) {m m' : Machine} (h : m'.accounts = m.accounts) :
    r.ownerIds m' = r.ownerIds m := by
  unfold ownerIds
  rw [h]

theorem ownerDifference_congr (r : FileResource) (n : Node) {m m' : Machine}
    (h : m'.accounts = m.accounts) : r.ownerDifference n m' = r.ownerDifference n m := by
  unfold ownerDifference
  rw [h]

/-- A node that was found to be a regular file is one that the path leads to. -/
theorem leadsToFile_of_stat {m : Machine} {path : String} {n : Node} (h : m.stat path = .ok n)
    (hfile : n.isFile = true) : m.LeadsToFile path := by
  obtain ⟨-, place, ha⟩ := stat_ok_iff.mp h
  exact ⟨place, n, ha, hfile⟩

theorem regularFile_ok {r : FileResource} {m : Machine} {n : Node} (h : r.regularFile m = .ok n) :
    m.stat r.path = .ok n ∧ n.isFile = true := by
  unfold regularFile at h
  cases hs : m.stat r.path with
  | error e => rw [hs] at h; cases h
  | ok n' =>
    rw [hs] at h
    cases hf : n'.isFile with
    | true =>
      simp only [hf, if_true] at h
      cases h
      exact ⟨rfl, hf⟩
    | false => simp [hf] at h

/-- **What a comparison that gives a state has seen**: nothing at the path, or a regular file with the
    differences that the state lists. -/
theorem evaluate_ok {r : FileResource} {o : Options} {m : Machine} {s : State}
    (h : r.evaluate o m = .ok s) :
    (∃ e, m.stat r.path = .error e ∧ meansAbsent e = true ∧ s = .ofAbsent r.want) ∨
    (∃ n owner content, m.stat r.path = .ok n ∧ n.isFile = true ∧
      r.ownerDifference n m = .ok owner ∧ r.contentDifference o m = .ok content ∧
      s = .ofPresent r.want ((r.modeDifference n).toList ++ owner.toList ++ content.toList)) := by
  unfold evaluate at h
  cases hs : m.stat r.path with
  | error e =>
    rw [hs] at h
    cases ha : meansAbsent e with
    | true =>
      simp only [ha, if_true] at h
      cases h
      exact Or.inl ⟨e, rfl, ha, rfl⟩
    | false => simp [ha] at h
  | ok n =>
    rw [hs] at h
    cases hf : n.isFile with
    | false => simp [hf] at h
    | true =>
      simp only [hf, Bool.not_true, Bool.false_eq_true, if_false] at h
      cases ho : r.ownerDifference n m with
      | error e => rw [ho] at h; cases h
      | ok owner =>
        cases hc : r.contentDifference o m with
        | error e => rw [ho, hc] at h; cases h
        | ok content =>
          rw [ho, hc] at h
          cases h
          exact Or.inr ⟨n, owner, content, rfl, hf, ho, rfl, rfl⟩

/-- A comparison that finds nothing gives the state of what is absent. -/
theorem evaluate_of_missing {r : FileResource} {o : Options} {m : Machine}
    (h : ∃ e, m.stat r.path = .error e ∧ meansAbsent e = true) :
    r.evaluate o m = .ok (.ofAbsent r.want) := by
  obtain ⟨e, hstat, he⟩ := h
  unfold evaluate
  rw [hstat]
  dsimp only
  rw [if_pos he]

/-- What was seen before an action is taken. -/
def Warrant (r : FileResource) (m : Machine) : Action → Prop
  | .create => r.want = .present ∧ ∃ e, m.stat r.path = .error e ∧ meansAbsent e = true
  | .update => r.want = .present ∧ m.LeadsToFile r.path
  | .delete => r.want = .absent ∧ m.LeadsToFile r.path

/-- An action is called for by what was seen. -/
theorem warrant_of_action {r : FileResource} {o : Options} {m : Machine} {s : State} {a : Action}
    (h : r.evaluate o m = .ok s) (ha : s.action? = some a) : r.Warrant m a := by
  unfold State.action? State.needsCreate State.needsDelete State.needsUpdate at ha
  obtain ⟨e, hs, he, rfl⟩ | ⟨n, owner, content, hs, hf, -, -, rfl⟩ := evaluate_ok h
  · cases hw : r.want <;> simp [State.ofAbsent, hw] at ha
    subst ha
    exact ⟨hw, e, hs, he⟩
  · have hfile := leadsToFile_of_stat hs hf
    cases hw : r.want <;> simp [State.ofPresent, hw] at ha
    · obtain ⟨-, rfl⟩ := ha
      exact ⟨hw, hfile⟩
    · subst ha
      exact ⟨hw, hfile⟩

/-! ## §2. The parts of mending. -/

/-- Sets the mode, if it differs. -/
def mendMode (r : FileResource) (o : Options) (node : Node) : Act Unit :=
  if (r.modeDifference node).isSome then do
    r.progress o r.modeMessage
    take o (·.chmod r.path r.mode.toNat)
  else pure ()

/-- Sets owner and group. -/
def giveAway (r : FileResource) (o : Options) : Act Unit := do
  let ids ← observe r.ownerIds
  r.progress o r.ownerMessage
  take o (·.chown r.path ids.1 ids.2)

/-- Sets owner and group, if they differ. -/
def mendOwner (r : FileResource) (o : Options) (node : Node) : Act Unit := do
  let owner ← observe (r.ownerDifference node)
  if owner.isSome then r.giveAway o else pure ()

/-- Says that the content differs, if it does. -/
def noteContent (r : FileResource) (o : Options) : Act Unit := do
  let content ← observe (r.contentDifference o)
  match content with
  | none => return ()
  | some d => r.progress o ("el contenido difiere de " ++ d.desired.plain ++ "; no se sincroniza")

/-- What follows a step that may be left out follows in both cases. -/
theorem ite_bind {p : Prop} [Decidable p] (a b : Act Unit) :
    (do (if p then a else pure ()); b) = if p then (do a; b) else b := by
  split
  · rfl
  · rw [pure_bind]

/-- Mending is mode, then owner, then a word about the content. -/
theorem update_eq (r : FileResource) (o : Options) :
    r.update o = (do
      let node ← observe r.regularFile
      r.mendMode o node
      r.mendOwner o node
      r.noteContent o) := by
  unfold update mendMode mendOwner giveAway
  simp only [bind_assoc, ite_bind]
  -- what is left is the word about the content, spelled out on one side
  rfl

/-- What is done about a state. -/
def carryOut (r : FileResource) (o : Options) (st : State) : Act State :=
  match st.action? with
  | none => return st
  | some a => do
    r.act o a
    if o.dryRun then return st else observe (r.evaluate o)

theorem reconcile_eq (r : FileResource) (o : Options) :
    r.reconcile o = (do r.carryOut o (← observe (r.evaluate o))) := rfl

theorem carryOut_none {r : FileResource} {o : Options} {st : State} (h : st.action? = none) :
    r.carryOut o st = pure st := by
  unfold carryOut
  rw [h]

/-- Outside a dry run the file is compared again after an action. -/
theorem carryOut_some {r : FileResource} {o : Options} {st : State} {a : Action}
    (h : st.action? = some a) (hdry : o.dryRun = false) :
    r.carryOut o st = (do r.act o a; observe (r.evaluate o)) := by
  unfold carryOut
  rw [h, hdry]
  rfl

theorem machine_of_progress {r : FileResource} {o : Options} {message : String} {s s' : Session}
    {u : Unit} (h : perform (r.progress o message) s = (.ok u, s')) : s'.machine = s.machine := by
  unfold progress at h
  rw [perform_say, Prod.mk.injEq] at h
  rw [← h.2]

/-- A step that was taken is a call that succeeded. -/
theorem call_of_take {o : Options} (hdry : o.dryRun = false)
    {f : Machine → Except CallFailure Machine} {s s' : Session} {u : Unit}
    (h : perform (take o f) s = (.ok u, s')) : ∃ m', f s.machine = .ok m' := by
  unfold take at h
  rw [hdry, if_neg (by simp), perform_change] at h
  cases hf : f s.machine with
  | error e => rw [hf] at h; cases h
  | ok m' => exact ⟨m', rfl⟩

/-! ## §3. Properties that the calls keep. -/

/-- The calls that a resource makes keep a property, each where it is made: attributes are set and
    names removed only where the path leads to a file. -/
structure Keeps (r : FileResource) (I : Machine → Prop) : Prop where
  create : r.want = .present → ∀ m m', I m → m.create r.path = .ok m' → I m'
  chmod : r.want = .present → ∀ m m', I m → m.LeadsToFile r.path →
    m.chmod r.path r.mode.toNat = .ok m' → I m'
  chown : r.want = .present → ∀ m m' uid gid, I m → m.LeadsToFile r.path →
    r.ownerIds m = .ok (uid, gid) → m.chown r.path uid gid = .ok m' → I m'
  remove : r.want = .absent → ∀ m m', I m → m.LeadsToFile r.path → m.remove r.path = .ok m' → I m'

variable {r : FileResource} {o : Options} {I : Machine → Prop}

/-- A step that is taken, or only printed. -/
theorem triple_take {P Q : Machine → Prop} {f : Machine → Except CallFailure Machine}
    (hdry : o.dryRun = true → ∀ m, P m → Q m)
    (hok : o.dryRun = false → ∀ m m', P m → f m = .ok m' → Q m') (herr : ∀ m, P m → I m) :
    Triple P (take o f) (fun _ => Q) fun _ => I := by
  unfold take
  cases hd : o.dryRun with
  | true => exact Triple.pure (hdry hd)
  | false => exact Triple.change (hok hd) fun m _ hm _ => herr m hm

theorem triple_progress {P : Machine → Prop} {E : Failure → Machine → Prop} (message : String) :
    Triple P (r.progress o message) (fun _ => P) E :=
  Triple.say fun _ h => h

/-- Accounts stay as they are when a node is put somewhere. -/
theorem ownerIds_of_call {m m' : Machine} {ids : Int × Int} (h : r.ownerIds m = .ok ids)
    (hm : m'.accounts = m.accounts) : r.ownerIds m' = .ok ids :=
  (r.ownerIds_congr hm).trans h

theorem accounts_of_create {m m' : Machine} {path : String} (h : m.create path = .ok m') :
    m'.accounts = m.accounts := by
  obtain ⟨-, -, ⟨parent, name, -, rfl⟩ | ⟨place, node, -, -, rfl⟩⟩ := create_ok h <;> rfl

theorem accounts_of_chown {m m' : Machine} {path : String} {uid gid : Int}
    (h : m.chown path uid gid = .ok m') : m'.accounts = m.accounts := by
  obtain ⟨-, place, node, -, rfl⟩ := chown_ok_iff.mp h
  rfl

namespace Keeps

/-- Creating opens before it sets attributes, so the path leads to a file by then. -/
theorem triple_create (h : r.Keeps I) (hw : r.want = .present) :
    Triple I (r.create o) (fun _ => I) fun _ => I := by
  refine Triple.bind (Q := fun ids m => I m ∧ r.ownerIds m = .ok ids)
    (Triple.observe (fun m ids hm hids => ⟨hm, hids⟩) fun m _ hm _ => hm) ?_
  intro ids
  obtain ⟨uid, gid⟩ := ids
  refine Triple.bind (triple_progress _) fun _ => ?_
  -- opening; in a dry run there may be no file after it, but no call follows either
  refine Triple.bind (Q := fun _ m => I m ∧ r.ownerIds m = .ok (uid, gid) ∧
      (o.dryRun = false → m.LeadsToFile r.path)) (triple_take ?_ ?_ fun m hm => hm.1) fun _ => ?_
  · intro hd m hm
    exact ⟨hm.1, hm.2, fun hd' => by rw [hd] at hd'; cases hd'⟩
  · intro _ m m' hm hcall
    exact ⟨h.create hw m m' hm.1 hcall, ownerIds_of_call hm.2 (accounts_of_create hcall),
      fun _ => leadsToFile_of_create hcall⟩
  refine Triple.bind (triple_progress _) fun _ => ?_
  -- the owner
  refine Triple.bind (Q := fun _ m => I m ∧ (o.dryRun = false → m.LeadsToFile r.path))
    (triple_take ?_ ?_ fun m hm => hm.1) fun _ => ?_
  · exact fun _ m hm => ⟨hm.1, hm.2.2⟩
  · intro hd m m' hm hcall
    exact ⟨h.chown hw m m' uid gid hm.1 (hm.2.2 hd) hm.2.1 hcall,
      fun _ => (hm.2.2 hd).chown hcall⟩
  refine Triple.bind (triple_progress _) fun _ => ?_
  -- the mode
  refine triple_take (fun _ m hm => hm.1) ?_ fun m hm => hm.1
  intro hd m m' hm hcall
  exact h.chmod hw m m' hm.1 (hm.2 hd) hcall

/-- Mending starts from a node that was seen to be a file. -/
theorem triple_update (h : r.Keeps I) (hw : r.want = .present) :
    Triple I (r.update o) (fun _ => I) fun _ => I := by
  rw [update_eq]
  refine Triple.bind (Q := fun _ m => I m ∧ m.LeadsToFile r.path)
    (Triple.observe ?_ fun m _ hm _ => hm) fun node => ?_
  · intro m n hm hn
    exact ⟨hm, leadsToFile_of_stat (regularFile_ok hn).1 (regularFile_ok hn).2⟩
  -- the mode, after which the path still leads to the file
  refine Triple.bind (Q := fun _ m => I m ∧ m.LeadsToFile r.path) ?_ fun _ => ?_
  · unfold mendMode
    split
    · refine Triple.bind (triple_progress _) fun _ => triple_take (fun _ m hm => hm) ?_ fun m hm => hm.1
      exact fun _ m m' hm hcall => ⟨h.chmod hw m m' hm.1 hm.2 hcall, hm.2.chmod hcall⟩
    · exact Triple.pure fun m hm => hm
  -- the owner
  refine Triple.bind (Q := fun _ => I) ?_ fun _ => ?_
  · refine Triple.bind (Triple.observe (Q := fun _ m => I m ∧ m.LeadsToFile r.path)
      (fun m _ hm _ => hm) fun m _ hm _ => hm.1) fun owner => ?_
    split
    · refine Triple.bind (Q := fun ids m => (I m ∧ m.LeadsToFile r.path) ∧ r.ownerIds m = .ok ids)
        (Triple.observe (fun m ids hm hids => ⟨hm, hids⟩) fun m _ hm _ => hm.1) fun ids => ?_
      refine Triple.bind (triple_progress _) fun _ =>
        triple_take (fun _ m hm => hm.1.1) ?_ fun m hm => hm.1.1
      exact fun _ m m' hm hcall => h.chown hw m m' ids.1 ids.2 hm.1.1 hm.1.2 hm.2 hcall
    · exact Triple.pure fun m hm => hm.1
  -- the content is only spoken of
  refine Triple.bind (Q := fun _ => I) (Triple.observe (fun m _ hm _ => hm) fun m _ hm _ => hm)
    fun content => ?_
  cases content with
  | none => exact Triple.pure fun m hm => hm
  | some d => exact triple_progress _

/-- Deleting is called for only where the path leads to a file. -/
theorem triple_delete (h : r.Keeps I) (hw : r.want = .absent) :
    Triple (fun m => I m ∧ m.LeadsToFile r.path) (r.delete o) (fun _ => I) fun _ => I := by
  refine Triple.bind (Q := fun _ m => I m ∧ m.LeadsToFile r.path)
    (Triple.observe (fun m _ hm _ => hm) fun m _ hm _ => hm.1) fun isThere => ?_
  split
  · refine Triple.bind (triple_progress _) fun _ => triple_take (fun _ m hm => hm.1) ?_ fun m hm => hm.1
    exact fun _ m m' hm hcall => h.remove hw m m' hm.1 hm.2 hcall
  · exact Triple.pure fun m hm => hm.1

/-- An action that is called for keeps what the calls keep. -/
theorem triple_act (h : r.Keeps I) (a : Action) :
    Triple (fun m => I m ∧ r.Warrant m a) (r.act o a) (fun _ => I) fun _ => I := by
  intro s hs
  cases a with
  | create => exact h.triple_create hs.2.1 s hs.1
  | update => exact h.triple_update hs.2.1 s hs.1
  | delete => exact h.triple_delete hs.2.1 s ⟨hs.1, hs.2.2⟩

/-- **What the calls of a resource keep is kept by bringing it to its state**, whatever fails on the
    way. -/
theorem reconcile (h : r.Keeps I) : Triple I (r.reconcile o) (fun _ => I) fun _ => I := by
  rw [reconcile_eq]
  refine Triple.bind (Q := fun st m => I m ∧ r.evaluate o m = .ok st)
    (Triple.observe (fun m st hm hst => ⟨hm, hst⟩) fun m _ hm _ => hm) fun st => ?_
  unfold carryOut
  cases ha : st.action? with
  | none => exact Triple.pure fun m hm => hm.1
  | some a =>
    refine Triple.bind (Q := fun _ => I) ?_ fun _ => ?_
    · exact (h.triple_act a).weaken (fun m hm => ⟨hm.1, warrant_of_action hm.2 ha⟩)
        (fun _ m hm => hm) fun _ m hm => hm
    · split
      · exact Triple.pure fun m hm => hm
      · exact Triple.observe (fun m _ hm _ => hm) fun m _ hm _ => hm

end Keeps

end Converge.FileResource
