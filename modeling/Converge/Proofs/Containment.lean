/-
  Converge.Proofs.Containment
  ───────────────────────────
  **WHICH FAILURES END A RUN.**

  A run goes on after a failure of a resource or a refusal of the system.  What remains is a NUL that
  is handed to the system, in a path or in the name of a user or group: nobody takes that for a failure
  of the resource, and it ends the run.  So a run gives one outcome for each resource exactly if no
  resource meets a NUL at its turn.

  Main results:
    * `uncontained_evaluate`, `escapes_step_iff` — when a comparison, and a step, meets a NUL;
    * `run_complete_iff` — when a run is complete;
    * `nul_ends_run` — a plan that is not.
-/
import Converge.Proofs.Anatomy
import Converge.Proofs.Names
import Mathlib.Data.List.Induction

namespace Converge.FileResource

open Converge.Machine Act

/-! ## §1. Failures that are not contained. -/

/-- A failure that ends a whole run. -/
def Uncontained (f : Failure) : Prop := Runner.isContained f = false

theorem uncontained_call {e : CallFailure} : Uncontained (.call e) ↔ e = .nulInPath := by
  cases e <;> simp [Uncontained, Runner.isContained, Failure.isAboutInput, Failure.isRefusal]

theorem uncontained_lookupFailure {id : String} {e : LookupFailure} :
    Uncontained (lookupFailure id e) ↔ e = .nulInName := by
  cases e <;> simp [Uncontained, lookupFailure, Runner.isContained, Failure.isAboutInput,
    Failure.isRefusal]

theorem uncontained_readFailure {id : String} {e : CallFailure} :
    Uncontained (readFailure id e) ↔ e = .nulInPath := by
  cases e <;> simp [Uncontained, readFailure, Runner.isContained, Failure.isAboutInput,
    Failure.isRefusal]

theorem not_uncontained_resource {id : String} {fault : ResourceFault} :
    ¬ Uncontained (.resource id fault) := by
  simp [Uncontained, Runner.isContained, Failure.isAboutInput]

theorem not_uncontained_config {fault : ConfigFault} : ¬ Uncontained (.config fault) := by
  simp [Uncontained, Runner.isContained, Failure.isAboutInput]

/-- An answer or a failure that does not end a run. -/
theorem uncontained_mapError {α ε : Type} {x : Except ε α} {g : ε → Failure} {p : ε → Prop}
    (h : ∀ e, Uncontained (g e) ↔ p e) :
    (∃ f, x.mapError g = .error f ∧ Uncontained f) ↔ ∃ e, x = .error e ∧ p e := by
  cases x with
  | ok a => simp
  | error e => simp [h]

/-! ## §2. Comparisons. -/

/-- The lookup of the declared names comes upon a NUL. -/
def NamesNul (r : FileResource) (a : Accounts) : Prop :=
  hasNul r.owner = true ∨ (∃ uid, a.userId r.owner = .ok uid) ∧ hasNul r.group = true

/-- The reading of the source comes upon a NUL. -/
def SourceNul (r : FileResource) (o : Options) (m : Machine) : Prop :=
  ∃ p, r.sourcePath o = .ok (some p) ∧ hasNul p.toString = true ∧
    m.faultFor? .read p.toString = none

/-- A comparison comes upon a NUL. -/
inductive LooksAtNul (r : FileResource) (o : Options) (m : Machine) : Prop where
  /-- In the path. -/
  | path (nul : hasNul r.path = true) (reached : m.faultFor? .stat r.path = none)
  /-- In a name, once a file was found. -/
  | names {n : Node} (found : m.stat r.path = .ok n) (file : n.isFile = true)
      (nul : r.NamesNul m.accounts)
  /-- In the path of the source, once the owners were compared. -/
  | source {n : Node} {gap : Option Difference} (found : m.stat r.path = .ok n)
      (file : n.isFile = true) (owner : r.ownerDifference n m = .ok gap) (nul : r.SourceNul o m)

section Comparing

variable {r : FileResource} {o : Options} {m : Machine} {n : Node}

theorem userId_nul_iff {a : Accounts} {name : String} :
    a.userId name = .error .nulInName ↔ hasNul name = true := by
  unfold Accounts.userId
  cases hasNul name with
  | true => simp
  | false => cases a.userNamed? name <;> simp

theorem groupId_nul_iff {a : Accounts} {name : String} :
    a.groupId name = .error .nulInName ↔ hasNul name = true := by
  unfold Accounts.groupId
  cases hasNul name with
  | true => simp
  | false => cases a.groupNamed? name <;> simp

theorem fileOwner_ne_nul {a : Accounts} : fileOwner a n ≠ .error .nulInName := by
  unfold fileOwner Accounts.userName Accounts.groupName
  cases a.userNumbered? n.uid with
  | none => simp [bind, Except.bind]
  | some u => cases a.groupNumbered? n.gid <;> simp [bind, Except.bind, pure, Except.pure]

theorem uncontained_ownerIds :
    (∃ f, r.ownerIds m = .error f ∧ Uncontained f) ↔ r.NamesNul m.accounts := by
  unfold ownerIds NamesNul
  rw [uncontained_mapError fun e => uncontained_lookupFailure, ← userId_nul_iff (a := m.accounts),
    ← groupId_nul_iff (a := m.accounts)]
  cases m.accounts.userId r.owner with
  | error e => simp [bind, Except.bind]
  | ok uid =>
    cases m.accounts.groupId r.group <;> simp [bind, Except.bind, pure, Except.pure]

theorem uncontained_ownerDifference :
    (∃ f, r.ownerDifference n m = .error f ∧ Uncontained f) ↔ r.NamesNul m.accounts := by
  unfold ownerDifference ownerChanged NamesNul
  rw [uncontained_mapError fun e => uncontained_lookupFailure, ← userId_nul_iff (a := m.accounts),
    ← groupId_nul_iff (a := m.accounts)]
  cases m.accounts.userId r.owner with
  | error e => simp [bind, Except.bind]
  | ok uid =>
    cases m.accounts.groupId r.group with
    | error e => simp [bind, Except.bind]
    | ok gid =>
      have hne := fileOwner_ne_nul (n := n) (a := m.accounts)
      cases hf : fileOwner m.accounts n with
      | error e =>
        rw [hf] at hne
        simpa [bind, Except.bind] using hne
      | ok names =>
        simp only [bind, Except.bind, pure, Except.pure]
        split <;> simp

/-- Reading comes upon a NUL in the source alone: the destination has been found by then. -/
theorem uncontained_contentDifference (hpath : hasNul r.path = false) :
    (∃ f, r.contentDifference o m = .error f ∧ Uncontained f) ↔ r.SourceNul o m := by
  unfold SourceNul
  unfold contentDifference
  cases hs : r.sourcePath o with
  | error f =>
    have hf : ¬ Uncontained f := by
      unfold sourcePath at hs
      repeat' split at hs
      all_goals cases hs
      exact not_uncontained_config
    simp [bind, Except.bind, hf]
  | ok source =>
    cases source with
    | none => simp [bind, Except.bind, pure, Except.pure]
    | some p =>
      -- the source is read first; the destination holds no NUL
      have hdestination : m.read (Path.ofString r.path).toString ≠ .error .nulInPath := by
        rw [Ne, read_nul_iff, hasNul_toString_ofString hpath]
        simp
      have hchanged : Checksum.contentChanged m (Path.ofString r.path).toString p.toString =
          .error .nulInPath ↔ m.read p.toString = .error .nulInPath := by
        unfold Checksum.contentChanged Checksum.ofFile
        cases m.read p.toString with
        | error e => simp [bind, Except.bind, Except.map]
        | ok content =>
          cases hd : m.read (Path.ofString r.path).toString with
          | error e =>
            rw [hd] at hdestination
            simpa [bind, Except.bind, Except.map] using hdestination
          | ok content' => simp [bind, Except.bind, Except.map, pure, Except.pure]
      rw [read_nul_iff] at hchanged
      simp only [Except.ok.injEq, Option.some.injEq, exists_eq_left', ← hchanged]
      cases hc : Checksum.contentChanged m (Path.ofString r.path).toString p.toString with
      | error e => simp [hc, bind, Except.bind, uncontained_readFailure]
      | ok changed =>
        cases changed <;> simp [hc, bind, Except.bind, pure, Except.pure]

/-- A path with a status holds no NUL. -/
theorem noNul_of_stat (h : m.stat r.path = .ok n) : hasNul r.path = false :=
  (precheck_ok_iff.mp (stat_ok_iff.mp h).1).2.noNul

/-- **A comparison fails beyond containment exactly where it comes upon a NUL.** -/
theorem uncontained_evaluate :
    (∃ f, r.evaluate o m = .error f ∧ Uncontained f) ↔ r.LooksAtNul o m := by
  unfold evaluate
  cases hs : m.stat r.path with
  | error e =>
    -- without a status nothing but the path has been looked at
    have hlook : r.LooksAtNul o m ↔ e = .nulInPath := by
      constructor
      · intro h
        cases h with
        | path nul reached =>
          rw [stat_nul_iff.mpr ⟨nul, reached⟩] at hs
          cases hs
          rfl
        | names found => rw [found] at hs; cases hs
        | source found => rw [found] at hs; cases hs
      · intro heq
        subst heq
        exact .path (stat_nul_iff.mp hs).1 (stat_nul_iff.mp hs).2
    rw [hlook]
    cases ha : meansAbsent e with
    | true =>
      have hne : e ≠ .nulInPath := by
        intro heq
        subst heq
        cases ha
      simp [ha, hne]
    | false => simp [ha, uncontained_call]
  | ok n =>
    -- with one, the names are looked up, then the source is read
    have hpath := noNul_of_stat hs
    have hlook : r.LooksAtNul o m ↔ n.isFile = true ∧ (r.NamesNul m.accounts ∨
        (∃ gap, r.ownerDifference n m = .ok gap) ∧ r.SourceNul o m) := by
      constructor
      · intro h
        cases h with
        | path nul =>
          rw [hpath] at nul
          cases nul
        | names found file nul =>
          rw [found] at hs
          cases hs
          exact ⟨file, Or.inl nul⟩
        | source found file owner nul =>
          rw [found] at hs
          cases hs
          exact ⟨file, Or.inr ⟨⟨_, owner⟩, nul⟩⟩
      · intro hcases
        obtain ⟨file, hnul⟩ := hcases
        rcases hnul with nul | ⟨⟨gap, owner⟩, nul⟩
        · exact .names hs file nul
        · exact .source hs file owner nul
    rw [hlook, ← uncontained_ownerDifference (n := n), ← uncontained_contentDifference hpath]
    cases hf : n.isFile with
    | false => simp [hf, not_uncontained_resource]
    | true =>
      cases hgap : r.ownerDifference n m with
      | error f => simp [hf, hgap, bind, Except.bind]
      | ok gap =>
        cases hc : r.contentDifference o m with
        | error f => simp [hf, hgap, bind, Except.bind]
        | ok content => simp [hf, hgap, bind, Except.bind, pure, Except.pure]

/-- What is declared holds no NUL, as far as it is ever handed to the system. -/
structure NulFree (r : FileResource) (o : Options) (a : Accounts) : Prop where
  path : hasNul r.path = false
  names : ¬ r.NamesNul a
  source : ∀ p, r.sourcePath o = .ok (some p) → hasNul p.toString = false

theorem NulFree.not_looksAtNul {a : Accounts} (h : r.NulFree o a) (hm : m.accounts = a) :
    ¬ r.LooksAtNul o m := by
  intro hlook
  cases hlook with
  | path nul =>
    rw [h.path] at nul
    cases nul
  | names _ _ nul =>
    rw [hm] at nul
    exact h.names nul
  | source _ _ _ nul =>
    obtain ⟨p, hp, hnul, -⟩ := nul
    rw [h.source p hp] at hnul
    cases hnul

/-- What was found to be a file and compared to the end holds no NUL. -/
theorem nulFree_of_evaluate {gap content : Option Difference} (hstat : m.stat r.path = .ok n)
    (hgap : r.ownerDifference n m = .ok gap) (hcontent : r.contentDifference o m = .ok content) :
    r.NulFree o m.accounts where
  path := noNul_of_stat hstat
  names hnul := by
    obtain ⟨f, hf, -⟩ := (uncontained_ownerDifference (n := n)).mpr hnul
    rw [hgap] at hf
    cases hf
  source p hp := by
    unfold contentDifference at hcontent
    rw [hp] at hcontent
    unfold Checksum.contentChanged Checksum.ofFile at hcontent
    cases hread : m.read p.toString with
    | error e => simp [hread, bind, Except.bind, Except.map] at hcontent
    | ok bytes =>
      unfold Machine.read at hread
      cases hexists : m.existing .read p.toString true with
      | error e => simp [hexists, bind, Except.bind] at hread
      | ok found => exact (precheck_ok_iff.mp (existing_ok_iff.mp hexists).1).2.noNul

end Comparing

/-! ## §3. Actions. -/

section Acting

variable {r : FileResource} {o : Options} {a : Accounts}

theorem accounts_of_chmod {m m' : Machine} {path : String} {mode : Nat}
    (h : m.chmod path mode = .ok m') : m'.accounts = m.accounts := by
  obtain ⟨-, place, node, -, rfl⟩ := chmod_ok_iff.mp h
  rfl

theorem accounts_of_remove {m m' : Machine} {path : String} (h : m.remove path = .ok m') :
    m'.accounts = m.accounts := by
  obtain ⟨-, parent, name, entry, -, -, -, -, -, -, -, -, rfl⟩ := remove_ok h
  rfl

/-- On given accounts the action keeps them, and every failure is contained. -/
def Contained {α : Type} (a : Accounts) (act : Act α) : Prop :=
  Triple (fun m => m.accounts = a) act (fun _ m => m.accounts = a) fun f _ => ¬ Uncontained f

theorem contained_look {α : Type} {f : Machine → Except Failure α}
    (h : ∀ m e, m.accounts = a → f m = .error e → ¬ Uncontained e) : Contained a (observe f) :=
  Triple.observe (fun _ _ hm _ => hm) h

theorem contained_enact {message : String} {call : Machine → Except CallFailure Machine}
    (hok : ∀ m m', call m = .ok m' → m'.accounts = m.accounts)
    (hnul : ∀ m, call m ≠ .error .nulInPath) : Contained a (r.enact o message call) := by
  refine Triple.bind (triple_progress _) fun _ => ?_
  unfold take
  split
  · exact Triple.pure fun m hm => hm
  · refine Triple.change (fun m m' hm hf => (hok m m' hf).trans hm) ?_
    intro m e _ he
    rw [uncontained_call]
    intro heq
    subst heq
    exact hnul m he

/-- No step changes the accounts. -/
theorem accounts_of_step {message : String} {call : Machine → Except CallFailure Machine}
    (hcall : r.Announces message call) {m m' : Machine} (h : call m = .ok m') :
    m'.accounts = m.accounts := by
  cases hcall with
  | opening => exact accounts_of_create h
  | owner uid gid => exact accounts_of_chown h
  | mode => exact accounts_of_chmod h
  | removal => exact accounts_of_remove h

/-- No call changes the accounts. -/
theorem keeps_accounts (r : FileResource) (a : Accounts) : r.Keeps fun m => m.accounts = a where
  create _ _ _ hm hc := (accounts_of_create hc).trans hm
  chmod _ _ _ hm _ hc := (accounts_of_chmod hc).trans hm
  chown _ _ _ _ _ hm _ _ hc := (accounts_of_chown hc).trans hm
  remove _ _ _ hm _ hc := (accounts_of_remove hc).trans hm

/-- A call on a path without NUL comes upon none. -/
theorem ne_nul_of_step {message : String} {call : Machine → Except CallFailure Machine}
    (hcall : r.Announces message call) (hpath : hasNul r.path = false) (m : Machine) :
    call m ≠ .error .nulInPath := by
  have hnul : call m = .error .nulInPath → hasNul r.path = true := by
    intro h
    cases hcall with
    | opening => exact (create_nul_iff.mp h).1
    | owner uid gid => exact (chown_nul_iff.mp h).1
    | mode => exact (chmod_nul_iff.mp h).1
    | removal => exact remove_nul h
  intro h
  rw [hnul h] at hpath
  cases hpath

theorem contained_regularFile (h : r.NulFree o a) : Contained a (observe r.regularFile) := by
  refine contained_look fun m e _ he => ?_
  unfold regularFile at he
  cases hs : m.stat r.path with
  | error e' =>
    rw [hs] at he
    cases he
    rw [uncontained_call]
    intro heq
    subst heq
    rw [stat_nul_iff, h.path] at hs
    exact Bool.noConfusion hs.1
  | ok n =>
    rw [hs] at he
    dsimp only at he
    split at he
    · cases he
    · cases he
      exact not_uncontained_resource

theorem contained_contentDifference (h : r.NulFree o a) :
    Contained a (observe (r.contentDifference o)) := by
  refine contained_look fun m e _ he hbad => ?_
  obtain ⟨p, hp, hnul, -⟩ := (uncontained_contentDifference h.path).mp ⟨e, he, hbad⟩
  rw [h.source p hp] at hnul
  cases hnul

/-- **Whatever is done about a resource without NUL, its failures are contained.** -/
theorem covers_contained (h : r.NulFree o a) : r.Covers o fun _ => Contained a where
  pure _ := Triple.pure fun _ hm => hm
  bind := Triple.bind
  ids := contained_look fun _ e hm he hbad =>
    h.names (hm ▸ uncontained_ownerIds.mp ⟨e, he, hbad⟩)
  node := contained_regularFile h
  owner _ := contained_look fun _ e hm he hbad =>
    h.names (hm ▸ uncontained_ownerDifference.mp ⟨e, he, hbad⟩)
  content := contained_contentDifference h
  there := contained_look fun _ _ _ he => by cases he
  state := contained_look fun _ e hm he hbad =>
    h.not_looksAtNul hm (uncontained_evaluate.mp ⟨e, he, hbad⟩)
  step hcall := contained_enact (fun _ _ hc => accounts_of_step hcall hc)
    fun m => ne_nul_of_step hcall h.path m
  word _ := triple_progress _

end Acting

/-! ## §4. Steps. -/

/-- A creation comes upon a NUL. -/
inductive CreatesNul (r : FileResource) (o : Options) (m : Machine) : Prop where
  /-- In a name. -/
  | names (nul : r.NamesNul m.accounts)
  /-- In the path, which a status that failed has not shown. -/
  | path {ids : Int × Int} (known : r.ownerIds m = .ok ids) (wet : o.dryRun = false)
      (nul : hasNul r.path = true) (reached : m.faultFor? .create r.path = none)
  /-- In the path of the source, when the new file is compared. -/
  | again {uid gid : Int} {m₁ m₂ m₃ : Machine} (known : r.ownerIds m = .ok (uid, gid))
      (wet : o.dryRun = false) (opened : m.create r.path = .ok m₁)
      (given : m₁.chown r.path uid gid = .ok m₂) (set : m₂.chmod r.path r.mode.toNat = .ok m₃)
      (looks : r.LooksAtNul o m₃)

/-- A resource comes upon a NUL: when it is compared, or when it is created after that. -/
def MeetsNul (mode : Mode) (o : Options) (r : FileResource) (m : Machine) : Prop :=
  r.LooksAtNul o m ∨
    (mode = .apply ∧ r.want = .present ∧ (∃ e, m.stat r.path = .error e ∧ meansAbsent e = true) ∧
      r.CreatesNul o m)

section Stepping

variable {r : FileResource} {o : Options} {s : Session}

theorem noNul_of_create {m m' : Machine} (h : m.create r.path = .ok m') : hasNul r.path = false :=
  (precheck_ok_iff.mp (create_ok h).1).2.noNul

/-- A creation that is carried out. -/
theorem escapes_create (hwet : o.dryRun = false) :
    Escapes Uncontained (do r.create o; observe (r.evaluate o)) s ↔ r.CreatesNul o s.machine := by
  unfold create progress take
  simp only [hwet, Bool.false_eq_true, if_false, bind_assoc]
  rw [escapes_observe_bind, uncontained_ownerIds]
  simp only [escapes_say_bind, escapes_change_bind, escapes_observe, uncontained_call,
    uncontained_evaluate, exists_eq_right, Prod.exists]
  constructor
  · intro hparts
    rcases hparts with hnul | ⟨uid, gid, hids, hopen⟩
    · exact .names hnul
    rcases hopen with hcreate | ⟨m₁, h₁, hgive⟩
    · exact .path hids hwet (create_nul_iff.mp hcreate).1 (create_nul_iff.mp hcreate).2
    -- a path that was opened holds no NUL, so the calls that follow meet none
    rcases hgive with hchown | ⟨m₂, h₂, hset⟩
    · rw [chown_nul_iff, noNul_of_create h₁] at hchown
      exact Bool.noConfusion hchown.1
    rcases hset with hchmod | ⟨m₃, h₃, hlook⟩
    · rw [chmod_nul_iff, noNul_of_create h₁] at hchmod
      exact Bool.noConfusion hchmod.1
    exact .again hids hwet h₁ h₂ h₃ hlook
  · intro h
    cases h with
    | names nul => exact Or.inl nul
    | path known _ nul reached =>
      exact Or.inr ⟨_, _, known, Or.inl (create_nul_iff.mpr ⟨nul, reached⟩)⟩
    | again known _ opened given set looks =>
      exact Or.inr ⟨_, _, known, Or.inr ⟨_, opened, Or.inr ⟨_, given, Or.inr ⟨_, set, looks⟩⟩⟩⟩

/-- A creation that is only shown. -/
theorem escapes_create_dry (hdry : o.dryRun = true) (st : State) :
    Escapes Uncontained (do r.create o; return st) s ↔ r.CreatesNul o s.machine := by
  unfold create progress take
  simp only [hdry, if_true, bind_assoc]
  rw [escapes_observe_bind, uncontained_ownerIds]
  simp only [escapes_say_bind, pure_bind, not_escapes_pure, and_false, exists_false, or_false]
  constructor
  · exact .names
  · intro h
    cases h with
    | names nul => exact nul
    | path _ wet =>
      rw [hdry] at wet
      cases wet
    | again _ wet =>
      rw [hdry] at wet
      cases wet

theorem escapes_carryOut_create :
    Escapes Uncontained (r.carryOut o (.ofAbsent .present)) s ↔ r.CreatesNul o s.machine := by
  cases hdry : o.dryRun with
  | false =>
    rw [carryOut_some (a := .create) rfl hdry]
    exact escapes_create hdry
  | true =>
    unfold carryOut
    simp only [hdry]
    exact escapes_create_dry hdry _

/-- **A step fails beyond containment exactly where its resource comes upon a NUL.** -/
theorem escapes_step_iff {mode : Mode} :
    Escapes Uncontained (Runner.step mode o r) s ↔ MeetsNul mode o r s.machine := by
  unfold MeetsNul Runner.step
  cases mode with
  | plan =>
    dsimp only
    rw [escapes_observe, uncontained_evaluate]
    simp
  | apply =>
    dsimp only
    rw [reconcile_eq, escapes_observe_bind, uncontained_evaluate]
    refine or_congr Iff.rfl ?_
    constructor
    · intro hfails
      obtain ⟨st, heval, hescapes⟩ := hfails
      rcases evaluate_ok heval with ⟨e, hs, he, rfl⟩ | ⟨n, gap, content, hs, -, hgap, hc, rfl⟩
      · -- nothing was found, so a file is created if it is wanted
        cases hw : r.want with
        | present =>
          rw [hw] at hescapes
          exact ⟨rfl, rfl, ⟨e, hs, he⟩, escapes_carryOut_create.mp hescapes⟩
        | absent =>
          rw [hw, carryOut_none rfl] at hescapes
          exact absurd hescapes not_escapes_pure
        | unknown =>
          rw [hw, carryOut_none rfl] at hescapes
          exact absurd hescapes not_escapes_pure
      · -- a file that was compared to the end holds no NUL, so mending and deleting meet none
        have hfree := nulFree_of_evaluate hs hgap hc
        exact absurd hescapes (((covers_contained hfree).carryOut _).not_escapes rfl)
    · intro hmeets
      obtain ⟨-, hw, ⟨e, hs, he⟩, hcreates⟩ := hmeets
      refine ⟨.ofAbsent .present, ?_, escapes_carryOut_create.mpr hcreates⟩
      unfold evaluate
      rw [hs, hw]
      dsimp only
      rw [if_pos he]

end Stepping

end Converge.FileResource

namespace Converge.Runner

open Converge.Machine Act FileResource

/-! ## §5. Runs. -/

section Running

variable {mode : Mode} {o : Options} {r : FileResource} {s : Session}

/-- A run is complete: it ends with one outcome for each resource, in order. -/
def Complete (mode : Mode) (o : Options) (rs : List FileResource) (s : Session) : Prop :=
  ∃ outcomes s', perform (run mode o rs) s = (.ok outcomes, s') ∧ outcomes.map (·.resource) = rs

/-- A resource that comes upon a NUL ends the run. -/
theorem runOne_of_meetsNul (h : MeetsNul mode o r s.machine) :
    ∃ f s₁, perform (runOne mode o r) s = (.error f, s₁) := by
  obtain ⟨f, s₁, hstep, hbad⟩ := escapes_step_iff.mpr h
  refine ⟨f, s₁, ?_⟩
  rw [perform_runOne, hstep]
  dsimp only
  rw [show isContained f = false from hbad, if_neg (by simp)]

/-- Any other resource has an outcome. -/
theorem runOne_of_not_meetsNul (h : ¬ MeetsNul mode o r s.machine) :
    ∃ outcome s₁, perform (runOne mode o r) s = (.ok outcome, s₁) ∧ outcome.resource = r := by
  rw [perform_runOne]
  match hstep : perform (step mode o r) s with
  | (.ok st, s₁) => exact ⟨success r st, s₁, rfl, rfl⟩
  | (.error f, s₁) =>
    cases hf : isContained f with
    | true =>
      dsimp only
      rw [if_pos hf]
      exact ⟨fault r f, _, rfl, rfl⟩
    | false => exact absurd (escapes_step_iff.mp ⟨f, s₁, hstep, hf⟩) h

theorem machineAfter_cons {outcome : Outcome} {s₁ : Session} (rest : List FileResource)
    (h : perform (runOne mode o r) s = (.ok outcome, s₁)) :
    machineAfter mode o (r :: rest) s = machineAfter mode o rest s₁ := by
  unfold machineAfter
  rw [run_cons, perform_bind, h]
  dsimp only
  rw [perform_bind]
  match perform (run mode o rest) s₁ with
  | (.ok outcomes, s₂) => rfl
  | (.error f, s₂) => rfl

/-- **A run is complete exactly if no resource comes upon a NUL at its turn.** -/
theorem complete_iff (mode : Mode) (o : Options) (rs : List FileResource) (s : Session) :
    Complete mode o rs s ↔ ∀ front r back, rs = front ++ r :: back →
      ¬ MeetsNul mode o r (machineAfter mode o front s) := by
  induction rs generalizing s with
  | nil =>
    constructor
    · intro _ front r back h
      simp at h
    · intro _
      exact ⟨[], s, rfl, rfl⟩
  | cons r rest ih =>
    constructor
    · intro hcomplete front r' back hsplit
      obtain ⟨outcomes, s', hrun, hall⟩ := hcomplete
      rw [run_cons] at hrun
      obtain ⟨outcome, s₁, hone, hrun⟩ := perform_bind_ok hrun
      cases front with
      | nil =>
        -- the first resource has an outcome, so it meets no NUL
        rw [List.nil_append, List.cons.injEq] at hsplit
        obtain ⟨rfl, rfl⟩ := hsplit
        intro hnul
        obtain ⟨f, s₂, hfail⟩ := runOne_of_meetsNul (s := s) hnul
        rw [hone] at hfail
        cases hfail
      | cons r'' front =>
        -- the run over the rest, from where the first resource left the machine, is complete too
        rw [List.cons_append, List.cons.injEq] at hsplit
        obtain ⟨rfl, hsplit⟩ := hsplit
        obtain ⟨outcomes', s₂, hrest, hdone⟩ := perform_bind_ok hrun
        rw [perform_pure, Prod.mk.injEq, Except.ok.injEq] at hdone
        obtain ⟨rfl, rfl⟩ := hdone
        rw [List.map_cons, List.cons.injEq] at hall
        rw [machineAfter_cons front hone]
        exact (ih s₁).mp ⟨outcomes', s₂, hrest, hall.2⟩ front r' back hsplit
    · intro h
      obtain ⟨outcome, s₁, hone, hresource⟩ := runOne_of_not_meetsNul (s := s) (h [] r rest rfl)
      have hrest : Complete mode o rest s₁ := by
        refine (ih s₁).mpr ?_
        intro front r' back hsplit
        rw [← machineAfter_cons front hone]
        exact h (r :: front) r' back (by rw [hsplit, List.cons_append])
      obtain ⟨outcomes, s', hrun, hall⟩ := hrest
      refine ⟨outcome :: outcomes, s', ?_, ?_⟩
      · rw [run_cons, perform_bind, hone]
        dsimp only
        rw [perform_bind, hrun]
        rfl
      · rw [List.map_cons, hresource, hall]

/-- The accounts are the same throughout a run. -/
theorem accounts_machineAfter (mode : Mode) (o : Options) (s : Session) (rs : List FileResource) :
    (machineAfter mode o rs s).accounts = s.machine.accounts := by
  induction rs using List.reverseRecOn with
  | nil => rfl
  | append_singleton front r ih =>
    rw [machineAfter_snoc]
    unfold machineAfter at ih
    match hrun : perform (run mode o front) s with
    | (.error f, s₁) =>
      rw [hrun] at ih
      exact ih
    | (.ok outcomes, s₁) =>
      rw [hrun] at ih
      cases mode with
      | plan =>
        show (perform (observe (r.evaluate o)) s₁).2.machine.accounts = _
        rw [perform_observe]
        exact ih
      | apply => exact ((keeps_accounts r s.machine.accounts).reconcile (o := o)).after ih

/-- Resources without NUL never come upon one. -/
theorem not_meetsNul_of_nulFree {a : Accounts} (h : r.NulFree o a) {m : Machine}
    (hm : m.accounts = a) : ¬ MeetsNul mode o r m := by
  intro hmeets
  rcases hmeets with hlook | ⟨-, -, -, hcreates⟩
  · exact h.not_looksAtNul hm hlook
  · cases hcreates with
    | names nul => exact h.names (hm ▸ nul)
    | path _ _ nul =>
      rw [h.path] at nul
      cases nul
    | again _ _ opened given set looks =>
      refine h.not_looksAtNul ?_ looks
      rw [accounts_of_chmod set, accounts_of_chown given, accounts_of_create opened, hm]

/-- **When a run is complete**: exactly if no resource comes upon a NUL at its turn, and so whenever
    nothing that is declared holds one. -/
theorem run_complete_iff (mode : Mode) (o : Options) (rs : List FileResource) (s : Session) :
    (Complete mode o rs s ↔ ∀ front r back, rs = front ++ r :: back →
      ¬ MeetsNul mode o r (machineAfter mode o front s)) ∧
    ((∀ r ∈ rs, r.NulFree o s.machine.accounts) → Complete mode o rs s) := by
  refine ⟨complete_iff mode o rs s, ?_⟩
  intro hfree
  rw [complete_iff]
  intro front r back hsplit
  subst hsplit
  refine not_meetsNul_of_nulFree (hfree r (by simp)) ?_
  exact accounts_machineAfter mode o s front

/-- A resource with a NUL in its path can be built, and neither it nor the resource after it has an
    outcome. -/
theorem nul_ends_run :
    build bare "motd" (.mapping [(.text "path", .text "/motd\x00")]) =
      .ok ⟨"motd", "/motd\x00", 0o644, "root", "root", none, .present⟩ ∧
    build bare "/motd" .null = .ok ⟨"/motd", "/motd", 0o644, "root", "root", none, .present⟩ ∧
    ∀ mode, ¬ Complete mode {} [⟨"motd", "/motd\x00", 0o644, "root", "root", none, .present⟩,
      ⟨"/motd", "/motd", 0o644, "root", "root", none, .present⟩] ⟨bare, []⟩ := by
  refine ⟨rfl, rfl, ?_⟩
  intro mode h
  refine (complete_iff _ _ _ _).mp h [] _ _ rfl (Or.inl (.path ?_ rfl))
  decide

end Running

end Converge.Runner
