/-
  Converge.Proofs.Ownership
  ─────────────────────────
  **WHEN A FILE HAS ITS DECLARED OWNER.**

  Owners are compared by name, from the numbers of the file to names, and set by number, from the
  declared names to numbers.  Where two names share a number, only the first of them comes back.  So a
  file that has the numbers of the declared names is found to have the declared owner exactly if these
  are the names of their numbers.  If they are, a file that was created or mended keeps its owner: it
  is not given away again.

  Main results:
    * `ownerChanged_false_iff` — names against numbers;
    * `owned_of_create`, `owned_of_update` — who owns a file that was created or mended;
    * `avoids_reconcile` — a file of the declared owner is not given away;
    * `owner_by_name_settles` — the two together.
-/
import Converge.Proofs.Avoidance
import Converge.Proofs.Exactness
import Converge.Proofs.Refusal
import Mathlib.Data.List.Nodup

namespace Converge.Machine

/-! ## §1. Tables in which no name occurs twice. -/

/-- No two users and no two groups share a name; they may share a number. -/
structure Accounts.NamesOnce (a : Accounts) : Prop where
  users : (a.users.map (·.name)).Nodup
  groups : (a.groups.map (·.name)).Nodup

/-- Whatever is found by the name of a row that was found by number has that number. -/
theorem number_of_find? {α : Type} {rows : List α} {name : α → String} {number : α → Int}
    (h : (rows.map name).Nodup) {i : Int} {row first : α}
    (hrow : rows.find? (number · == i) = some row)
    (hfirst : rows.find? (name · == name row) = some first) : number first = i := by
  have hname : name first = name row := by simpa using List.find?_some hfirst
  -- no other row has the name
  have hsame : first = row := List.inj_on_of_nodup_map h (List.mem_of_find?_eq_some hfirst)
    (List.mem_of_find?_eq_some hrow) hname
  rw [hsame]
  simpa using List.find?_some hrow

variable {a : Accounts}

theorem userId_of_userName (h : a.NamesOnce) {i uid : Int} {name : String}
    (hname : a.userName i = .ok name) (hid : a.userId name = .ok uid) : uid = i := by
  unfold Accounts.userName Accounts.userNumbered? at hname
  unfold Accounts.userId Accounts.userNamed? at hid
  split at hid
  · cases hid
  cases hrow : a.users.find? (·.uid == i) with
  | none => simp [hrow] at hname
  | some row =>
    simp only [hrow, Except.ok.injEq] at hname
    subst hname
    cases hfirst : a.users.find? (·.name == row.name) with
    | none => simp [hfirst] at hid
    | some first =>
      simp only [hfirst, Except.ok.injEq] at hid
      rw [← hid]
      exact number_of_find? h.users hrow hfirst

theorem groupId_of_groupName (h : a.NamesOnce) {i gid : Int} {name : String}
    (hname : a.groupName i = .ok name) (hid : a.groupId name = .ok gid) : gid = i := by
  unfold Accounts.groupName Accounts.groupNumbered? at hname
  unfold Accounts.groupId Accounts.groupNamed? at hid
  split at hid
  · cases hid
  cases hrow : a.groups.find? (·.gid == i) with
  | none => simp [hrow] at hname
  | some row =>
    simp only [hrow, Except.ok.injEq] at hname
    subst hname
    cases hfirst : a.groups.find? (·.name == row.name) with
    | none => simp [hfirst] at hid
    | some first =>
      simp only [hfirst, Except.ok.injEq] at hid
      rw [← hid]
      exact number_of_find? h.groups hrow hfirst

end Converge.Machine

namespace Converge.FileResource

open Converge.Machine Act

/-! ## §2. Names against numbers. -/

/-- **A comparison of owners finds no difference exactly if** the node has the numbers of the given
    names, and these are the names of their numbers. -/
theorem ownerChanged_false_iff {a : Accounts} (h : a.NamesOnce) {n : Node} (hnamed : Named a n)
    {owner group : String} {uid gid : Int} (huid : a.userId owner = .ok uid)
    (hgid : a.groupId group = .ok gid) :
    ∃ changed, ownerChanged a n owner group = .ok changed ∧
      (changed = false ↔ (n.uid = uid ∧ n.gid = gid) ∧
        a.userName uid = .ok owner ∧ a.groupName gid = .ok group) := by
  obtain ⟨user, actual, hnames⟩ := hnamed
  obtain ⟨huser, hactual⟩ := names_of_fileOwner hnames
  refine ⟨user != owner || actual != group, ?_, ?_⟩
  · exact ownerChanged_ok_iff.mpr ⟨uid, gid, user, actual, huid, hgid, huser, hactual, by simp⟩
  · have hsame : (user != owner || actual != group) = false ↔ user = owner ∧ actual = group := by
      simp
    rw [hsame]
    constructor
    · intro hboth
      obtain ⟨rfl, rfl⟩ := hboth
      -- the declared names came from the node's numbers, so looking them up gives these again
      cases userId_of_userName h huser huid
      cases groupId_of_groupName h hactual hgid
      exact ⟨⟨rfl, rfl⟩, huser, hactual⟩
    · intro hcanonical
      obtain ⟨⟨rfl, rfl⟩, hback, hgroupBack⟩ := hcanonical
      rw [huser] at hback
      rw [hactual] at hgroupBack
      cases hback
      cases hgroupBack
      exact ⟨rfl, rfl⟩

/-! ## §3. Who owns a file that was created or mended. -/

section Giving

variable {r : FileResource} {o : Options} {a : Accounts} {p : Node → Prop} {m m' : Machine}
  {n : Node} {uid gid : Int} {s s' : Session}

/-- On given accounts the path leads to a file with a property. -/
structure LeadsTo (r : FileResource) (a : Accounts) (p : Node → Prop) (m : Machine) : Prop where
  accounts : m.accounts = a
  fit : Fit r.path
  leads : ∃ place n, m.arrive r.path = .ok (.present place n) ∧ n.isFile = true ∧ p n

namespace LeadsTo

theorem of_node (h : r.LeadsTo a p m) (hstat : m.stat r.path = .ok n) : p n := by
  obtain ⟨place, n', ha, hfile, hp⟩ := h.leads
  obtain ⟨-, place', ha'⟩ := stat_ok_iff.mp hstat
  rw [ha] at ha'
  cases ha'
  exact hp

/-- Faults have no part in where a path leads. -/
theorem under (h : r.LeadsTo a p m) (faults : List Fault) : r.LeadsTo a p (m.under faults) :=
  ⟨h.accounts, h.fit, h.leads⟩

end LeadsTo

theorem owned_of_create (h : r.Canonical s.machine.accounts uid gid) (hwet : o.dryRun = false)
    (hdone : perform (r.create o) s = (.ok (), s')) :
    r.LeadsTo s.machine.accounts (r.Owned s.machine.accounts) s'.machine := by
  have hmade := made_of_create hwet hdone
  obtain ⟨uid', gid', place, file, hids, hfile, ha⟩ := hmade.leads
  -- it was given to the numbers of the declared names, whose names are these
  rw [h.ownerIds rfl] at hids
  cases hids
  refine ⟨?_, hmade.fit, place, _, ha, hfile, ?_⟩
  · obtain ⟨d, hd⟩ := hmade.onDisk
    rw [hd]
  · exact (fileOwner_congr rfl rfl).trans (h.owned file)

theorem owned_of_update (h : r.Canonical s.machine.accounts uid gid) (hwet : o.dryRun = false)
    (hdone : perform (r.update o) s = (.ok (), s')) :
    r.LeadsTo s.machine.accounts (r.Owned s.machine.accounts) s'.machine := by
  obtain ⟨place, n, n', hstat, hfile, ha, hmends, hput⟩ := mends_of_update h hwet hdone
  have hfile' : n'.isFile = true := hmends.isFile.trans hfile
  rw [hput]
  exact ⟨rfl, fit_of_precheck (stat_ok_iff.mp hstat).1, place, n', arrive_put ha hfile hfile', hfile',
    hmends.owned h⟩

/-- The accounts are the same after a mode was set. -/
theorem triple_mendMode_accounts (a : Accounts) : Triple (fun m => m.accounts = a) (r.mendMode o n)
    (fun _ m => m.accounts = a) fun _ _ => True := by
  rw [mendMode_eq]
  split
  · refine Triple.bind (triple_progress _) fun _ => ?_
    refine triple_take (fun _ _ hm => hm) ?_ fun _ _ => trivial
    intro _ m m' hm hcall
    obtain ⟨-, place, node, -, rfl⟩ := chmod_ok_iff.mp hcall
    exact hm
  · exact Triple.pure fun _ hm => hm

/-! ## §4. Keeping the owner. -/

theorem owner_not_listed (hm : r.LeadsTo a (r.Owned a) m) {st : State}
    (heval : r.evaluate o m = .ok st) :
    Attribute.owner.name ∉ st.differences.map (·.field) := by
  rcases evaluate_ok heval with
    ⟨e, -, -, rfl⟩ | ⟨n, owner, content, hstat, hfile, howner, hcontent, rfl⟩
  · exact List.not_mem_nil
  · -- if it were listed, one of the names found would not be declared
    intro hlisted
    obtain ⟨user, group, huser, hgroup, hdiffers⟩ :=
      ((lists_of_comparisons hstat hfile howner hcontent).listed .owner).mp hlisted
    obtain ⟨huser', hgroup'⟩ := names_of_fileOwner (hm.of_node hstat)
    rw [hm.accounts, huser'] at huser
    rw [hm.accounts, hgroup'] at hgroup
    cases huser
    cases hgroup
    simp at hdiffers

theorem avoids_update (h : r.Canonical a uid gid) (hm : r.LeadsTo a (r.Owned a) s.machine) :
    Avoids .chown (r.update o) s := by
  rw [update_eq]
  refine .bind (.observe fun fs hfs => (unseen_of_changes r o rfl hfs).regularFile) ?_
  intro n s₁ hlook
  rw [perform_observe, Prod.mk.injEq] at hlook
  obtain ⟨hn, rfl⟩ := hlook
  obtain ⟨hstat, hfile⟩ := regularFile_ok hn
  have howned : r.Owned a n := hm.of_node hstat
  refine .bind (avoids_mendMode (by decide) n) ?_
  intro u s₂ hmode
  have haccounts : s₂.machine.accounts = a := by
    have hend := triple_mendMode_accounts (r := r) (o := o) (n := n) a s hm.accounts
    rw [hmode] at hend
    exact hend
  refine .bind ?_ fun u s₃ _ => avoids_noteContent rfl
  unfold mendOwner
  refine .bind (.observe fun fs hfs => r.ownerDifference_congr n rfl) ?_
  intro gap s₃ hlook
  rw [perform_observe, Prod.mk.injEq] at hlook
  obtain ⟨hgap, rfl⟩ := hlook
  obtain ⟨gap', hgap', hiff⟩ := ownerDifference_named h haccounts ⟨r.owner, r.group, howned⟩
  rw [hgap] at hgap'
  cases hgap'
  rw [hiff.mpr howned]
  exact .pure ()

/-- A fault makes it seem that nothing is at the path. -/
def SeemsGone (r : FileResource) (m : Machine) : Prop :=
  ∃ e, m.faultFor? .stat r.path = some e ∧ (e = .noEntry ∨ e = .notDirectory)

/-- A path that leads to a file is found to lead nowhere only by a fault. -/
theorem seemsGone_of_absent (hm : r.LeadsTo a p m) {e : CallFailure}
    (hstat : m.stat r.path = .error e) (habsent : meansAbsent e = true) : r.SeemsGone m := by
  cases hfault : m.faultFor? .stat r.path with
  | none =>
    obtain ⟨place, n, ha, -⟩ := hm.leads
    rw [stat_ok_iff.mpr ⟨precheck_ok_iff.mpr ⟨hfault, hm.fit⟩, place, ha⟩] at hstat
    cases hstat
  | some errno =>
    refine ⟨errno, hfault, ?_⟩
    rw [stat_of_refused (precheck_of_fault hfault)] at hstat
    cases hstat
    simpa [meansAbsent] using habsent

/-- **A file of the declared owner is not given away**, unless it seems to be gone. -/
theorem avoids_reconcile (h : r.Canonical a uid gid) (hm : r.LeadsTo a (r.Owned a) s.machine)
    (hthere : ¬ r.SeemsGone s.machine) : Avoids .chown (r.reconcile o) s := by
  rw [reconcile_eq]
  refine .bind (.observe fun fs hfs => evaluate_failing rfl hfs) ?_
  intro st s₁ hlook
  rw [perform_observe, Prod.mk.injEq] at hlook
  obtain ⟨heval, rfl⟩ := hlook
  unfold carryOut
  cases ha : st.action? with
  | none => exact .pure st
  | some act =>
    have hwarrant := warrant_of_action heval ha
    refine .bind ?_ fun u s₁ _ => ?_
    · -- only creating would give the file away, and it would have to be missing
      cases act with
      | create =>
        obtain ⟨-, e, hstat, habsent⟩ := hwarrant
        exact absurd (seemsGone_of_absent hm hstat habsent) hthere
      | update => exact avoids_update h hm
      | delete => exact avoids_delete rfl (by decide)
    · split
      · exact .pure st
      · exact .observe fun fs hfs => evaluate_failing rfl hfs

/-- **Owners are compared by name, and so a file settles under the name of its owner's number.**  In
    tables where no name occurs twice a file has the declared owner exactly if it has the numbers of
    the declared names and these are the names of their numbers.  If they are, then of a file that was
    created or mended no difference in owner is found, whatever fails later, and bringing it to its
    state does not give it away, unless it seems to be gone. -/
theorem owner_by_name_settles :
    (∀ (a : Accounts) (n : Node) (owner group : String) (uid gid : Int), a.NamesOnce → Named a n →
      a.userId owner = .ok uid → a.groupId group = .ok gid →
      ∃ changed, ownerChanged a n owner group = .ok changed ∧
        (changed = false ↔ (n.uid = uid ∧ n.gid = gid) ∧
          a.userName uid = .ok owner ∧ a.groupName gid = .ok group)) ∧
    ∀ (r : FileResource) (o : Options) (act : Action) (s s' : Session) (uid gid : Int),
      act ≠ .delete → r.Canonical s.machine.accounts uid gid → o.dryRun = false →
      perform (r.act o act) s = (.ok (), s') → ∀ (faults : List Fault) (o' : Options),
        (∀ st, r.evaluate o' (s'.machine.under faults) = .ok st →
          "owner" ∉ st.differences.map (·.field)) ∧
        (¬ r.SeemsGone (s'.machine.under faults) → ∀ said,
          Avoids .chown (r.reconcile o') ⟨s'.machine.under faults, said⟩) := by
  refine ⟨?_, ?_⟩
  · intro a n owner group uid gid honce hnamed huid hgid
    exact ownerChanged_false_iff honce hnamed huid hgid
  · intro r o act s s' uid gid hact h hwet hdone faults o'
    have howned : r.LeadsTo s.machine.accounts (r.Owned s.machine.accounts) s'.machine := by
      cases act with
      | create => exact owned_of_create h hwet hdone
      | update => exact owned_of_update h hwet hdone
      | delete => exact absurd rfl hact
    refine ⟨fun st heval => owner_not_listed (howned.under faults) heval, ?_⟩
    intro hthere said
    exact avoids_reconcile h (howned.under faults) hthere

/-- The message of the day is created on a bare machine, and it keeps its owner. -/
theorem motd_settles :
    (∃ changed, ownerChanged bare.accounts ⟨.file [], 0o644, 0, 0⟩ "root" "root" = .ok changed ∧
      changed = false) ∧
    ∃ s', perform (motd.create {}) ⟨bare, []⟩ = (.ok (), s') ∧
      (∀ st, motd.evaluate {} (s'.machine.under []) = .ok st →
        "owner" ∉ st.differences.map (·.field)) ∧
      Avoids .chown (motd.reconcile {}) ⟨s'.machine.under [], []⟩ := by
  obtain ⟨hnames, hkept⟩ := owner_by_name_settles
  have hcanonical : motd.Canonical bare.accounts 0 0 := ⟨rfl, rfl, rfl, rfl⟩
  have hfree : bare.arrive motd.path = .ok (.vacant [] "motd") :=
    arrive_bare (by decide) (by decide) (by decide) (by decide) (by decide)
  refine ⟨?_, ?_⟩
  · obtain ⟨changed, hchanged, hiff⟩ := hnames bare.accounts ⟨.file [], 0o644, 0, 0⟩ "root" "root" 0 0
      ⟨by decide, by decide⟩ ⟨"root", "root", rfl⟩ rfl rfl
    exact ⟨changed, hchanged, hiff.mpr ⟨⟨rfl, rfl⟩, rfl, rfl⟩⟩
  · obtain ⟨u, s', hdone, -⟩ := (triple_create (o := {}) hcanonical (by decide)
      ⟨by decide, by decide, by decide⟩ (by decide) rfl).ok (s := ⟨bare, []⟩)
      ⟨rfl, rfl, [], "motd", hfree⟩
    obtain ⟨hfound, havoids⟩ := hkept motd {} .create ⟨bare, []⟩ s' 0 0 (by decide) hcanonical rfl
      hdone [] {}
    refine ⟨s', hdone, hfound, havoids ?_ []⟩
    intro hgone
    obtain ⟨e, he, -⟩ := hgone
    cases he

/-! ## §5. Owners that do not settle. -/

theorem SeemsGone.stat (h : r.SeemsGone m) :
    ∃ e, m.stat r.path = .error e ∧ meansAbsent e = true := by
  obtain ⟨e, hfault, habsent⟩ := h
  exact ⟨.system e r.path, stat_of_refused (precheck_of_fault hfault),
    by simpa [meansAbsent] using habsent⟩

/-- Where a path cannot be given to an owner, nothing is made. -/
theorem not_made_of_fault {e : Errno} (h : m.faultFor? .chown r.path = some e) : ¬ r.Made m m' := by
  intro hmade
  obtain ⟨-, hopened, hgiven, -⟩ := hmade
  obtain ⟨hcheck, -⟩ := chown_ok_iff.mp hgiven
  have hfault := (precheck_ok_iff.mp hcheck).1
  -- opening a file takes no fault away
  obtain ⟨-, -, ⟨parent, name, -, rfl⟩ | ⟨place, node, -, -, rfl⟩⟩ := create_ok hopened
  · rw [show (m.put (parent ++ [name]) m.newFile).faultFor? .chown r.path =
      m.faultFor? .chown r.path from rfl, h] at hfault
    cases hfault
  · rw [h] at hfault
    cases hfault

/-- A file that is wanted and seems to be gone is created, and so given away, once more. -/
theorem not_avoids_of_seemsGone (hgone : r.SeemsGone s.machine) (hw : r.want = .present)
    (hwet : o.dryRun = false) {st : State} (hok : perform (r.reconcile o) s = (.ok st, s')) :
    ¬ Avoids .chown (r.reconcile o) s := by
  intro havoids
  -- it would end as well where the file cannot be given away
  let fs : List Fault := [⟨.chown, r.path, .noEntry⟩]
  have hfs : ∀ f ∈ fs, f.call = .chown := by simp [fs]
  have hfaulted := havoids fs hfs
  rw [hok, reconcile_eq] at hfaulted
  obtain ⟨first, s₁, hlook, hrest⟩ := perform_bind_ok hfaulted
  rw [perform_observe, Prod.mk.injEq, evaluate_failing rfl hfs,
    evaluate_of_missing hgone.stat, hw, Except.ok.injEq] at hlook
  obtain ⟨rfl, rfl⟩ := hlook
  rw [carryOut_some (a := .create) rfl hwet] at hrest
  obtain ⟨u, s₂, hmade, -⟩ := perform_bind_ok hrest
  have hfault : (s.machine.failing fs).faultFor? .chown r.path = some .noEntry := by
    simp [faultFor?, failing, under, fs]
  exact not_made_of_fault hfault (made_of_create hwet hmade)

/-- A file that is wanted and seems to be gone is made and still seems to be gone. -/
theorem reconcile_of_seemsGone (hgone : r.SeemsGone s.machine) (hw : r.want = .present)
    (hwet : o.dryRun = false) (hmade : r.Made s.machine m') :
    ∃ s', perform (r.reconcile o) s = (.ok (.ofAbsent .present), s') := by
  obtain ⟨s₁, hdone, hmachine⟩ := hmade.perform hwet
  -- faults stay, whatever is done to the disk
  have hstill : r.SeemsGone s₁.machine := by
    obtain ⟨d, hd⟩ := hmade.onDisk
    rw [hmachine, hd]
    exact hgone
  have hfirst : r.evaluate o s.machine = .ok (.ofAbsent .present) := by
    rw [evaluate_of_missing hgone.stat, hw]
  have hlast : r.evaluate o s₁.machine = .ok (.ofAbsent .present) := by
    rw [evaluate_of_missing hstill.stat, hw]
  refine ⟨s₁, ?_⟩
  rw [reconcile_eq, perform_bind, perform_observe, hfirst]
  dsimp only
  rw [carryOut_some (a := .create) rfl hwet, perform_bind, show r.act o .create = r.create o from rfl,
    hdone]
  dsimp only
  rw [perform_observe, hlast]

end Giving

/-- An empty message of the day that belongs to the superuser. -/
def emptyMotd : Node := ⟨.file [], 0o644, 0, 0⟩

/-- A machine with that file, where the superuser has a second name. -/
def twoNames : Machine :=
  { bare.put ["motd"] emptyMotd with
    accounts := ⟨[⟨"root", 0, 0, "/root"⟩, ⟨"toor", 0, 0, "/root"⟩], [⟨"root", 0⟩]⟩ }

/-- A machine with that file, where a fault hides it. -/
def hidden : Machine := { bare.put ["motd"] emptyMotd with faults := [⟨.stat, "/motd", .noEntry⟩] }

/-- The message of the day as a file of the given owner. -/
def motdOf (owner : String) : FileResource := ⟨"/motd", "/motd", 0o644, owner, "root", none, .present⟩

theorem arrive_motd : (bare.put ["motd"] emptyMotd).arrive "/motd" =
    .ok (.present ["motd"] emptyMotd) :=
  arrive_put_vacant (arrive_bare (by decide) (by decide) (by decide) (by decide) (by decide)) rfl

/-- The hidden file is created again, with the attributes that it has. -/
theorem made_hidden : (motdOf "root").Made hidden hidden := by
  have hpresent : hidden.arrive "/motd" = .ok (.present ["motd"] emptyMotd) := arrive_motd
  have hopened : hidden.create "/motd" = .ok hidden := by
    rw [create_eq rfl (by decide), hpresent]
    rfl
  have hgiven : hidden.chown "/motd" 0 0 = .ok hidden :=
    chown_ok_iff.mpr ⟨rfl, ["motd"], emptyMotd, hpresent, rfl⟩
  have hset : hidden.chmod "/motd" 0o644 = .ok hidden :=
    chmod_ok_iff.mpr ⟨rfl, ["motd"], emptyMotd, hpresent, rfl⟩
  exact .intro rfl hopened hgiven hset

theorem ownerDifference_twoNames :
    ∃ gap, (motdOf "toor").ownerDifference emptyMotd twoNames = .ok (some gap) ∧ gap.field = "owner" :=
  ⟨_, rfl, rfl⟩

theorem stat_twoNames : twoNames.stat "/motd" = .ok emptyMotd :=
  stat_ok_iff.mpr ⟨rfl, ["motd"], arrive_motd⟩

theorem perform_update_twoNames : ∃ s',
    perform ((motdOf "toor").update {}) ⟨twoNames, []⟩ = (.ok (), s') ∧ s'.machine = twoNames := by
  obtain ⟨gap, hgap, -⟩ := ownerDifference_twoNames
  have hregular : (motdOf "toor").regularFile twoNames = .ok emptyMotd := by
    unfold regularFile
    rw [show (motdOf "toor").path = "/motd" from rfl, stat_twoNames]
    rfl
  have hgiven : twoNames.chown (motdOf "toor").path 0 0 = .ok twoNames :=
    chown_ok_iff.mpr ⟨rfl, ["motd"], emptyMotd, arrive_motd, rfl⟩
  have hids : (motdOf "toor").ownerIds twoNames = .ok (0, 0) := rfl
  have hmode : (motdOf "toor").modeDifference emptyMotd = none := rfl
  have hcontent : (motdOf "toor").contentDifference {} twoNames = .ok none := rfl
  rw [update_eq]
  unfold mendMode mendOwner giveAway noteContent progress take
  simp only [perform_bind, perform_observe, hregular, hmode, hgap, hids, hcontent, perform_say,
    perform_change, hgiven, perform_pure, Option.isSome_none, Option.isSome_some, Bool.false_eq_true,
    if_true, if_false]
  exact ⟨_, rfl, rfl⟩

/-- **A second name does not settle, nor does a file that is hidden.**  The file of a user with two
    names has the numbers of both, and is found to have another owner than the second, also after it
    was given to it.  A file that a fault hides is given away each time it is brought to its state,
    though the names of its owner are those of its numbers. -/
theorem second_name_does_not_settle :
    (twoNames.accounts.NamesOnce ∧ Named twoNames.accounts emptyMotd ∧
      twoNames.accounts.userId "toor" = .ok emptyMotd.uid ∧
      twoNames.accounts.groupId "root" = .ok emptyMotd.gid ∧
      ownerChanged twoNames.accounts emptyMotd "toor" "root" = .ok true) ∧
    (∃ s' st, perform ((motdOf "toor").update {}) ⟨twoNames, []⟩ = (.ok (), s') ∧
      (motdOf "toor").evaluate {} s'.machine = .ok st ∧ "owner" ∈ st.differences.map (·.field)) ∧
    ∃ s₁ s₂ st, perform ((motdOf "root").create {}) ⟨hidden, []⟩ = (.ok (), s₁) ∧
      perform ((motdOf "root").reconcile {}) s₁ = (.ok st, s₂) ∧
      ¬ Avoids .chown ((motdOf "root").reconcile {}) s₁ := by
  refine ⟨⟨⟨by decide, by decide⟩, ⟨"root", "root", rfl⟩, rfl, rfl, rfl⟩, ?_, ?_⟩
  · obtain ⟨s', hdone, hmachine⟩ := perform_update_twoNames
    obtain ⟨gap, hgap, hfield⟩ := ownerDifference_twoNames
    have heval := evaluate_of_owner (r := motdOf "toor") rfl stat_twoNames rfl hgap {}
    rw [← hmachine] at heval
    refine ⟨s', _, hdone, heval, List.mem_map.mpr ⟨gap, ?_, hfield⟩⟩
    simp [State.ofPresent]
  · obtain ⟨s₁, hdone, hmachine⟩ := made_hidden.perform (o := {}) (s := ⟨hidden, []⟩) rfl
    have hgone : (motdOf "root").SeemsGone s₁.machine := by
      rw [hmachine]
      exact ⟨.noEntry, rfl, Or.inl rfl⟩
    have hmade : (motdOf "root").Made s₁.machine hidden := by
      rw [hmachine]
      exact made_hidden
    obtain ⟨s₂, hagain⟩ := reconcile_of_seemsGone (o := {}) hgone rfl rfl hmade
    exact ⟨s₁, s₂, _, hdone, hagain, not_avoids_of_seemsGone hgone rfl rfl hagain⟩

end Converge.FileResource
