/-
  Converge.Proofs.Locality
  ────────────────────────
  **WHAT A RESOURCE DEPENDS ON.**

  Where there are no links, a call on an absolute path reads the nodes along the path's names and
  writes the last one.  So two machines that agree there, whatever they hold elsewhere, answer the
  call alike and agree afterwards, and a whole step ends alike and says the same on both.

  Main results:
    * `Alike`, `Matches` — machines and disks that agree along a path;
    * `alike_create`, `alike_chmod`, `alike_chown`, `alike_remove` — calls on such machines;
    * `twin_runOne` — a resource on such machines;
    * `Footprint.elsewhere` — what a resource leaves alone.
-/
import Converge.Proofs.Anatomy
import Converge.Proofs.Calm
import Converge.Proofs.Footprint

namespace Converge.Machine

open Act

/-! ## §1. Disks that agree along names. -/

/-- The disks hold the same nodes along the names, and no links. -/
structure Matches (names : List String) (d d' : Disk) : Prop where
  same : ∀ q, q <+: names → d'.node? q = d.node? q
  clear : ∀ q n, q <+: names → d.node? q = some n → n.isLink = false

namespace Matches

variable {names : List String} {d d' : Disk}

/-- A node that is no link is put on both disks. -/
theorem set (h : Matches names d d') (q : Place) {node : Node} (hnode : node.isLink = false) :
    Matches names (d.set q node) (d'.set q node) where
  same p hp := by
    by_cases hpq : p = q
    · rw [hpq, Disk.node?_set_self, Disk.node?_set_self]
    · rw [Disk.node?_set_of_ne d' hpq, Disk.node?_set_of_ne d hpq, h.same p hp]
  clear p n hp hn := by
    by_cases hpq : p = q
    · rw [hpq, Disk.node?_set_self] at hn
      cases hn
      exact hnode
    · rw [Disk.node?_set_of_ne d hpq] at hn
      exact h.clear p n hp hn

/-- A node is taken from both disks. -/
theorem erase (h : Matches names d d') {q : Place} (hq : q ≠ []) :
    Matches names (d.erase q) (d'.erase q) where
  same p hp := by
    by_cases hpq : p = q
    · rw [hpq, Disk.node?_erase_self d' hq, Disk.node?_erase_self d hq]
    · rw [Disk.node?_erase_of_ne d' hpq, Disk.node?_erase_of_ne d hpq, h.same p hp]
  clear p n hp hn := by
    by_cases hpq : p = q
    · rw [hpq, Disk.node?_erase_self d hq] at hn
      cases hn
    · rw [Disk.node?_erase_of_ne d hpq] at hn
      exact h.clear p n hp hn

end Matches

/-- An absolute path without `.` and `..`. -/
structure Plain (path : String) : Prop where
  /-- It starts at the root. -/
  absolute : isAbsolute path = true
  /-- No name stands for the directory itself. -/
  noDot : "." ∉ namesOf path
  /-- No name stands for the directory above. -/
  noUp : ".." ∉ namesOf path

section Plain

variable {path : String}

/-- Names of a plain path lead down one by one. -/
theorem below_names (h : Plain path) {names : List String} (hsub : names ⊆ namesOf path) :
    below [] names = names := by
  unfold below
  rw [List.nil_append, List.filter_eq_self]
  intro name hname
  have hdot : name ≠ "." := by
    intro heq
    subst heq
    exact h.noDot (hsub hname)
  simpa using hdot

/-- A final `.` leads nowhere. -/
theorem below_names_dot (h : Plain path) {names : List String} (hsub : names ⊆ namesOf path) :
    below [] (names ++ ["."]) = names := by
  have hnames := below_names h hsub
  unfold below at hnames ⊢
  rw [List.filter_append, ← List.append_assoc, hnames]
  simp

theorem below_steps (h : Plain path) : below [] (steps path) = namesOf path := by
  unfold steps
  dsimp only
  split
  · exact below_names_dot h (List.Subset.refl _)
  · exact below_names h (List.Subset.refl _)

theorem mem_steps (h : Plain path) : ∀ name ∈ steps path, name ≠ ".." := by
  intro name hname heq
  subst heq
  unfold steps at hname
  dsimp only at hname
  split at hname
  · rcases List.mem_append.mp hname with hname | hname
    · exact h.noUp hname
    · simp at hname
  · exact h.noUp hname

theorem start_of_plain (h : Plain path) (m : Machine) : m.start path = [] := by
  unfold start
  rw [h.absolute]
  rfl

/-- The way along a plain path is clear. -/
theorem Matches.clearWay {d d' : Disk} (h : Matches (namesOf path) d d') (hpath : Plain path) :
    ClearWay d [] (steps path) :=
  ⟨mem_steps hpath, fun p n hp => h.clear p n (by rw [← below_steps hpath]; exact hp)⟩

/-- So is the way to its parent. -/
theorem Matches.clearParent {d d' : Disk} (h : Matches (namesOf path) d d') (hpath : Plain path) :
    ClearWay d [] ((namesOf path).dropLast ++ ["."]) ∧
      ∀ p, p <+: below [] ((namesOf path).dropLast ++ ["."]) → p <+: namesOf path := by
  have hpre : ∀ p, p <+: below [] ((namesOf path).dropLast ++ ["."]) → p <+: namesOf path := by
    intro p hp
    rw [below_names_dot hpath (List.dropLast_subset _)] at hp
    exact hp.trans (List.dropLast_prefix _)
  refine ⟨⟨?_, fun p n hp => h.clear p n (hpre p hp)⟩, hpre⟩
  intro name hname heq
  subst heq
  rcases List.mem_append.mp hname with hname | hname
  · exact hpath.noUp (List.dropLast_subset _ hname)
  · simp at hname

/-- On a clear way a walk along the path arrives at the place that the path spells. -/
theorem place_of_walk {m : Machine} (hclear : ClearWay m.disk [] (steps path)) (hpath : Plain path)
    {f : Bool} {found : Found}
    (h : walk m.disk f linkBudget (m.start path) (steps path) = .ok found) :
    (∀ p n, found = .present p n → p = namesOf path) ∧
    (∀ p name, found = .vacant p name → p ++ [name] = namesOf path) := by
  rw [start_of_plain hpath] at h
  have hplace := walk_place f linkBudget _ _ _ hclear h
  rw [below_steps hpath] at hplace
  exact hplace

end Plain

/-! ## §2. Machines that agree along a path. -/

/-- The machines differ in their disks alone, and these agree along the path. -/
def Alike (path : String) (m m' : Machine) : Prop :=
  ∃ d, m' = { m with disk := d } ∧ Matches (namesOf path) m.disk d

section Alike

variable {path : String} {m m' : Machine}

theorem Alike.refl (h : ∀ q n, q <+: namesOf path → m.disk.node? q = some n → n.isLink = false) :
    Alike path m m :=
  ⟨m.disk, rfl, fun _ _ => rfl, h⟩

theorem Alike.put (h : Alike path m m') (q : Place) {node : Node} (hnode : node.isLink = false) :
    Alike path (m.put q node) (m'.put q node) := by
  obtain ⟨d, rfl, hd⟩ := h
  exact ⟨d.set q node, rfl, hd.set q hnode⟩

theorem Alike.without (h : Alike path m m') {q : Place} (hq : q ≠ []) :
    Alike path (m.without q) (m'.without q) := by
  obtain ⟨d, rfl, hd⟩ := h
  exact ⟨d.erase q, rfl, hd.erase hq⟩

theorem Alike.precheck (h : Alike path m m') (call : Call) (p : String) :
    m'.precheck call p = m.precheck call p := by
  obtain ⟨d, rfl, -⟩ := h
  rfl

theorem Alike.accounts (h : Alike path m m') : m'.accounts = m.accounts := by
  obtain ⟨d, rfl, -⟩ := h
  rfl

theorem Alike.newFile (h : Alike path m m') : m'.newFile = m.newFile := by
  obtain ⟨d, rfl, -⟩ := h
  rfl

/-- A walk along the path ends alike. -/
theorem Alike.walk_eq (h : Alike path m m') (hpath : Plain path) (f : Bool) :
    walk m'.disk f linkBudget (m'.start path) (steps path) =
      walk m.disk f linkBudget (m.start path) (steps path) := by
  obtain ⟨d, rfl, hd⟩ := h
  rw [start_of_plain hpath, start_of_plain hpath]
  refine walk_congr f linkBudget (steps path) [] (hd.clearWay hpath) ?_
  intro p hp
  rw [below_steps hpath] at hp
  exact hd.same p hp

theorem Alike.walkFrom (h : Alike path m m') (hpath : Plain path) (f : Bool) :
    m'.walkFrom path f (steps path) = m.walkFrom path f (steps path) := by
  unfold Machine.walkFrom
  rw [h.walk_eq hpath f]

theorem Alike.arrive (h : Alike path m m') (hpath : Plain path) : m'.arrive path = m.arrive path :=
  h.walk_eq hpath true

theorem Alike.parentOf (h : Alike path m m') (hpath : Plain path) :
    m'.parentOf path = m.parentOf path := by
  obtain ⟨d, rfl, hd⟩ := h
  obtain ⟨hclear, hpre⟩ := hd.clearParent hpath
  unfold Machine.parentOf Machine.walkFrom
  rw [start_of_plain hpath, start_of_plain hpath]
  rw [walk_congr true linkBudget _ [] hclear fun p hp => hd.same p (hpre p hp)]

theorem Alike.existing (h : Alike path m m') (hpath : Plain path) (call : Call) (f : Bool) :
    m'.existing call path f = m.existing call path f := by
  unfold Machine.existing
  rw [h.precheck, h.walkFrom hpath]

theorem Alike.stat (h : Alike path m m') (hpath : Plain path) : m'.stat path = m.stat path := by
  unfold Machine.stat
  rw [h.existing hpath]

theorem Alike.isThere (h : Alike path m m') (hpath : Plain path) :
    m'.isThere path = m.isThere path := by
  unfold Machine.isThere Machine.lstat
  rw [h.existing hpath]

/-! ## §3. Calls on machines that agree. -/

/-- The node that the path leads to is no link. -/
theorem Alike.notLink (h : Alike path m m') (hpath : Plain path) {place : Place} {node : Node}
    (ha : m.arrive path = .ok (.present place node)) : node.isLink = false := by
  obtain ⟨d, rfl, hd⟩ := h
  have hnode := node?_of_arrive ha
  have hplace := (place_of_walk (hd.clearWay hpath) hpath ha).1 place node rfl
  subst hplace
  exact hd.clear _ node (List.prefix_refl _) hnode

/-- A change of attributes. -/
theorem alike_attributes (h : Alike path m m') (hpath : Plain path) (call : Call)
    {g : Node → Node} (hg : ∀ n, (g n).kind = n.kind) :
    Twin.Calls (Alike path) ((m.existing call path true).map fun r => m.put r.1 (g r.2))
      ((m'.existing call path true).map fun r => m'.put r.1 (g r.2)) := by
  rw [h.existing hpath]
  cases he : m.existing call path true with
  | error e => exact rfl
  | ok r =>
    obtain ⟨place, node⟩ := r
    have hnode := h.notLink hpath (existing_ok_iff.mp he).2
    refine h.put place ?_
    unfold Node.isLink at hnode ⊢
    rw [hg node]
    exact hnode

theorem alike_chmod (h : Alike path m m') (hpath : Plain path) (mode : Nat) :
    Twin.Calls (Alike path) (m.chmod path mode) (m'.chmod path mode) := by
  have hcalls := alike_attributes h hpath .chmod (g := fun n => { n with mode := mode % 0o10000 })
    fun n => rfl
  unfold chmod
  cases hm : m.existing .chmod path true <;> cases hm' : m'.existing .chmod path true <;>
    rw [hm, hm'] at hcalls <;> exact hcalls

theorem alike_chown (h : Alike path m m') (hpath : Plain path) (uid gid : Int) :
    Twin.Calls (Alike path) (m.chown path uid gid) (m'.chown path uid gid) := by
  have hcalls := alike_attributes h hpath .chown (g := fun n => n.giveTo uid gid) fun n => rfl
  unfold chown
  cases hm : m.existing .chown path true <;> cases hm' : m'.existing .chown path true <;>
    rw [hm, hm'] at hcalls <;> exact hcalls

theorem alike_create (h : Alike path m m') (hpath : Plain path) :
    Twin.Calls (Alike path) (m.create path) (m'.create path) := by
  cases hc : m.precheck .create path with
  | error e =>
    unfold create
    rw [h.precheck, hc]
    exact rfl
  | ok u =>
    cases hs : endsWithSlash path with
    | true =>
      -- nothing is opened; only the parent is looked for
      unfold create
      rw [h.precheck, hc, hs, h.parentOf hpath]
      cases m.parentOf path <;> exact rfl
    | false =>
      rw [create_eq hc hs, create_eq ((h.precheck .create path).trans hc) hs, h.arrive hpath,
        h.newFile]
      match m.arrive path with
      | .error e => exact rfl
      | .ok (.vacant parent name) => exact h.put _ rfl
      | .ok (.present place node) =>
        obtain ⟨kind, mode, uid, gid⟩ := node
        cases kind <;> first | exact h | exact rfl

/-- The parent's place and the last name make the place of the path. -/
theorem Alike.place_eq (h : Alike path m m') (hpath : Plain path) {parent : Place} {name : String}
    (hparent : m.parentOf path = .ok parent) (hlast : (namesOf path).getLast? = some name) :
    parent ++ [name] = namesOf path := by
  obtain ⟨d, rfl, hd⟩ := h
  obtain ⟨hclear, -⟩ := hd.clearParent hpath
  obtain ⟨n, hw⟩ := parentOf_ok hparent
  rw [start_of_plain hpath] at hw
  have hplace := (walk_place true linkBudget _ _ _ hclear hw).1 parent n rfl
  rw [hplace, below_names_dot hpath (List.dropLast_subset _), ← namesOf_eq hlast]

theorem alike_remove (h : Alike path m m') (hpath : Plain path) :
    Twin.Calls (Alike path) (m.remove path) (m'.remove path) := by
  unfold remove
  rw [h.precheck, h.parentOf hpath]
  cases m.precheck .remove path with
  | error e => exact rfl
  | ok u =>
    simp only [bind, Except.bind]
    cases hlast : (namesOf path).getLast? with
    | none => exact rfl
    | some name =>
      cases hparent : m.parentOf path with
      | error e => exact rfl
      | ok parent =>
        -- the entry is looked up at the end of the path, where the disks agree
        have hsame : m'.disk.node? (parent ++ [name]) = m.disk.node? (parent ++ [name]) := by
          rw [h.place_eq hpath hparent hlast]
          obtain ⟨d, rfl, hd⟩ := h
          exact hd.same _ (List.prefix_refl _)
        dsimp only
        rw [hsame]
        by_cases hdots : name = "." ∨ name = ".."
        · rw [if_pos hdots, if_pos hdots]
          exact rfl
        rw [if_neg hdots, if_neg hdots]
        by_cases hlong : maxName < name.utf8ByteSize
        · rw [if_pos hlong, if_pos hlong]
          exact rfl
        rw [if_neg hlong, if_neg hlong]
        cases m.disk.node? (parent ++ [name]) with
        | none => exact rfl
        | some node =>
          dsimp only
          by_cases hdir : node.isDirectory = true
          · rw [if_pos hdir, if_pos hdir]
            exact rfl
          rw [if_neg hdir, if_neg hdir]
          by_cases hslash : endsWithSlash path = true
          · rw [if_pos hslash, if_pos hslash]
            exact rfl
          rw [if_neg hslash, if_neg hslash]
          exact h.without (show parent ++ [name] ≠ [] by simp)

end Alike

end Converge.Machine

namespace Converge.FileResource

open Converge.Machine Act

/-! ## §4. Resources on machines that agree. -/

section Twins

variable {r : FileResource} {o : Options} {m m' : Machine}

/-- Without a source a comparison looks at the path and the accounts alone. -/
theorem alike_evaluate (h : Alike r.path m m') (hpath : Plain r.path)
    (hsource : r.source.getD "" = "") : r.evaluate o m' = r.evaluate o m := by
  unfold evaluate
  rw [h.stat hpath]
  cases m.stat r.path with
  | error e => rfl
  | ok n =>
    dsimp only
    rw [r.ownerDifference_congr n h.accounts, contentDifference_none hsource, contentDifference_none hsource]

theorem alike_regularFile (h : Alike r.path m m') (hpath : Plain r.path) :
    r.regularFile m' = r.regularFile m := by
  unfold regularFile
  rw [h.stat hpath]

/-- On machines that agree along its path a resource sees the same, and its calls go alike. -/
theorem covers_alike (hpath : Plain r.path) (hsource : r.source.getD "" = "") :
    r.Covers o fun _ => Twin (Alike r.path) where
  toBinds := Twin.handles.toBinds
  ids := Twin.observe fun _ _ h => r.ownerIds_congr h.accounts
  node := Twin.observe fun _ _ h => alike_regularFile h hpath
  owner n := Twin.observe fun _ _ h => r.ownerDifference_congr n h.accounts
  content := Twin.observe fun m m' _ => by
    rw [contentDifference_none hsource, contentDifference_none hsource]
  there := Twin.observe fun _ _ h => by rw [h.isThere hpath]
  state := Twin.observe fun _ _ h => alike_evaluate h hpath hsource
  step hcall := by
    refine Twin.enact ?_
    intro m m' h
    cases hcall with
    | opening => exact alike_create h hpath
    | owner uid gid => exact alike_chown h hpath uid gid
    | mode => exact alike_chmod h hpath _
    | removal => exact alike_remove h hpath
  word _ := Twin.say _

/-- **On machines that agree along its path a resource has the same outcome**, says the same, and
    leaves machines that agree there. -/
theorem twin_runOne (hpath : Plain r.path) (hsource : r.source.getD "" = "") :
    Twin (Alike r.path) (Runner.runOne .apply o r) :=
  Twin.handles.runOne (covers_alike hpath hsource).reconcile

end Twins

/-! ## §5. What a resource leaves alone. -/

/-- Without links on its way a resource touches the place that its path spells. -/
theorem Footprint.elsewhere {r : FileResource} {m m' : Machine} (h : Footprint r m m')
    (hpath : Plain r.path)
    (hclear : ∀ q n, q <+: namesOf r.path → m.disk.node? q = some n → n.isLink = false)
    {q : Place} (hq : q ≠ namesOf r.path) : m'.disk.node? q = m.disk.node? q := by
  have hself : Matches (namesOf r.path) m.disk m.disk := ⟨fun _ _ => rfl, hclear⟩
  have hway : ClearWay m.disk [] (steps r.path) := hself.clearWay hpath
  cases h with
  | untouched => rfl
  | @appeared parent name node want free =>
    rw [(place_of_walk hway hpath free).2 parent name rfl]
    exact Disk.node?_set_of_ne _ hq _
  | @adjusted place before after want there =>
    rw [(place_of_walk hway hpath there).1 place before rfl]
    exact Disk.node?_set_of_ne _ hq _
  | @disappeared place entry want named =>
    rw [(place_of_walk hway hpath named).1 place entry rfl]
    exact Disk.node?_erase_of_ne _ hq

/-- A resource changes nothing of a machine but its disk. -/
theorem Footprint.onDisk {r : FileResource} {m m' : Machine} (h : Footprint r m m') :
    ∃ d, m' = { m with disk := d } := by
  cases h with
  | untouched => exact ⟨m.disk, rfl⟩
  | appeared => exact ⟨_, rfl⟩
  | adjusted => exact ⟨_, rfl⟩
  | disappeared => exact ⟨_, rfl⟩

end Converge.FileResource
