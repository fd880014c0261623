/-
  Converge.Proofs.Removal
  ───────────────────────
  **WHEN WHAT SHOULD BE ABSENT IS REMOVED.**

  Where no fault meets a call, a path that leads to a file has an entry that can be removed, however
  the path goes there: through links, up and down, from the working directory.  But a file that should
  be absent is compared before it is removed, with attributes that its removal has no use for.  So it
  is removed exactly if its owner and group have names, the declared ones have numbers, and a declared
  source can be read; if not, it stays.

  Main results:
    * `remove_of_stat` — a file that is there can be removed;
    * `comparable_iff_resolvable` — what a comparison of a file without faults depends on;
    * `removed_iff_resolvable` — when a file that should be absent is removed.
-/
import Converge.Proofs.Comparison
import Converge.Proofs.NormalForm
import Converge.Proofs.Recovery

namespace Converge.Machine

/-! ## §1. Disks with directories above everything. -/

/-- The root is a directory, and everything else lies in one. -/
structure Disk.Sound (d : Disk) : Prop where
  root : ∀ n, d.node? [] = some n → n.isDirectory = true
  parent : ∀ place name n, d.node? (place ++ [name]) = some n →
    ∃ up, d.node? place = some up ∧ up.isDirectory = true

/-- What lies above a node is a directory; above the root lies the root. -/
theorem Disk.Sound.above {d : Disk} (h : d.Sound) {place : Place} {n up : Node}
    (hn : d.node? place = some n) (hup : d.node? place.dropLast = some up) :
    up.isDirectory = true := by
  rcases List.eq_nil_or_concat place with rfl | ⟨front, name, rfl⟩
  · exact h.root up hup
  · rw [List.concat_eq_append] at hn hup
    rw [List.dropLast_concat] at hup
    obtain ⟨up', hup', hdir⟩ := h.parent front name n hn
    rw [hup] at hup'
    cases hup'
    exact hdir

/-- A node is put where a name is free in a directory. -/
theorem Disk.Sound.set {d : Disk} (h : d.Sound) {place : Place} {name : String} {up : Node}
    (hup : d.node? place = some up) (hdir : up.isDirectory = true)
    (hfree : d.node? (place ++ [name]) = none) (node : Node) :
    (d.set (place ++ [name]) node).Sound where
  root n hn := by
    rw [Disk.node?_set_of_ne d (by simp)] at hn
    exact h.root n hn
  parent above last n hn := by
    by_cases hat : above ++ [last] = place ++ [name]
    · obtain ⟨rfl, -⟩ := List.append_inj' hat rfl
      exact ⟨up, by rw [Disk.node?_set_of_ne d (by simp), hup], hdir⟩
    · rw [Disk.node?_set_of_ne d hat] at hn
      obtain ⟨up', hup', hdir'⟩ := h.parent above last n hn
      have hother : above ≠ place ++ [name] := by
        rintro rfl
        rw [hfree] at hup'
        cases hup'
      exact ⟨up', by rw [Disk.node?_set_of_ne d hother, hup'], hdir'⟩

theorem sound_bare : bare.disk.Sound where
  root n hn := by
    cases hn
    rfl
  parent place name n hn := by simp [bare, Disk.node?, Disk.findIn] at hn

/-! ## §2. Files that can be removed. -/

section Removing

variable {m : Machine} {path : String} {n : Node}

/-- A walk that ends with `.` or `..` does not end at a file, and no more does one that has no end. -/
theorem lastName_of_file {d : Disk} (hd : d.Sound) {b : Nat} {place p : Place} {up : Node}
    {name : String} (hup : d.node? place = some up) (hdir : up.isDirectory = true)
    (h : walk d true b place [name] = .ok (.present p n)) (hfile : n.isFile = true) :
    name ≠ "." ∧ name ≠ ".." ∧ name.utf8ByteSize ≤ maxName ∧
      ∃ entry, d.node? (place ++ [name]) = some entry ∧ entry.isDirectory = false := by
  have hnotdir := Node.isDirectory_of_isFile hfile
  by_cases hlong : maxName < name.utf8ByteSize
  · rw [walk_stop hup hdir (turn_tooLong hlong)] at h
    cases h
  have hshort : name.utf8ByteSize ≤ maxName := Nat.le_of_not_lt hlong
  by_cases hdot : name = "."
  · subst hdot
    rw [walk_dot hup hdir] at h
    cases h
    rw [hdir] at hnotdir
    cases hnotdir
  by_cases hdots : name = ".."
  · subst hdots
    have hturn : turn d true b place ".." true = .go b place.dropLast [] := rfl
    rw [walk_go hup hdir hturn] at h
    -- above a directory that was walked to there is a directory
    cases habove : d.node? place.dropLast with
    | none =>
      rw [List.append_nil, walk_missing habove] at h
      cases h
    | some above =>
      rw [List.append_nil, walk_arrived habove] at h
      cases h
      rw [hd.above hup habove] at hnotdir
      cases hnotdir
  refine ⟨hdot, hdots, hshort, ?_⟩
  cases hentry : d.node? (place ++ [name]) with
  | none =>
    rw [walk_stop hup hdir (turn_free hshort hdot hdots hentry)] at h
    cases h
  | some entry =>
    refine ⟨entry, rfl, ?_⟩
    cases hkind : entry.isDirectory with
    | false => rfl
    | true =>
      -- a walk to a directory ends there
      have hlink : entry.isLink = false := by
        rw [← Bool.not_eq_true]
        intro hlink
        rw [Node.isDirectory_of_isLink hlink] at hkind
        cases hkind
      have hturn := (turn_at hshort hdot hdots hentry b true true).2 hlink
      rw [walk_go hup hdir hturn, List.append_nil, walk_arrived hentry] at h
      cases h
      rw [hkind] at hnotdir
      cases hnotdir

/-- A path to a file ends with a name, not with a slash. -/
theorem name_of_file (hd : m.disk.Sound) (hne : path ≠ "") {place : Place}
    (ha : m.arrive path = .ok (.present place n)) (hfile : n.isFile = true) :
    endsWithSlash path = false ∧ namesOf path ≠ [] := by
  have hnotdir := Node.isDirectory_of_isFile hfile
  unfold arrive at ha
  have hnames : namesOf path ≠ [] := by
    intro hnone
    -- without names the path is the root
    have habs : isAbsolute path = true := by
      rw [← Bool.not_eq_false]
      exact fun hrel => namesOf_ne_nil path hne hrel hnone
    have hroot : steps path = [] := by simp [steps, hnone]
    unfold start at ha
    rw [hroot, habs, if_pos rfl] at ha
    have hthere := (walk_ok m.disk true _ _ _ _ ha).1 place n rfl
    cases hn : m.disk.node? [] with
    | none =>
      rw [walk_missing hn] at ha
      cases ha
    | some root =>
      rw [walk_arrived hn] at ha
      cases ha
      rw [hd.root n hn] at hnotdir
      cases hnotdir
  refine ⟨?_, hnames⟩
  cases hslash : endsWithSlash path with
  | false => rfl
  | true =>
    -- a slash at the end asks for a directory
    have hsteps : steps path = namesOf path ++ ["."] := by simp [steps, hslash, hnames]
    rw [hsteps] at ha
    rcases walk_append m.disk linkBudget (m.start path) (namesOf path) with
      ⟨e, he⟩ | ⟨b, p, up, hup, hdir, hgo⟩
    · rw [he true ["."] (by simp)] at ha
      cases ha
    · rw [hgo true ["."] (by simp), walk_dot hup hdir] at ha
      cases ha
      rw [hdir] at hnotdir
      cases hnotdir

/-- **Where no fault meets a call, a file that has a status can be removed.** -/
theorem remove_of_stat (hcalm : m.faults = []) (hd : m.disk.Sound) (hstat : m.stat path = .ok n)
    (hfile : n.isFile = true) : ∃ m', m.remove path = .ok m' := by
  obtain ⟨hcheck, place, ha⟩ := stat_ok_iff.mp hstat
  have hfit := fit_of_precheck hcheck
  obtain ⟨hslash, hnames⟩ := name_of_file hd hfit.nonempty ha hfile
  obtain ⟨name, hlast⟩ := Option.isSome_iff_exists.mp (List.getLast?_isSome.mpr hnames)
  -- the walk to the file is a walk to a directory, and the last name from there
  unfold arrive at ha
  rw [steps_of_noSlash hslash, namesOf_eq hlast] at ha
  rcases walk_append m.disk linkBudget (m.start path) (namesOf path).dropLast with
    ⟨e, he⟩ | ⟨b, p, up, hup, hdir, hgo⟩
  · rw [he true [name] (by simp)] at ha
    cases ha
  rw [hgo true [name] (by simp)] at ha
  obtain ⟨hdot, hdots, hshort, entry, hentry, hnotdir⟩ := lastName_of_file hd hup hdir ha hfile
  have hparent : m.parentOf path = .ok p := by
    unfold parentOf walkFrom
    rw [hgo true ["."] (by simp), walk_dot hup hdir]
    rfl
  exact ⟨_, remove_of_entry (precheck_of_calm hcalm hfit .remove) hparent hlast hdot hdots hshort hentry
    hnotdir hslash⟩

end Removing

end Converge.Machine

namespace Converge.FileResource

open Converge.Machine Act

variable {r : FileResource} {o : Options} {m : Machine} {n : Node} {s : Session}

/-! ## §3. What a comparison depends on. -/

/-- All that is declared of a file, and the owners that it has, can be looked up. -/
structure Resolvable (r : FileResource) (o : Options) (m : Machine) (n : Node) : Prop where
  /-- The declared owner and group have numbers. -/
  declared : ∃ ids, r.ownerIds m = .ok ids
  /-- The numbers of the file's owner and group have names. -/
  found : Named m.accounts n
  /-- A source, if one is declared, has a site and can be read. -/
  source : ∃ source?, r.sourcePath o = .ok source? ∧
    ∀ p, source? = some p → ∃ content, m.read p.toString = .ok content

/-- Of two contents that are compared, that of the file itself can be read. -/
theorem contentDifference_ok_iff (hcalm : m.faults = []) (hstat : m.stat r.path = .ok n)
    (hfile : n.isFile = true) : (∃ gap, r.contentDifference o m = .ok gap) ↔
      ∃ source?, r.sourcePath o = .ok source? ∧
        ∀ p, source? = some p → ∃ content, m.read p.toString = .ok content := by
  obtain ⟨content, hread⟩ : ∃ content, m.read (Path.ofString r.path).toString = .ok content := by
    unfold Node.isFile at hfile
    cases hkind : n.kind with
    | file content => exact ⟨content, read_of_stat hcalm hstat hkind⟩
    | _ => simp [hkind] at hfile
  unfold contentDifference
  cases hsource : r.sourcePath o with
  | error e => simp [bind, Except.bind]
  | ok source? =>
    cases source? with
    | none => simp [bind, Except.bind, pure, Except.pure]
    | some p =>
      -- the source is read before the file
      unfold Checksum.contentChanged Checksum.ofFile
      rw [hread]
      cases hp : m.read p.toString with
      | error e => simp [bind, Except.bind, Except.map, hp]
      | ok text =>
        simp only [bind, Except.bind, Except.map, pure, Except.pure, mapError_ok, Except.ok.injEq,
          exists_eq_left', Option.some.injEq, forall_eq', hp, exists_eq', iff_true]
        split <;> exact ⟨_, rfl⟩

/-- **Without faults a file that is there can be compared exactly if all about it can be looked up.** -/
theorem comparable_iff_resolvable (hcalm : m.faults = []) (hstat : m.stat r.path = .ok n)
    (hfile : n.isFile = true) : r.Comparable o m ↔ r.Resolvable o m n := by
  constructor
  · intro h
    obtain ⟨n', hstat', -, hnamed⟩ := h.file
    rw [hstat] at hstat'
    cases hstat'
    exact ⟨h.known, hnamed, (contentDifference_ok_iff hcalm hstat hfile).mp h.content⟩
  · intro h
    exact ⟨⟨n, hstat, hfile, h.found⟩, h.declared,
      (contentDifference_ok_iff hcalm hstat hfile).mpr h.source⟩

/-! ## §4. Bringing a file to absence. -/

/-- **When a file that should be absent is removed**, on a machine where no fault meets a call: exactly
    if all about it can be looked up, which its removal has no use for.  If not, nothing is done. -/
theorem removed_iff_resolvable (hcalm : s.machine.faults = []) (hd : s.machine.disk.Sound)
    (hw : r.want = .absent) (hdry : o.dryRun = false) (hstat : s.machine.stat r.path = .ok n)
    (hfile : n.isFile = true) :
    (r.Resolvable o s.machine n ↔
      ∃ st s', perform (r.reconcile o) s = (.ok st, s') ∧ st.current = .absent ∧
        st.inSync = true ∧ ∃ e, s'.machine.stat r.path = .error e ∧ meansAbsent e = true) ∧
    (¬ r.Resolvable o s.machine n → ∃ f, perform (r.reconcile o) s = (.error f, s)) := by
  rw [← comparable_iff_resolvable hcalm hstat hfile]
  refine ⟨⟨?removed, ?compared⟩, ?refused⟩
  case removed =>
    intro hcomparable
    obtain ⟨st, heval⟩ := hcomparable.evaluate
    obtain ⟨m', hremove⟩ := remove_of_stat hcalm hd hstat hfile
    obtain ⟨s', h, rfl⟩ := reconcile_removes hw hdry hcalm hstat heval hremove
    refine ⟨_, s', h, rfl, rfl, ?_⟩
    have hcheck := precheck_of_calm (settled_of_remove hw hcalm hremove).calm
      (fit_of_precheck (remove_ok hremove).1) .stat
    exact stat_of_nowhere hcheck (arrive_without hremove)
  case compared =>
    intro hremoved
    obtain ⟨st, s', h, -⟩ := hremoved
    -- bringing the file to its state starts with a comparison
    rw [reconcile_eq] at h
    obtain ⟨st₀, s₁, hfirst, -⟩ := perform_bind_ok h
    rw [perform_observe, Prod.mk.injEq] at hfirst
    exact (evaluate_ok_iff hstat hfile).mp ⟨st₀, hfirst.1⟩
  case refused =>
    intro hnot
    cases heval : r.evaluate o s.machine with
    | ok st => exact absurd ((evaluate_ok_iff hstat hfile).mp ⟨st, heval⟩) hnot
    | error f =>
      refine ⟨f, ?_⟩
      rw [reconcile_eq, perform_bind, perform_observe, heval]

/-- A message of the day that should be absent. -/
def unwanted : FileResource where
  title := "/motd"
  path := "/motd"
  owner := "root"
  group := "root"
  want := .absent

/-- A bare machine with an empty message of the day that a user owns. -/
def owned (uid : Int) : Machine := bare.put ["motd"] ⟨.file [], 0o644, uid, 0⟩

theorem sound_owned (uid : Int) : (owned uid).disk.Sound :=
  sound_bare.set (show bare.disk.node? [] = some .plainDirectory from rfl) rfl rfl _

theorem stat_owned (uid : Int) : (owned uid).stat "/motd" = .ok ⟨.file [], 0o644, uid, 0⟩ := by
  have hfree : bare.arrive "/motd" = .ok (.vacant [] "motd") :=
    arrive_bare (by decide) (by decide) (by decide) (by decide) (by decide)
  exact stat_ok_iff.mpr ⟨rfl, _, arrive_put_vacant hfree rfl⟩

/-- A message of the day that the superuser owns is removed. -/
theorem unwanted_removed :
    unwanted.Resolvable {} (owned 0) ⟨.file [], 0o644, 0, 0⟩ ∧
    ∃ st s', perform (unwanted.reconcile {}) ⟨owned 0, []⟩ = (.ok st, s') ∧ st.current = .absent ∧
      st.inSync = true ∧ ∃ e, s'.machine.stat unwanted.path = .error e ∧ meansAbsent e = true := by
  have hresolvable : unwanted.Resolvable {} (owned 0) ⟨.file [], 0o644, 0, 0⟩ :=
    ⟨⟨(0, 0), rfl⟩, ⟨"root", "root", rfl⟩, none, rfl, fun p hp => by cases hp⟩
  refine ⟨hresolvable, ?_⟩
  exact (removed_iff_resolvable (r := unwanted) (o := {}) (s := ⟨owned 0, []⟩) rfl (sound_owned 0)
    rfl rfl (stat_owned 0) rfl).1.mp hresolvable

/-- A message of the day whose owner has no name stays, though it should be absent. -/
theorem unwanted_stays :
    build (owned 4242) "/motd" (.mapping [(.text "state", .text "absent")]) = .ok unwanted ∧
    (owned 4242).faults = [] ∧ (owned 4242).stat unwanted.path = .ok ⟨.file [], 0o644, 4242, 0⟩ ∧
    perform (unwanted.reconcile {}) ⟨owned 4242, []⟩ =
      (.error (.resource "file[/motd]" (.identity (.namelessUser 4242))), ⟨owned 4242, []⟩) := by
  refine ⟨rfl, rfl, stat_owned 4242, ?_⟩
  have heval : unwanted.evaluate {} (owned 4242) =
      .error (.resource "file[/motd]" (.identity (.namelessUser 4242))) := by
    unfold evaluate
    rw [show unwanted.path = "/motd" from rfl, stat_owned 4242]
    rfl
  rw [reconcile_eq, perform_bind, perform_observe, heval]

end Converge.FileResource
