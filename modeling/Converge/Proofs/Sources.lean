/-
  Converge.Proofs.Sources
  ───────────────────────
  **WHERE A SOURCE IS, AND WHAT IS READ FOR IT.**

  A source is declared by a text and looked for below the data directory of the site.  Nothing checks
  the text: an absolute one replaces the directory, and one with too many `..` leads out of it.  That a
  path is read is said by faults of readings: readings that fail elsewhere make no difference, and one
  that fails at the source does.

  Main results:
    * `collapse_below` — where nothing climbs, `..` can be applied and the path stays below;
    * `readsOnly_evaluate`, `readsOnly_update` — comparing and mending read the file and the source;
    * `source_within_iff` — where the source is, and when that is below the data directory.
-/
import Mathlib.Data.List.Infix
import Mathlib.Data.List.Induction
import Converge.Proofs.Avoidance
import Converge.Proofs.Exactness

namespace Converge.Path

/-! ## §1. Below a directory. -/

/-- At some point of the names there have been more `..` than other names. -/
def Climbs (names : List String) : Prop :=
  ∃ before, before <+: names ∧ before.countP (· ≠ "..") < before.count ".."

/-- Where names climb is at one of their beginnings. -/
theorem climbs_iff_inits {names : List String} :
    Climbs names ↔ ∃ before ∈ names.inits, before.countP (· ≠ "..") < before.count ".." := by
  simp only [Climbs, List.mem_inits]

instance (names : List String) : Decidable (Climbs names) := decidable_of_iff' _ climbs_iff_inits

/-- The path that a directory and a text written behind it name. -/
def below (directory : Path) (written : String) : Path :=
  ⟨directory.anchor, directory.names ++ (ofString written).names⟩

/-- The path starts with the directory, and what follows does not climb above it. -/
def Within (directory p : Path) : Prop :=
  p.anchor = directory.anchor ∧ ∃ rest, p.names = directory.names ++ rest ∧ ¬ Climbs rest

variable {directory : Path} {written : String}

theorem within_below_iff :
    directory.Within (directory.below written) ↔ ¬ Climbs (ofString written).names := by
  constructor
  · intro hwithin
    obtain ⟨-, rest, hnames, hstays⟩ := hwithin
    rwa [List.append_cancel_left hnames]
  · intro hstays
    exact ⟨rfl, _, rfl, hstays⟩

/-- Applies a name to those kept so far, of which the last comes first. -/
def advance (kept : List String) (name : String) : List String :=
  if name = "." then kept else if name = ".." then kept.drop 1 else name :: kept

theorem collapse_eq (names : List String) : Site.collapse names = (names.foldl advance []).reverse := rfl

/-- Names that do not climb leave what was kept before them alone, and put as many names in front of it
    as there are more of them than of `..`. -/
theorem foldl_advance {rest : List String} (hdots : "." ∉ rest) (hstays : ¬ Climbs rest)
    (kept : List String) :
    ∃ more, rest.foldl advance kept = more ++ kept ∧
      more.length + rest.count ".." = rest.countP (· ≠ "..") := by
  induction rest using List.reverseRecOn with
  | nil => exact ⟨[], rfl, rfl⟩
  | append_singleton rest name ih =>
    have hbefore : ¬ Climbs rest := by
      intro hclimbs
      obtain ⟨before, hprefix, hmore⟩ := hclimbs
      exact hstays ⟨before, hprefix.trans (List.prefix_append rest [name]), hmore⟩
    rw [List.mem_append, not_or, List.mem_singleton] at hdots
    obtain ⟨more, hfold, hcount⟩ := ih hdots.1 hbefore
    have hname : name ≠ "." := fun heq => hdots.2 heq.symm
    rw [List.foldl_append, hfold, List.foldl_cons, List.foldl_nil, advance, if_neg hname]
    by_cases hup : name = ".."
    · -- a step up, and the names before it leave one to take away
      subst hup
      have hups : (rest ++ [".."]).count ".." = rest.count ".." + 1 := by simp
      have hothers : (rest ++ [".."]).countP (· ≠ "..") = rest.countP (· ≠ "..") := by simp
      have hleft : ¬ (rest ++ [".."]).countP (· ≠ "..") < (rest ++ [".."]).count ".." :=
        fun hmore => hstays ⟨_, List.prefix_rfl, hmore⟩
      cases more with
      | nil =>
        rw [List.length_nil] at hcount
        omega
      | cons last more =>
        rw [List.length_cons] at hcount
        exact ⟨more, by simp, by omega⟩
    · have hups : (rest ++ [name]).count ".." = rest.count ".." := by simp [hup]
      have hothers : (rest ++ [name]).countP (· ≠ "..") = rest.countP (· ≠ "..") + 1 := by simp [hup]
      refine ⟨name :: more, by rw [if_neg hup]; rfl, ?_⟩
      rw [List.length_cons]
      omega

/-- **What is written behind a directory and does not climb stays below it** when every `..` is applied to the
    name before it. -/
theorem collapse_below (directory : Path) (hstays : ¬ Climbs (ofString written).names) :
    Site.collapse directory.names <+: Site.collapse (directory.below written).names := by
  obtain ⟨more, hfold, -⟩ := foldl_advance (dot_not_mem_ofString written) hstays
    (directory.names.foldl advance [])
  rw [collapse_eq, collapse_eq, below, List.foldl_append, hfold, List.reverse_append]
  exact List.prefix_append _ _

end Converge.Path

namespace Converge.FileResource

open Converge.Machine Act

variable {r : FileResource} {o : Options} {p : Path} {fs : List Fault} {m : Machine} {s : Session}

/-! ## §2. Readings elsewhere. -/

/-- However readings at other paths are made to fail, the action ends alike, says the same and leaves
    the same disk: it reads at the given paths alone. -/
def ReadsOnly {α : Type} (paths : List String) (a : Act α) : Prop :=
  ∀ fs : List Fault, (∀ f ∈ fs, f.call = .read ∧ f.path ∉ paths) →
    Twin (fun m m' => m' = m.failing fs) a

/-- A call that goes alike where more calls fail. -/
theorem calls_failing {call : Machine → Except CallFailure Machine}
    (h : ∀ m : Machine, call (m.failing fs) = (call m).map (·.failing fs)) (m m' : Machine)
    (hm : m' = m.failing fs) : Twin.Calls (fun m m' => m' = m.failing fs) (call m) (call m') := by
  rw [hm, h]
  cases call m with
  | ok m₁ => exact rfl
  | error e => exact rfl

/-- **No action depends on faults that none of its calls meets.** -/
theorem covers_failing (hreads : ∀ f ∈ fs, f.call = .read) (hunseen : r.Unseen o fs) :
    r.Covers o fun _ => Twin fun m m' => m' = m.failing fs where
  toBinds := Twin.handles.toBinds
  ids := .observe fun m m' hm => by rw [hm]; rfl
  node := .observe fun m m' hm => by rw [hm, hunseen.regularFile]
  owner _ := .observe fun m m' hm => by rw [hm]; rfl
  content := .observe fun m m' hm => by rw [hm, hunseen.contentDifference]
  there := .observe fun m m' hm => by rw [hm, isThere_failing hunseen.lstat]
  state := .observe fun m m' hm => by rw [hm, hunseen.evaluate]
  step hstep := by
    refine Twin.enact (calls_failing fun m => ?_)
    cases hstep with
    | opening => exact create_failing hreads (by decide) _
    | owner uid gid => exact chown_failing hreads (by decide) _ _ _
    | mode => exact chmod_failing hreads (by decide) _ _
    | removal => exact remove_failing hreads (by decide) _
  word _ := .say _

/-- The paths that are read for a resource whose source is at a path. -/
def readPaths (r : FileResource) (p : Path) : List String :=
  [(Path.ofString r.path).toString, p.toString]

theorem unseen_of_reads (hp : r.sourcePath o = .ok (some p))
    (hfs : ∀ f ∈ fs, f.call = .read ∧ f.path ∉ r.readPaths p) : r.Unseen o fs where
  stat := misses_other (fun f hf => (hfs f hf).1) (by decide) _
  lstat := misses_other (fun f hf => (hfs f hf).1) (by decide) _
  file := by
    intro f hf _ heq
    exact (hfs f hf).2 (by simp [readPaths, heq])
  source := by
    intro p' hp' f hf _ heq
    rw [hp, Except.ok.injEq, Option.some.injEq] at hp'
    subst hp'
    exact (hfs f hf).2 (by simp [readPaths, heq])

theorem readsOnly_covers (hp : r.sourcePath o = .ok (some p)) {fs : List Fault}
    (hfs : ∀ f ∈ fs, f.call = .read ∧ f.path ∉ r.readPaths p) :
    r.Covers o fun _ => Twin fun m m' => m' = m.failing fs :=
  covers_failing (fun f hf => (hfs f hf).1) (unseen_of_reads hp hfs)

/-- **A comparison reads the file and the source and nothing else.** -/
theorem readsOnly_evaluate (hp : r.sourcePath o = .ok (some p)) :
    ReadsOnly (r.readPaths p) (observe (r.evaluate o)) :=
  fun _ hfs => (readsOnly_covers hp hfs).state

/-- **Mending reads the file and the source and nothing else.** -/
theorem readsOnly_update (hp : r.sourcePath o = .ok (some p)) :
    ReadsOnly (r.readPaths p) (r.update o) :=
  fun _ hfs => (readsOnly_covers hp hfs).update

/-! ## §3. The reading of the source. -/

/-- Readings at the path fail with the error. -/
def unreadable (p : Path) (e : Errno) : List Fault := [⟨.read, p.toString, e⟩]

/-- What is reported where the source at the path cannot be read. -/
def unreadFailure (r : FileResource) (p : Path) (e : Errno) : Failure :=
  .resource r.id (.checksum e p.toString)

theorem misses_unreadable (p : Path) (e : Errno) {c : Call} (hc : c ≠ .read) (path : String) :
    Misses (unreadable p e) c path := by
  refine misses_other ?_ hc path
  intro f hf
  rw [List.mem_singleton.mp hf]

/-- Contents are not compared where the source cannot be read. -/
theorem contentDifference_unreadable (hp : r.sourcePath o = .ok (some p)) (e : Errno) :
    r.contentDifference o (m.failing (unreadable p e)) = .error (r.unreadFailure p e) := by
  have hfault : (m.failing (unreadable p e)).faultFor? .read p.toString = some e := by
    simp [faultFor?, Machine.failing, under, unreadable]
  have hread : (m.failing (unreadable p e)).read p.toString = .error (.system e p.toString) := by
    unfold Machine.read existing
    rw [precheck_of_fault hfault]
    rfl
  unfold contentDifference Checksum.contentChanged Checksum.ofFile
  -- the source is read first, so the file need not be looked at
  simp only [hp, hread, bind, Except.bind, Except.map]
  rfl

/-- **A comparison that finds a file needs the source.** -/
theorem evaluate_unreadable (hp : r.sourcePath o = .ok (some p)) {st : State}
    (heval : r.evaluate o m = .ok st) (hpresent : st.current = .present) (e : Errno) :
    r.evaluate o (m.failing (unreadable p e)) = .error (r.unreadFailure p e) := by
  rcases evaluate_ok heval with
    ⟨e', -, -, rfl⟩ | ⟨n, owner, content, hstat, hfile, howner, -, -⟩
  · cases hpresent
  · have hstat' : (m.failing (unreadable p e)).stat r.path = .ok n := by
      rw [stat_failing (misses_unreadable p e (by decide) _), hstat]
    have howner' : r.ownerDifference n (m.failing (unreadable p e)) = .ok owner := howner
    rw [evaluate_of_ownerDifference hstat' hfile howner', contentDifference_unreadable hp]
    rfl

/-- What mending does before it comes to the content. -/
def mendAttributes (r : FileResource) (o : Options) : Act Unit := do
  let node ← observe r.regularFile
  r.mendMode o node
  r.mendOwner o node

theorem update_eq_attributes (r : FileResource) (o : Options) :
    r.update o = (do r.mendAttributes o; r.noteContent o) := by
  rw [update_eq]
  unfold mendAttributes
  simp only [bind_assoc]

/-- Mode and owner are mended alike however readings are made to fail. -/
theorem twin_mendAttributes (hreads : ∀ f ∈ fs, f.call = .read) :
    Twin (fun m m' => m' = m.failing fs) (r.mendAttributes o) := by
  unfold mendAttributes
  refine .bind (.observe fun m m' hm => ?node) fun node => .bind ?mode fun _ => ?owner
  case node =>
    unfold regularFile
    rw [hm, stat_failing (misses_other hreads (by decide) _)]
  case mode =>
    rw [mendMode_eq]
    split
    · exact .enact (calls_failing fun m => chmod_failing hreads (by decide) _ _)
    · exact .pure ()
  case owner =>
    refine .bind (.observe fun m m' hm => by rw [hm]; rfl) fun owner => ?_
    split
    · rw [giveAway_eq]
      refine .bind (.observe fun m m' hm => by rw [hm]; rfl) fun ids => ?_
      exact .enact (calls_failing fun m => chown_failing hreads (by decide) _ _ _)
    · exact .pure ()

/-- **Mending that ends well has read the source.** -/
theorem update_unreadable (hp : r.sourcePath o = .ok (some p)) {s' : Session}
    (hok : perform (r.update o) s = (.ok (), s')) (e : Errno) :
    (perform (r.update o) { s with machine := s.machine.failing (unreadable p e) }).1 =
      .error (r.unreadFailure p e) := by
  rw [update_eq_attributes] at hok ⊢
  obtain ⟨u, s₁, hmended, -⟩ := perform_bind_ok hok
  have hreads : ∀ f ∈ unreadable p e, f.call = .read := by simp [unreadable]
  -- up to the content both go alike
  obtain ⟨x, s₂, s₂', said, hs₂, hs₂', hmachine, -⟩ := twin_mendAttributes (o := o) hreads s
    { s with machine := s.machine.failing (unreadable p e) } rfl
  rw [hmended, Prod.mk.injEq] at hs₂
  obtain ⟨rfl, rfl⟩ := hs₂
  rw [perform_bind, hs₂']
  unfold noteContent
  simp only [perform_bind, perform_observe, hmachine, contentDifference_unreadable hp]

/-! ## §4. Where a source is. -/

/-- What is read where the source of a resource is at a path. -/
structure ReadsSource (r : FileResource) (o : Options) (p : Path) : Prop where
  evaluate_only : ReadsOnly (r.readPaths p) (observe (r.evaluate o))
  update_only : ReadsOnly (r.readPaths p) (r.update o)
  evaluate_needs : ∀ (m : Machine) (st : State) (e : Errno), r.evaluate o m = .ok st →
    st.current = .present →
    r.evaluate o (m.failing (unreadable p e)) = .error (r.unreadFailure p e)
  update_needs : ∀ (s s' : Session) (e : Errno), perform (r.update o) s = (.ok (), s') →
    (perform (r.update o) { s with machine := s.machine.failing (unreadable p e) }).1 =
      .error (r.unreadFailure p e)

theorem readsSource (hp : r.sourcePath o = .ok (some p)) : r.ReadsSource o p where
  evaluate_only := readsOnly_evaluate hp
  update_only := readsOnly_update hp
  evaluate_needs _ _ e heval hpresent := evaluate_unreadable hp heval hpresent e
  update_needs _ _ e hok := update_unreadable hp hok e

/-- A directory joined with a written path: below it, unless the path is absolute. -/
theorem join_ofString (directory : Path) (written : String) :
    directory.join (Path.ofString written) =
      if isAbsolute written then Path.ofString written else directory.below written := by
  have hanchor : (Path.ofString written).anchor = .relative ↔ isAbsolute written = false :=
    anchorOf_relative_iff written
  unfold Path.join
  cases habsolute : isAbsolute written with
  | false => exact if_pos (hanchor.mpr habsolute)
  | true => exact if_neg fun hrelative => by simp [hanchor.mp hrelative] at habsolute

theorem dataDirectory_names_ne_nil (site : Path) : (Site.dataDirectory site).names ≠ [] := by
  unfold Site.dataDirectory
  rw [Path.join_relative]
  simp

/-- An absolute path is not the one that is written behind a data directory. -/
theorem ofString_ne_below (site : Path) (written : String) :
    Path.ofString written ≠ (Site.dataDirectory site).below written := by
  intro heq
  have hnames : (Path.ofString written).names =
      (Site.dataDirectory site).names ++ (Path.ofString written).names :=
    congrArg Path.names heq
  exact dataDirectory_names_ne_nil site (List.self_eq_append_left.mp hnames)

/-- **Where a source is, and when that is below the data directory.**  The source of a resource is the path
    written behind the data directory, unless the text is absolute, and then it is that path.  So it is the
    path behind the directory and stays within it exactly if the text is not absolute and does not climb,
    and then it is still below the directory when every `..` has been applied.  Comparing and mending read
    the file and this path, wherever it is, and nothing else. -/
theorem source_within_iff {source : String} {site : Path} (hsource : r.source = some source)
    (hne : source ≠ "") (hsite : o.site = some site) :
    ∃ p, r.sourcePath o = .ok (some p) ∧
      p = (if isAbsolute source then Path.ofString source
        else (Site.dataDirectory site).below source) ∧
      (p = (Site.dataDirectory site).below source ∧ (Site.dataDirectory site).Within p ↔
        isAbsolute source = false ∧ ¬ Path.Climbs (Path.ofString source).names) ∧
      (isAbsolute source = false → ¬ Path.Climbs (Path.ofString source).names →
        Site.collapse (Site.dataDirectory site).names <+: Site.collapse p.names) ∧
      r.ReadsSource o p := by
  have hp : r.sourcePath o = .ok (some ((Site.dataDirectory site).join (Path.ofString source))) := by
    unfold sourcePath
    rw [hsource]
    simp only [hne, hsite, if_false]
  refine ⟨_, hp, join_ofString _ _, ?within, ?applied, readsSource hp⟩
  case within =>
    rw [join_ofString]
    cases isAbsolute source with
    | false => simp [Path.within_below_iff]
    | true => simp [ofString_ne_below]
  case applied =>
    intro hrelative hstays
    rw [join_ofString, hrelative]
    exact Path.collapse_below _ hstays

/-- A message of the day with a source. -/
def motdFrom (source : String) : FileResource :=
  ⟨"/motd", "/motd", 0o644, "root", "root", some source, .present⟩

/-- A relative source whose step up leads back is within the data directory. -/
theorem motd_within :
    ("etc/../motd" ≠ "" ∧ isAbsolute "etc/../motd" = false ∧
      ¬ Path.Climbs (Path.ofString "etc/../motd").names) ∧
    (motdFrom "etc/../motd").sourcePath onSite =
      .ok (some ⟨.root, ["site", "data", "etc", "..", "motd"]⟩) ∧
    Site.collapse ["site", "data"] <+: Site.collapse ["site", "data", "etc", "..", "motd"] := by
  have hrelative : isAbsolute "etc/../motd" = false := by decide
  have hstays : ¬ Path.Climbs (Path.ofString "etc/../motd").names := by decide
  obtain ⟨p, hp, hvalue, -, happlied, -⟩ := source_within_iff (r := motdFrom "etc/../motd")
    (o := onSite) rfl (by decide) rfl
  have hplace : p = ⟨.root, ["site", "data", "etc", "..", "motd"]⟩ := by
    rw [hvalue]
    rfl
  rw [hplace] at hp happlied
  exact ⟨⟨by decide, hrelative, hstays⟩, hp, happlied hrelative hstays⟩

/-- **An absolute source leaves the site.**  It is the path itself, which is not below the data directory,
    and a comparison reads it there. -/
theorem absoluteSource_outside :
    hasNul "/etc/motd" = false ∧
    build stocked "/motd" (.mapping [(.text "source", .text "/etc/motd")]) =
      .ok (motdFrom "/etc/motd") ∧
    (motdFrom "/etc/motd").sourcePath onSite = .ok (some ⟨.root, ["etc", "motd"]⟩) ∧
    ¬ (Site.dataDirectory (Path.ofString "/site")).Within ⟨.root, ["etc", "motd"]⟩ ∧
    (motdFrom "/etc/motd").evaluate onSite (stocked.failing [⟨.read, "/etc/motd", .noEntry⟩]) =
      .error (.resource "file[/motd]" (.checksum .noEntry "/etc/motd")) := by
  have hp : (motdFrom "/etc/motd").sourcePath onSite = .ok (some ⟨.root, ["etc", "motd"]⟩) := rfl
  refine ⟨by decide, rfl, hp, ?outside, ?read⟩
  case outside =>
    intro hwithin
    obtain ⟨-, rest, hnames, -⟩ := hwithin
    have hnames : ["etc", "motd"] = ["site", "data"] ++ rest := hnames
    simp at hnames
  case read =>
    have hfaults : [⟨.read, "/etc/motd", .noEntry⟩] =
        unreadable ⟨.root, ["etc", "motd"]⟩ .noEntry := by decide
    have hstat := stat_failing (m := stocked) (misses_unreadable ⟨.root, ["etc", "motd"]⟩ .noEntry
      (c := .stat) (by decide) "/motd")
    rw [hfaults, evaluate_of_ownerDifference (hstat.trans stat_stocked) rfl rfl,
      contentDifference_unreadable hp]
    rfl

end Converge.FileResource
