/-
  Converge.Proofs.Exactness
  ─────────────────────────
  **A COMPARISON SAYS WHAT IS THERE, NO MORE AND NO LESS.**

  A state that a comparison gives is told from the node that the path leads to: nothing is there, or a
  regular file, of which each attribute is listed exactly if it is not as declared.  The content of the
  file is read through the normal form of its path, which leads to the same node.  So a state calls for
  one action or for none, and a file is in sync exactly if it has all that is declared of it.

  Main results:
    * `ownerChanged_ok_iff` — what a comparison of owners has looked up;
    * `content_of_read` — what is read through the normal form is the content of the file;
    * `evaluate_exact` — everything that a state says, against the machine.
-/
import Converge.Proofs.Built
import Converge.Proofs.NormalForm

namespace Converge.Machine

/-! ## §1. Reading the file that was seen. -/

/-- What is read through the normal form of a path is the content of the file that the path leads
    to, whatever faults there are elsewhere. -/
theorem content_of_read {m : Machine} {path : String} {n : Node} (hstat : m.stat path = .ok n)
    (hfile : n.isFile = true) {content : List UInt8}
    (hread : m.read (Path.ofString path).toString = .ok content) : n.kind = .file content := by
  obtain ⟨hcheck, place, ha⟩ := stat_ok_iff.mp hstat
  -- the normal form arrives where the path does, since something is there
  have hnormal := arrive_normal (fit_of_precheck hcheck).nonempty ha
  rw [read_eq, hnormal] at hread
  cases hfirst : m.precheck .read (Path.ofString path).toString with
  | error e =>
    rw [hfirst] at hread
    cases hread
  | ok u =>
    rw [hfirst] at hread
    -- what is read depends on the kind of the node alone
    have hkind : contentOf (Path.ofString path).toString n.kind = .ok content := hread
    unfold Node.isFile at hfile
    cases hcase : n.kind <;> simp only [hcase, Bool.false_eq_true] at hfile
    rw [hcase] at hkind
    cases hkind
    rfl

end Converge.Machine

namespace Converge.FileResource

open Converge.Machine

variable {r : FileResource} {o : Options} {m : Machine} {n : Node} {s : State}

/-! ## §2. Attributes that are not as declared. -/

/-- What is declared of a file and compared. -/
inductive Attribute where
  | mode
  | owner
  | content
deriving DecidableEq, Repr

namespace Attribute

/-- What an attribute is called in a difference. -/
def name : Attribute → String
  | .mode => "mode"
  | .owner => "owner"
  | .content => "content"

/-- The names of all attributes, in the order in which they are compared. -/
def names : List String := [name .mode, name .owner, name .content]

theorem name_injective {a b : Attribute} (h : a.name = b.name) : a = b := by
  cases a <;> cases b <;> first | rfl | exact absurd h (by decide)

end Attribute

/-- A source is declared, and this is what it holds. -/
def SourceHolds (r : FileResource) (o : Options) (m : Machine) (text : List UInt8) : Prop :=
  ∃ source site, r.source = some source ∧ source ≠ "" ∧ o.site = some site ∧
    m.read ((Site.dataDirectory site).join (Path.ofString source)).toString = .ok text

/-- An attribute of a node is not as declared. -/
def Deviates (r : FileResource) (o : Options) (m : Machine) (n : Node) : Attribute → Prop
  | .mode => (n.permissions : Int) ≠ r.mode
  | .owner => ∃ user group, m.accounts.userName n.uid = .ok user ∧
      m.accounts.groupName n.gid = .ok group ∧ (user ≠ r.owner ∨ group ≠ r.group)
  | .content => ∃ text content, r.SourceHolds o m text ∧ n.kind = .file content ∧
      Checksum.ofContent text ≠ Checksum.ofContent content

/-- A comparison finds a difference in an attribute, or none. -/
structure Finds (gap : Option Difference) (a : Attribute) (deviates : Prop) : Prop where
  field : ∀ d, gap = some d → d.field = a.name
  found : gap.isSome = true ↔ deviates

namespace Finds

variable {gap : Option Difference} {a : Attribute} {deviates : Prop}

theorem none (h : ¬ deviates) : Finds none a deviates where
  field _ hd := by cases hd
  found := by simp [h]

theorem some {d : Difference} (hfield : d.field = a.name) (h : deviates) :
    Finds (some d) a deviates where
  field d' hd := by
    cases hd
    exact hfield
  found := by simp [h]

theorem sublist (h : Finds gap a deviates) : (gap.toList.map (·.field)).Sublist [a.name] := by
  cases hgap : gap with
  | none => simp
  | some d => simp [h.field d hgap]

/-- The attribute is listed exactly if it deviates, and no other one is. -/
theorem mem_iff (h : Finds gap a deviates) (b : Attribute) :
    b.name ∈ gap.toList.map (·.field) ↔ b = a ∧ deviates := by
  rw [← h.found]
  cases hgap : gap with
  | none => simp
  | some d =>
    simp only [Option.toList_some, List.map_cons, List.map_nil, List.mem_singleton, h.field d hgap,
      Option.isSome_some, and_true]
    exact ⟨Attribute.name_injective, congrArg Attribute.name⟩

end Finds

/-! ## §3. The three comparisons. -/

theorem finds_mode : Finds (r.modeDifference n) .mode (r.Deviates o m n .mode) := by
  unfold modeDifference
  by_cases h : (n.permissions : Int) = r.mode
  · rw [if_neg (by simp [permissionsChanged, h])]
    exact .none fun hd => hd h
  · rw [if_pos (by simp [permissionsChanged, h])]
    exact .some rfl h

/-- **A comparison of owners** has found numbers for the given names and names for the numbers of the
    node, and compares names. -/
theorem ownerChanged_ok_iff {a : Accounts} {owner group : String} {changed : Bool} :
    ownerChanged a n owner group = .ok changed ↔
      ∃ uid gid user actual, a.userId owner = .ok uid ∧ a.groupId group = .ok gid ∧
        a.userName n.uid = .ok user ∧ a.groupName n.gid = .ok actual ∧
        (changed = true ↔ user ≠ owner ∨ actual ≠ group) := by
  unfold ownerChanged fileOwner
  cases a.userId owner with
  | error e => simp [bind, Except.bind]
  | ok uid =>
    cases a.groupId group with
    | error e => simp [bind, Except.bind]
    | ok gid =>
      cases a.userName n.uid with
      | error e => simp [bind, Except.bind]
      | ok user =>
        cases a.groupName n.gid with
        | error e => simp [bind, Except.bind]
        | ok actual =>
          cases changed <;>
            simp [bind, Except.bind, pure, Except.pure]

theorem finds_owner {gap : Option Difference} (h : r.ownerDifference n m = .ok gap) :
    Finds gap .owner (r.Deviates o m n .owner) := by
  unfold ownerDifference at h
  cases hchanged : ownerChanged m.accounts n r.owner r.group with
  | error e => simp [hchanged, bind, Except.bind] at h
  | ok changed =>
    obtain ⟨uid, gid, user, group, -, -, huser, hgroup, hiff⟩ := ownerChanged_ok_iff.mp hchanged
    rw [hchanged, fileOwner_of_names huser hgroup] at h
    cases changed with
    | false =>
      cases h
      refine .none ?_
      intro hd
      -- a number has one name, so the names are the ones that were compared
      obtain ⟨user', group', huser', hgroup', hdiffers⟩ := hd
      rw [huser] at huser'
      rw [hgroup] at hgroup'
      cases huser'
      cases hgroup'
      exact absurd (hiff.mpr hdiffers) (by simp)
    | true =>
      cases h
      exact .some rfl ⟨user, group, huser, hgroup, hiff.mp rfl⟩

theorem sourceHolds_iff {text : List UInt8} : r.SourceHolds o m text ↔
    ∃ p, r.sourcePath o = .ok (some p) ∧ m.read p.toString = .ok text := by
  unfold SourceHolds sourcePath
  cases r.source with
  | none => simp
  | some source =>
    by_cases hempty : source = ""
    · simp [hempty]
    · cases o.site <;> simp [hempty]

theorem SourceHolds.unique {text text' : List UInt8} (h : r.SourceHolds o m text)
    (h' : r.SourceHolds o m text') : text' = text := by
  obtain ⟨p, hp, htext⟩ := sourceHolds_iff.mp h
  obtain ⟨p', hp', htext'⟩ := sourceHolds_iff.mp h'
  rw [hp] at hp'
  cases hp'
  rw [htext] at htext'
  cases htext'
  rfl

theorem source_of_sourcePath_none (h : r.sourcePath o = .ok none) : r.source.getD "" = "" := by
  unfold sourcePath at h
  cases hs : r.source with
  | none => rfl
  | some source =>
    rw [hs] at h
    by_cases hempty : source = ""
    · exact hempty
    · cases hsite : o.site <;> simp [hempty, hsite] at h

/-- **A comparison of contents** has found no source declared, or has read the source and the file and
    compares digests. -/
theorem contentDifference_ok (hstat : m.stat r.path = .ok n) (hfile : n.isFile = true)
    {gap : Option Difference} (h : r.contentDifference o m = .ok gap) :
    (r.source.getD "" = "" ∧ gap = none) ∨
    ∃ text content, r.SourceHolds o m text ∧ n.kind = .file content ∧
      Finds gap .content (Checksum.ofContent text ≠ Checksum.ofContent content) := by
  unfold contentDifference at h
  cases hsource : r.sourcePath o with
  | error e => simp [hsource, bind, Except.bind] at h
  | ok source? =>
    rw [hsource] at h
    cases source? with
    | none =>
      -- nothing is compared, and nothing is declared to be compared with
      cases h
      exact Or.inl ⟨source_of_sourcePath_none hsource, rfl⟩
    | some p =>
      unfold Checksum.contentChanged Checksum.ofFile at h
      cases htext : m.read p.toString with
      | error e => simp [htext, bind, Except.bind, Except.map] at h
      | ok text =>
        cases hcontent : m.read (Path.ofString r.path).toString with
        | error e => simp [htext, hcontent, bind, Except.bind, Except.map] at h
        | ok content =>
          -- both readings went well: what is left compares digests
          refine Or.inr ⟨text, content, sourceHolds_iff.mpr ⟨p, hsource, htext⟩,
            content_of_read hstat hfile hcontent, ?_⟩
          simp only [htext, hcontent, bind, Except.bind, Except.map, pure, Except.pure,
            mapError_ok] at h
          by_cases hsame : Checksum.ofContent text = Checksum.ofContent content
          · rw [if_neg (by simp [hsame])] at h
            cases h
            exact .none fun hd => hd hsame
          · rw [if_pos (by simp [hsame])] at h
            cases h
            exact .some rfl hsame

theorem finds_content (hstat : m.stat r.path = .ok n) (hfile : n.isFile = true)
    {gap : Option Difference} (h : r.contentDifference o m = .ok gap) :
    Finds gap .content (r.Deviates o m n .content) := by
  rcases contentDifference_ok hstat hfile h with ⟨hnone, rfl⟩ | ⟨text, content, hholds, hkind, hfinds⟩
  · refine .none ?_
    intro hd
    obtain ⟨text, content, ⟨source, site, hdeclared, hgiven, -⟩, -⟩ := hd
    rw [hdeclared] at hnone
    exact hgiven hnone
  · refine ⟨hfinds.field, hfinds.found.trans ⟨?_, ?_⟩⟩
    · exact fun hdiffers => ⟨text, content, hholds, hkind, hdiffers⟩
    · -- source and file hold one content each
      intro hd
      obtain ⟨text', content', hholds', hkind', hdiffers⟩ := hd
      rw [hkind] at hkind'
      cases hkind'
      cases hholds.unique hholds'
      exact hdiffers

/-! ## §4. The list of differences. -/

/-- The differences are those of the attributes that deviate, each once and in order. -/
structure Lists (r : FileResource) (o : Options) (m : Machine) (n : Node) (ds : List Difference) :
    Prop where
  ordered : (ds.map (·.field)).Sublist Attribute.names
  listed : ∀ a : Attribute, a.name ∈ ds.map (·.field) ↔ r.Deviates o m n a

theorem lists_of_comparisons (hstat : m.stat r.path = .ok n) (hfile : n.isFile = true)
    {owner content : Option Difference} (howner : r.ownerDifference n m = .ok owner)
    (hcontent : r.contentDifference o m = .ok content) :
    r.Lists o m n ((r.modeDifference n).toList ++ owner.toList ++ content.toList) := by
  have hmode : Finds _ _ (r.Deviates o m n .mode) := finds_mode
  have howner : Finds _ _ (r.Deviates o m n .owner) := finds_owner howner
  have hcontent := finds_content hstat hfile hcontent
  constructor
  · -- each comparison adds its own name or nothing
    rw [List.map_append, List.map_append]
    exact (hmode.sublist.append howner.sublist).append hcontent.sublist
  · intro a
    rw [List.map_append, List.map_append, List.mem_append, List.mem_append, hmode.mem_iff,
      howner.mem_iff, hcontent.mem_iff]
    cases a <;> simp

/-- A state that says present lists the differences of a file that is there. -/
theorem lists_of_evaluate (heval : r.evaluate o m = .ok s) (hpresent : s.current = .present) :
    ∃ n, m.stat r.path = .ok n ∧ n.isFile = true ∧ r.Lists o m n s.differences := by
  rcases evaluate_ok heval with
    ⟨e, -, -, rfl⟩ | ⟨n, owner, content, hstat, hfile, howner, hcontent, rfl⟩
  · cases hpresent
  · exact ⟨n, hstat, hfile, lists_of_comparisons hstat hfile howner hcontent⟩

theorem Lists.nil_iff {ds : List Difference} (h : r.Lists o m n ds) :
    ds = [] ↔ ∀ a, ¬ r.Deviates o m n a := by
  constructor
  · intro hnil a hd
    have hmem := (h.listed a).mpr hd
    rw [hnil] at hmem
    cases hmem
  · intro hnone
    cases hds : ds with
    | nil => rfl
    | cons d rest =>
      -- every difference that is listed names an attribute
      have hmem : d.field ∈ ds.map (·.field) := by simp [hds]
      obtain ⟨a, ha⟩ : ∃ a : Attribute, a.name = d.field := by
        have hname := h.ordered.subset hmem
        simp only [Attribute.names, List.mem_cons, List.not_mem_nil, or_false] at hname
        rcases hname with hname | hname | hname <;> exact ⟨_, hname.symm⟩
      rw [← ha, h.listed] at hmem
      exact absurd hmem (hnone a)

theorem Lists.inSync_iff {ds : List Difference} (h : r.Lists o m n ds) (want : Existence) :
    (State.ofPresent want ds).inSync = true ∧ want = .present ↔
      want = .present ∧ ∀ a, ¬ r.Deviates o m n a := by
  rw [← h.nil_iff]
  unfold State.ofPresent State.inSync
  cases want <;> simp

/-! ## §5. States. -/

/-- A node has everything that is declared of the file. -/
structure AsDeclared (r : FileResource) (o : Options) (m : Machine) (n : Node) : Prop where
  file : n.isFile = true
  mode : (n.permissions : Int) = r.mode
  owner : m.accounts.userName n.uid = .ok r.owner
  group : m.accounts.groupName n.gid = .ok r.group
  /-- If a source is declared, the file has the digest of what it holds. -/
  content : ∀ source, r.source = some source → source ≠ "" → ∃ text content,
    r.SourceHolds o m text ∧ n.kind = .file content ∧
      Checksum.ofContent text = Checksum.ofContent content

/-- A file that could be compared is as declared exactly if no attribute deviates. -/
theorem asDeclared_iff (hstat : m.stat r.path = .ok n) (hfile : n.isFile = true)
    {owner content : Option Difference} (howner : r.ownerDifference n m = .ok owner)
    (hcontent : r.contentDifference o m = .ok content) :
    r.AsDeclared o m n ↔ ∀ a, ¬ r.Deviates o m n a := by
  constructor
  · intro h a hd
    cases a with
    | mode => exact hd h.mode
    | owner =>
      obtain ⟨user, group, huser, hgroup, hdiffers⟩ := hd
      rw [h.owner] at huser
      rw [h.group] at hgroup
      cases huser
      cases hgroup
      simp at hdiffers
    | content =>
      -- the source that deviates is the one that is declared, and it holds one text
      obtain ⟨text, content, hholds, hkind, hdiffers⟩ := hd
      have hsource := hholds
      obtain ⟨source, site, hdeclared, hgiven, -⟩ := hsource
      obtain ⟨text', content', hholds', hkind', hsame⟩ := h.content source hdeclared hgiven
      rw [hkind] at hkind'
      cases hkind'
      cases hholds.unique hholds'
      exact hdiffers hsame
  · intro hnone
    -- the comparisons that were made have seen what is now known not to deviate
    obtain ⟨-, user, group, hnames⟩ := ownerDifference_ok_iff.mp ⟨owner, howner⟩
    obtain ⟨huser, hgroup⟩ := names_of_fileOwner hnames
    have hsame : user = r.owner ∧ group = r.group := by
      refine Decidable.byContradiction fun hne => ?_
      exact hnone .owner ⟨user, group, huser, hgroup, Decidable.not_and_iff_not_or_not.mp hne⟩
    refine ⟨hfile, Decidable.not_not.mp (hnone .mode), hsame.1 ▸ huser, hsame.2 ▸ hgroup, ?_⟩
    · intro source hdeclared hgiven
      rcases contentDifference_ok hstat hfile hcontent with
        ⟨hsource, -⟩ | ⟨text, content, hholds, hkind, -⟩
      · rw [hdeclared] at hsource
        exact absurd hsource hgiven
      · refine ⟨text, content, hholds, hkind, ?_⟩
        by_cases hdigest : Checksum.ofContent text = Checksum.ofContent content
        · exact hdigest
        · exact absurd ⟨text, content, hholds, hkind, hdigest⟩ (hnone .content)

/-- **Everything that a state says, against the machine.** -/
structure Exact (r : FileResource) (o : Options) (m : Machine) (s : State) : Prop where
  want : s.want = r.want
  /-- It says that the file is absent exactly if the path leads nowhere. -/
  absent : s.current = .absent ↔ ∃ p, m.stat r.path = .error (.system .noEntry p) ∨
    m.stat r.path = .error (.system .notDirectory p)
  blank : s.current = .absent → s.differences = [] ∧ s.update = false
  /-- Otherwise it says that it is present, and a regular file is there. -/
  present : s.current ≠ .absent → s.current = .present ∧
    ∃ n, m.stat r.path = .ok n ∧ n.isFile = true ∧ r.Lists o m n s.differences
  update : s.update = true ↔ s.differences ≠ []
  /-- It calls for one action, or for none. -/
  action : [s.needsCreate, s.needsDelete, s.needsUpdate, s.inSync].count true = 1
  inSync : s.inSync = true ∧ s.want = .present ↔
    r.want = .present ∧ ∃ n, m.stat r.path = .ok n ∧ r.AsDeclared o m n

/-- A wish that can be declared makes what is found call for one action, or for none. -/
theorem one_action {want : Existence} (hwant : want ≠ .unknown) (ds : List Difference) :
    [(State.ofPresent want ds).needsCreate, (State.ofPresent want ds).needsDelete,
      (State.ofPresent want ds).needsUpdate, (State.ofPresent want ds).inSync].count true = 1 := by
  unfold State.ofPresent State.needsCreate State.needsDelete State.needsUpdate State.inSync
  cases want with
  | unknown => exact absurd rfl hwant
  | absent => rfl
  | present => cases ds <;> rfl

theorem meansAbsent_iff {e : CallFailure} :
    meansAbsent e = true ↔ ∃ p, e = .system .noEntry p ∨ e = .system .notDirectory p := by
  cases e <;> simp [meansAbsent, exists_or]

/-- **A comparison of a resource that was built is exact**: every part of the state that it gives is told
    from what is on the machine, whatever faults there are. -/
theorem evaluate_exact {w : Machine} {title : String} {data : Value}
    (hbuild : build w title data = .ok r) (heval : r.evaluate o m = .ok s) : r.Exact o m s := by
  obtain ⟨-, -, hwant⟩ := build_ok hbuild
  rcases evaluate_ok heval with
    ⟨e, hstat, he, rfl⟩ | ⟨n, owner, content, hstat, hfile, howner, hcontent, rfl⟩
  · constructor
    case want => rfl
    case absent =>
      obtain ⟨p, he⟩ := meansAbsent_iff.mp he
      refine ⟨fun _ => ⟨p, ?_⟩, fun _ => rfl⟩
      rw [hstat, Except.error.injEq, Except.error.injEq]
      exact he
    case blank => exact fun _ => ⟨rfl, rfl⟩
    case present => exact fun hne => absurd rfl hne
    case update => simp [State.ofAbsent]
    case action =>
      unfold State.ofAbsent State.needsCreate State.needsDelete State.needsUpdate State.inSync
      cases hw : r.want with
      | unknown => exact absurd hw hwant
      | absent => rfl
      | present => rfl
    case inSync =>
      constructor
      · intro hsync
        obtain ⟨hsync, hpresent⟩ := hsync
        rw [show r.want = .present from hpresent] at hsync
        cases hsync
      · intro hthere
        obtain ⟨-, n, hn, -⟩ := hthere
        rw [hstat] at hn
        cases hn
  · have hlists := lists_of_comparisons hstat hfile howner hcontent
    constructor
    case want => rfl
    case absent =>
      constructor
      · intro habsent
        cases habsent
      · intro hgone
        obtain ⟨p, hgone⟩ := hgone
        rw [hstat] at hgone
        rcases hgone with hgone | hgone <;> cases hgone
    case blank => exact fun habsent => by cases habsent
    case present => exact fun _ => ⟨rfl, n, hstat, hfile, hlists⟩
    case update =>
      unfold State.ofPresent
      simp only [Bool.not_eq_true', List.isEmpty_eq_false_iff]
    case action => exact one_action hwant _
    case inSync =>
      refine (hlists.inSync_iff r.want).trans (and_congr_right fun _ => ?_)
      rw [← asDeclared_iff hstat hfile howner hcontent]
      constructor
      · exact fun hdeclared => ⟨n, hstat, hdeclared⟩
      · intro hthere
        obtain ⟨n', hstat', hdeclared⟩ := hthere
        rw [hstat] at hstat'
        cases hstat'
        exact hdeclared

/-- A machine with a link to a message of the day, and with a site that has the same message. -/
def stocked : Machine :=
  { bare with disk := ⟨[(["motd"], ⟨.link "etc/motd", 0o777, 0, 0⟩), (["etc"], .plainDirectory),
      (["etc", "motd"], ⟨.file [104, 105], 0o640, 0, 0⟩), (["site"], .plainDirectory),
      (["site", "data"], .plainDirectory),
      (["site", "data", "motd"], ⟨.file [104, 105], 0o644, 0, 0⟩)]⟩ }

/-- The site of that machine. -/
def onSite : Options := { site := some (Path.ofString "/site") }

/-- A private message of the day with a source. -/
def privateMotd : FileResource :=
  ⟨"/motd", "/motd", 0o600, "root", "root", some "motd", .present⟩

/-- The link leads on to the file. -/
theorem stat_stocked : stocked.stat "/motd" = .ok ⟨.file [104, 105], 0o640, 0, 0⟩ := by
  have hroot : stocked.disk.node? [] = some .plainDirectory := rfl
  have hetc : stocked.disk.node? ["etc"] = some .plainDirectory := rfl
  -- a link puts its target in front of what is left of the way, here nothing
  have hlink : turn stocked.disk true linkBudget [] "motd" true = .go 39 [] ["etc", "motd"] := rfl
  have hdown : turn stocked.disk true 39 [] "etc" false = .go 39 ["etc"] [] := rfl
  have hmotd : turn stocked.disk true 39 ["etc"] "motd" true = .go 39 ["etc", "motd"] [] := rfl
  refine stat_ok_iff.mpr ⟨rfl, ["etc", "motd"], ?_⟩
  unfold arrive
  rw [show steps "/motd" = ["motd"] by decide]
  exact (walk_go hroot rfl hlink).trans <| (walk_go hroot rfl hdown).trans <|
    (walk_go hetc rfl hmotd).trans (walk_arrived rfl)

theorem read_stocked : stocked.read "/site/data/motd" = .ok [104, 105] := by
  have hroot : stocked.disk.node? [] = some .plainDirectory := rfl
  have hsite : stocked.disk.node? ["site"] = some .plainDirectory := rfl
  have hdata : stocked.disk.node? ["site", "data"] = some .plainDirectory := rfl
  have hturn : turn stocked.disk true linkBudget [] "site" false = .go linkBudget ["site"] [] := rfl
  have hdown : turn stocked.disk true linkBudget ["site"] "data" false =
      .go linkBudget ["site", "data"] [] := rfl
  have hmotd : turn stocked.disk true linkBudget ["site", "data"] "motd" true =
      .go linkBudget ["site", "data", "motd"] [] := rfl
  have hthere : stocked.arrive "/site/data/motd" =
      .ok (.present ["site", "data", "motd"] ⟨.file [104, 105], 0o644, 0, 0⟩) := by
    unfold arrive
    rw [show steps "/site/data/motd" = ["site", "data", "motd"] by decide]
    exact (walk_go hroot rfl hturn).trans <| (walk_go hsite rfl hdown).trans <|
      (walk_go hdata rfl hmotd).trans (walk_arrived rfl)
  rw [read_eq, hthere]
  rfl

/-- Behind the link the message of the day has the content of its source, but not the declared mode. -/
theorem stocked_exact :
    build stocked "/motd" (.mapping [(.text "mode", .integer 0o600), (.text "source", .text "motd")]) =
      .ok privateMotd ∧
    ∃ s, privateMotd.evaluate onSite stocked = .ok s ∧ s.differences.map (·.field) = ["mode"] ∧
      privateMotd.Exact onSite stocked s := by
  have hbuild : build stocked "/motd"
    (.mapping [(.text "mode", .integer 0o600), (.text "source", .text "motd")]) =
      .ok privateMotd := rfl
  have hcontent : privateMotd.contentDifference onSite stocked = .ok none := by
    have hsource : privateMotd.sourcePath onSite =
      .ok (some ((Site.dataDirectory (Path.ofString "/site")).join (Path.ofString "motd"))) := rfl
    have hdata : ((Site.dataDirectory (Path.ofString "/site")).join
      (Path.ofString "motd")).toString = "/site/data/motd" := by decide
    have hfile : stocked.read (Path.ofString privateMotd.path).toString = .ok [104, 105] :=
      read_of_stat rfl stat_stocked rfl
    unfold contentDifference Checksum.contentChanged Checksum.ofFile
    rw [hfile, hsource]
    -- a content does not differ from itself, whatever its digest is
    simp only [bind, Except.bind, hdata, read_stocked, Except.map, bne_self_eq_false, pure,
      Except.pure, mapError_ok, Bool.false_eq_true, if_false]
  have howner : privateMotd.ownerDifference ⟨.file [104, 105], 0o640, 0, 0⟩ stocked = .ok none := rfl
  have heval := evaluate_of_ownerDifference (o := onSite) stat_stocked rfl howner
  rw [hcontent] at heval
  exact ⟨hbuild, _, heval, rfl, evaluate_exact hbuild heval⟩

end Converge.FileResource
