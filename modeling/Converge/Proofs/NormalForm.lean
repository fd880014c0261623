/-
  Converge.Proofs.NormalForm
  ──────────────────────────
  **THE NORMAL FORM OF A PATH LEADS WHERE THE PATH LEADS.**

  Contents are read through the normal form of a path, everything else through the path as it was
  declared.  The normal form leaves out empty names, `.` and a slash at the end, but no `..`, so
  where the path as declared leads to a node, the normal form leads to the same node: each `.` on the
  way was looked up in a directory, and leaving it out saves that look.  The converse fails, `file/.`
  being no path to a file.

  Main results:
    * `walk_undotted` — names with `.` left out lead where they lead with it;
    * `undotted_steps` — what the normal form of a path leaves out;
    * `arrive_normal`, `read_of_stat` — the normal form leads to the node that the path leads to.
-/
import Converge.Proofs.Calm
import Converge.Proofs.Names
import Converge.Proofs.Retouch

namespace Converge.Machine

/-! ## §1. Walks with `.` left out. -/

/-- The second list is the first with some occurrences of `.` left out. -/
inductive Undotted : List String → List String → Prop where
  | nil : Undotted [] []
  | keep {names names' : List String} (name : String) :
      Undotted names names' → Undotted (name :: names) (name :: names')
  | drop {names names' : List String} : Undotted names names' → Undotted ("." :: names) names'

namespace Undotted

variable {names names' : List String}

theorem ahead (front : List String) (h : Undotted names names') :
    Undotted (front ++ names) (front ++ names') := by
  induction front with
  | nil => exact h
  | cons name rest ih => exact .keep name ih

theorem filter (names : List String) : Undotted names (names.filter (· ≠ ".")) := by
  induction names with
  | nil => exact .nil
  | cons name rest ih =>
    by_cases hdot : name = "."
    · subst hdot
      simpa using ih.drop
    · simpa [hdot] using ih.keep name

/-- A `.` at the end is left out. -/
theorem dropLast (h : Undotted names names') : Undotted (names ++ ["."]) names' := by
  induction h with
  | nil => exact .drop .nil
  | keep name _ ih => exact .keep name ih
  | drop _ ih => exact .drop ih

end Undotted

/-- Where links are followed, a turn that goes on goes on alike whether or not names follow. -/
theorem turn_follow_go {d : Disk} {b b' : Nat} {place p' : Place} {name : String}
    {ahead : List String} {last : Bool} (h : turn d true b place name last = .go b' p' ahead)
    (last' : Bool) : turn d true b place name last' = .go b' p' ahead := by
  unfold turn at h ⊢
  simp only [Bool.not_true, Bool.and_false] at h ⊢
  repeat' split at h
  all_goals simp_all

/-- **Names with `.` left out lead to the node that they lead to with it.** -/
theorem walk_undotted (d : Disk) {p : Place} {n : Node} : ∀ b place todo,
    walk d true b place todo = .ok (.present p n) → ∀ todo', Undotted todo todo' →
      walk d true b place todo' = .ok (.present p n) := by
  refine walk_induction d true ?missing ?arrived ?blocked ?stop ?go
  case missing =>
    intro b place todo hp h
    rw [walk_missing hp] at h
    cases h
  case arrived =>
    intro b place here hp h todo' hundotted
    cases hundotted
    exact h
  case blocked =>
    intro b place here name rest hp hd h
    rw [walk_blocked hp hd] at h
    cases h
  case stop =>
    intro b place here name rest outcome hp hd ht h
    rw [walk_stop hp hd ht] at h
    subst h
    exact absurd ht turn_follow_stop
  case go =>
    intro b place here name rest b' p' ahead hp hd ht ih h todo' hundotted
    rw [walk_go hp hd ht] at h
    cases hundotted with
    | @keep _ rest' _ hrest =>
      -- the name may be the last one now, which makes no difference to a turn that goes on
      rw [walk_go hp hd (turn_follow_go ht rest'.isEmpty)]
      exact ih h _ (hrest.ahead ahead)
    | drop hrest =>
      -- the turn at `.` stays where it is
      cases ht
      exact ih h _ hrest

/-! ## §2. Splitting and joining. -/

/-- Splitting is that of the library. -/
theorem splitOn_eq (sep : Char) (cs : List Char) : splitOn sep cs = cs.splitOn sep := by
  induction cs with
  | nil => rfl
  | cons c cs ih =>
    rw [List.splitOn_cons_eq_if_modifyHead, splitOn, ih]
    by_cases hc : c = sep
    · simp [hc]
    · rw [if_neg hc, if_neg (by simpa using hc)]
      cases hs : cs.splitOn sep with
      | nil => exact absurd hs (List.splitOn_ne_nil sep cs)
      | cons w ws => rfl

/-- The parts hold no separator. -/
theorem not_mem_of_mem_splitOn {sep : Char} : ∀ {cs w : List Char}, w ∈ splitOn sep cs → sep ∉ w
  | [], w, hw => by
      rw [splitOn, List.mem_singleton] at hw
      simp [hw]
  | c :: cs, w, hw => by
      rw [splitOn] at hw
      by_cases hc : c = sep
      · rw [if_pos hc, List.mem_cons] at hw
        rcases hw with rfl | hw
        · simp
        · exact not_mem_of_mem_splitOn hw
      · rw [if_neg hc] at hw
        cases hs : splitOn sep cs with
        | nil =>
          rw [hs, List.mem_singleton] at hw
          subst hw
          simpa using Ne.symm hc
        | cons u us =>
          rw [hs, List.mem_cons] at hw
          rcases hw with rfl | hw
          · rw [List.mem_cons, not_or]
            exact ⟨Ne.symm hc, not_mem_of_mem_splitOn (hs ▸ List.mem_cons_self)⟩
          · exact not_mem_of_mem_splitOn (hs ▸ List.mem_cons_of_mem u hw)

/-- A text that can be a name: not empty, and without slashes. -/
def IsName (cs : List Char) : Prop := cs ≠ [] ∧ '/' ∉ cs

theorem isName_of_mem_namesOf {path name : String} (h : name ∈ namesOf path) :
    IsName name.toList := by
  unfold namesOf at h
  obtain ⟨w, hw, rfl⟩ := List.mem_map.mp h
  obtain ⟨hmem, hne⟩ := List.mem_filter.mp hw
  rw [String.toList_ofList]
  exact ⟨by simpa using hne, not_mem_of_mem_splitOn hmem⟩

/-- Joined names start and end with characters of names. -/
theorem intercalate_ends : ∀ {ls : List (List Char)}, (∀ l ∈ ls, IsName l) → ls ≠ [] →
    ∃ first last, (['/'].intercalate ls).head? = some first ∧
      (['/'].intercalate ls).getLast? = some last ∧ first ≠ '/' ∧ last ≠ '/'
  | [], _, hne => absurd rfl hne
  | [l], hls, _ => by
      obtain ⟨hne, hslash⟩ := hls l List.mem_cons_self
      rw [List.intercalate_singleton]
      refine ⟨l.head hne, l.getLast hne, List.head?_eq_some_head hne,
        List.getLast?_eq_some_getLast hne, ?_, ?_⟩
      · exact fun h => hslash (h ▸ List.head_mem hne)
      · exact fun h => hslash (h ▸ List.getLast_mem hne)
  | l :: l' :: ls, hls, _ => by
      obtain ⟨hne, hslash⟩ := hls l List.mem_cons_self
      have hrest : ∀ x ∈ l' :: ls, IsName x := fun x hx => hls x (List.mem_cons_of_mem l hx)
      obtain ⟨-, last, -, hlast, -, hlastne⟩ := intercalate_ends hrest (by simp)
      obtain ⟨c, cs, rfl⟩ := List.exists_cons_of_ne_nil hne
      rw [List.intercalate_cons_cons]
      refine ⟨c, last, rfl, ?_, ?_, hlastne⟩
      · rw [List.getLast?_append, hlast]
        rfl
      · rintro rfl
        exact hslash List.mem_cons_self

/-- Joining fewer texts gives a part of the text. -/
theorem intercalate_sublist (sep : List Char) {ls ls' : List (List Char)}
    (h : ls.Sublist ls') : (sep.intercalate ls).Sublist (sep.intercalate ls') := by
  induction h with
  | slnil => exact List.Sublist.refl _
  | @cons ls rest l hsub ih =>
    cases rest with
    | nil =>
      rw [List.sublist_nil.mp hsub]
      exact List.nil_sublist _
    | cons l' rest =>
      rw [List.intercalate_cons_cons]
      exact ih.trans (List.sublist_append_right _ _)
  | @cons_cons ls rest l hsub ih =>
    cases ls with
    | nil =>
      rw [List.intercalate_singleton]
      cases rest with
      | nil => simp
      | cons l' rest =>
        rw [List.intercalate_cons_cons, List.append_assoc]
        exact List.sublist_append_left _ _
    | cons k ls =>
      cases rest with
      | nil => cases hsub
      | cons l' rest =>
        rw [List.intercalate_cons_cons, List.intercalate_cons_cons]
        exact (List.Sublist.refl _).append ih

/-- A text with fewer characters takes fewer bytes. -/
theorem utf8ByteSize_le_of_sublist {s t : String} (h : s.toList.Sublist t.toList) :
    s.utf8ByteSize ≤ t.utf8ByteSize := by
  have hsize : ∀ {l l' : List Char}, l.Sublist l' → l.utf8Encode.size ≤ l'.utf8Encode.size := by
    intro l l' hsub
    induction hsub with
    | slnil => exact Nat.le_refl _
    | cons c _ ih =>
      rw [List.utf8Encode_cons, ByteArray.size_append]
      omega
    | @cons_cons l l' c _ ih =>
      rw [@List.utf8Encode_cons c l, @List.utf8Encode_cons c l', ByteArray.size_append,
        ByteArray.size_append]
      omega
  have hbytes := hsize h
  rwa [String.utf8Encode_toList, String.utf8Encode_toList] at hbytes

/-! ## §3. The normal form as text. -/

section Normal

variable (path : String)

/-- The names of a path as characters, `.` left out, are some of its parts. -/
theorem names_sublist : (((namesOf path).filter (· ≠ ".")).map String.toList).Sublist
    (path.toList.splitOn '/') := by
  have hparts : ((namesOf path).map String.toList).Sublist (path.toList.splitOn '/') := by
    unfold namesOf
    rw [List.map_map, splitOn_eq, show String.toList ∘ String.ofList = id from
      funext fun _ => String.toList_ofList, List.map_id]
    exact List.filter_sublist
  exact (List.filter_sublist.map _).trans hparts

/-- A slash in front adds no name. -/
theorem namesOf_slash (s : String) : namesOf ("/" ++ s) = namesOf s := by
  have hparts : splitOn '/' ("/" ++ s).toList = [] :: splitOn '/' s.toList := by
    rw [String.toList_append]
    rfl
  unfold namesOf
  rw [hparts]
  rfl

theorem namesOf_anchor (a : Anchor) (s : String) : namesOf (a.text ++ s) = namesOf s := by
  cases a with
  | relative => rw [show Anchor.relative.text = "" from rfl, String.empty_append]
  | root => exact namesOf_slash s
  | doubleRoot =>
    rw [show Anchor.doubleRoot.text = "/" ++ "/" from rfl, String.append_assoc, namesOf_slash,
      namesOf_slash]

/-- Joined names are told apart again. -/
theorem namesOf_joined {names : List String} (h : ∀ name ∈ names, IsName name.toList) :
    namesOf ("/".intercalate names) = names := by
  unfold namesOf
  rw [String.toList_intercalate, splitOn_eq, show "/".toList = ['/'] from rfl]
  -- no names are joined to the empty text, whose one part is no name
  cases names with
  | nil => rfl
  | cons name rest =>
    have hparts : ∀ l ∈ (name :: rest).map String.toList, IsName l := by
      intro l hl
      obtain ⟨x, hx, rfl⟩ := List.mem_map.mp hl
      exact h x hx
    rw [List.splitOn_intercalate '/' (fun l hl => (hparts l hl).2) (by simp),
      List.filter_eq_self.mpr (fun l hl => by simpa using (hparts l hl).1), List.map_map,
      show String.ofList ∘ String.toList = id from funext fun _ => String.ofList_toList, List.map_id]

theorem anchorOf_relative_iff : Path.anchorOf path = .relative ↔ isAbsolute path = false := by
  unfold Path.anchorOf isAbsolute
  split
  · simp_all
  · simp_all
  · simp_all
  · rename_i hother
    cases hchars : path.toList with
    | nil => simp
    | cons c cs =>
      have hc : c ≠ '/' := by
        rintro rfl
        exact hother cs hchars
      simpa using hc

/-- Names of the normal form are names. -/
theorem isName_normal {name : String} (h : name ∈ (Path.ofString path).names) :
    IsName name.toList :=
  isName_of_mem_namesOf (List.mem_filter.mp h).1

/-- The normal form of a path without names, as text. -/
theorem toString_here (h : (Path.ofString path).anchor = .relative ∧ (Path.ofString path).names = []) :
    (Path.ofString path).toString = "." := if_pos h

theorem toString_named
    (h : ¬ ((Path.ofString path).anchor = .relative ∧ (Path.ofString path).names = [])) :
    (Path.ofString path).toString =
      (Path.ofString path).anchor.text ++ "/".intercalate (Path.ofString path).names := if_neg h

/-- Joined names of the normal form start and end with characters of names. -/
theorem joined_ends (hne : (Path.ofString path).names ≠ []) :
    ∃ first last, ("/".intercalate (Path.ofString path).names).toList.head? = some first ∧
      ("/".intercalate (Path.ofString path).names).toList.getLast? = some last ∧
      first ≠ '/' ∧ last ≠ '/' := by
  rw [String.toList_intercalate]
  refine intercalate_ends ?_ (by simpa using hne)
  intro l hl
  obtain ⟨name, hname, rfl⟩ := List.mem_map.mp hl
  exact isName_normal path hname

/-- The normal form starts where the path starts. -/
theorem isAbsolute_normal : isAbsolute (Path.ofString path).toString = isAbsolute path := by
  by_cases hhere : (Path.ofString path).anchor = .relative ∧ (Path.ofString path).names = []
  · rw [toString_here path hhere, (anchorOf_relative_iff path).mp hhere.1]
    rfl
  rw [toString_named path hhere]
  cases ha : (Path.ofString path).anchor with
  | relative =>
    obtain ⟨first, last, hfirst, -, hne, -⟩ := joined_ends path fun hnames => hhere ⟨ha, hnames⟩
    rw [(anchorOf_relative_iff path).mp ha]
    unfold isAbsolute
    rw [show Anchor.relative.text = "" from rfl, String.empty_append, hfirst]
    simpa using hne
  | root | doubleRoot =>
    have habs : isAbsolute path = true := by
      rw [← Bool.not_eq_false, ← anchorOf_relative_iff]
      intro hrel
      rw [show (Path.ofString path).anchor = .relative from hrel] at ha
      cases ha
    rw [habs]
    unfold isAbsolute
    rw [String.toList_append]
    rfl

/-- The names of the normal form are walked as they are. -/
theorem steps_named
    (h : ¬ ((Path.ofString path).anchor = .relative ∧ (Path.ofString path).names = [])) :
    steps (Path.ofString path).toString = (Path.ofString path).names := by
  have hnames : namesOf (Path.ofString path).toString = (Path.ofString path).names := by
    rw [toString_named path h, namesOf_anchor]
    exact namesOf_joined fun name => isName_normal path
  unfold steps
  rw [hnames]
  by_cases hnone : (Path.ofString path).names = []
  · simp [hnone]
  · obtain ⟨first, last, -, hlast, -, hne⟩ := joined_ends path hnone
    have hslash : endsWithSlash (Path.ofString path).toString = false := by
      unfold endsWithSlash
      rw [toString_named path h, String.toList_append, List.getLast?_append, hlast]
      simpa using hne
    rw [hslash]
    rfl

/-- A path that is not empty and does not start at the root has a name. -/
theorem namesOf_ne_nil (hne : path ≠ "") (hrel : isAbsolute path = false) : namesOf path ≠ [] := by
  unfold isAbsolute at hrel
  cases hchars : path.toList with
  | nil =>
    rw [← String.ofList_toList (s := path), hchars] at hne
    exact absurd rfl hne
  | cons c cs =>
    rw [hchars] at hrel
    have hc : c ≠ '/' := by simpa using hrel
    unfold namesOf
    rw [hchars, splitOn, if_neg hc]
    cases splitOn '/' cs <;> simp

/-- **The normal form leaves out occurrences of `.` and nothing else.** -/
theorem undotted_steps (hne : path ≠ "") :
    Undotted (steps path) (steps (Path.ofString path).toString) := by
  -- the slash at the end asks for one more `.`
  have hslash : ∀ {names' : List String}, Undotted (namesOf path) names' →
      Undotted (steps path) names' := by
    intro names' h
    unfold steps
    dsimp only
    split
    · exact h.dropLast
    · exact h
  by_cases hhere : (Path.ofString path).anchor = .relative ∧ (Path.ofString path).names = []
  · -- all names are `.`, and one of them stays
    rw [toString_here path hhere, show steps "." = ["."] from rfl]
    refine hslash ?_
    obtain ⟨name, rest, hnames⟩ := List.exists_cons_of_ne_nil
      (namesOf_ne_nil path hne ((anchorOf_relative_iff path).mp hhere.1))
    have hdots := hhere.2
    rw [show (Path.ofString path).names = (namesOf path).filter (· ≠ ".") from rfl, hnames] at hdots
    by_cases hname : name = "."
    case neg => simp [hname] at hdots
    subst hname
    rw [hnames]
    have hrest : rest.filter (· ≠ ".") = [] := by simpa using hdots
    exact .keep "." (hrest ▸ Undotted.filter rest)
  · rw [steps_named path hhere]
    exact hslash (Undotted.filter (namesOf path))

/-- No normal form is empty. -/
theorem toString_ne_empty : (Path.ofString path).toString ≠ "" := by
  intro hempty
  by_cases hhere : (Path.ofString path).anchor = .relative ∧ (Path.ofString path).names = []
  · rw [toString_here path hhere] at hempty
    exact absurd hempty (by decide)
  · -- neither an anchor nor a name can be there
    have hnames := steps_named path hhere
    have habs := isAbsolute_normal path
    rw [hempty] at hnames habs
    exact hhere ⟨(anchorOf_relative_iff path).mpr habs.symm, hnames.symm⟩

/-- A path is its anchor and the rest. -/
theorem anchor_rest : ∃ rest : String, path = (Path.anchorOf path).text ++ rest := by
  have hchars : ∀ cs cs' : List Char, path.toList = cs ++ cs' →
      path = String.ofList cs ++ String.ofList cs' := by
    intro cs cs' h
    rw [← String.ofList_append, ← h, String.ofList_toList]
  unfold Path.anchorOf
  split
  · rename_i cs h
    exact ⟨String.ofList ('/' :: '/' :: cs), hchars ['/'] _ h⟩
  · rename_i cs _ h
    exact ⟨String.ofList cs, hchars ['/', '/'] _ h⟩
  · rename_i cs _ _ h
    exact ⟨String.ofList cs, hchars ['/'] _ h⟩
  · exact ⟨path, String.empty_append.symm⟩

/-- The normal form is made of characters of the path, in their order. -/
theorem normal_sublist (hne : path ≠ "") :
    (Path.ofString path).toString.toList.Sublist path.toList := by
  by_cases hhere : (Path.ofString path).anchor = .relative ∧ (Path.ofString path).names = []
  · -- all names are `.`, and there is one
    obtain ⟨name, rest, hnames⟩ := List.exists_cons_of_ne_nil
      (namesOf_ne_nil path hne ((anchorOf_relative_iff path).mp hhere.1))
    have hmem : name ∈ namesOf path := hnames ▸ List.mem_cons_self
    have hdot : name = "." := by simpa using List.filter_eq_nil_iff.mp hhere.2 name hmem
    rw [toString_here path hhere]
    refine List.singleton_sublist.mpr (mem_of_mem_namesOf hmem ?_)
    rw [hdot]
    decide
  · obtain ⟨rest, hrest⟩ := anchor_rest path
    have hnames : namesOf path = namesOf rest := by
      rw [hrest]
      exact namesOf_anchor _ _
    have hjoined : (['/'].intercalate ((Path.ofString path).names.map String.toList)).Sublist
        rest.toList := by
      have hsub := intercalate_sublist ['/'] (names_sublist rest)
      rw [List.intercalate_splitOn, ← hnames] at hsub
      exact hsub
    rw [toString_named path hhere, String.toList_append, String.toList_intercalate]
    have hpath : path.toList = (Path.anchorOf path).text.toList ++ rest.toList := by
      rw [← String.toList_append, ← hrest]
    rw [hpath]
    exact (List.Sublist.refl _).append hjoined

/-- The normal form of a path that fits fits. -/
theorem fit_normal {path : String} (h : Fit path) : Fit (Path.ofString path).toString where
  noNul := hasNul_toString_ofString h.noNul
  nonempty := toString_ne_empty path
  short := Nat.lt_of_le_of_lt (utf8ByteSize_le_of_sublist (normal_sublist path h.nonempty)) h.short

end Normal

/-! ## §4. Where the normal form leads. -/

variable {m : Machine} {path : String} {n : Node}

/-- **Where a path leads to a node, its normal form leads to the same node.** -/
theorem arrive_normal (hne : path ≠ "") {place : Place}
    (h : m.arrive path = .ok (.present place n)) :
    m.arrive (Path.ofString path).toString = .ok (.present place n) := by
  unfold arrive start at h ⊢
  rw [isAbsolute_normal]
  exact walk_undotted m.disk _ _ _ h _ (undotted_steps path hne)

/-- **What has a status as a file can be read through the normal form of its path.** -/
theorem read_of_stat (hcalm : m.faults = []) (hstat : m.stat path = .ok n) {content : List UInt8}
    (hkind : n.kind = .file content) :
    m.read (Path.ofString path).toString = .ok content := by
  obtain ⟨hcheck, place, ha⟩ := stat_ok_iff.mp hstat
  have hfit := fit_of_precheck hcheck
  rw [read_eq, precheck_of_calm hcalm (fit_normal hfit) .read, arrive_normal hfit.nonempty ha]
  show contentOf _ n.kind = _
  rw [hkind]
  rfl

end Converge.Machine
