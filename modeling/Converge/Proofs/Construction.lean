/-
  Converge.Proofs.Construction
  ────────────────────────────
  **WHAT IS DECLARED GOES OVER WHAT HOLDS BY DEFAULT.**

  A declaration is read field by field, each from its own key, and is accepted if every key names a
  field and every value is accepted for its field.  A resource then has in each field what is declared,
  if anything is, and else its default: also an empty text and a zero are declared.  So a field without
  a value may be left out, and the order of the keys does not matter, neither for what is built nor for
  whether anything is.

  Main results:
    * `read_file_ok_iff` — which declarations are accepted, and what they hold;
    * `build_ok_iff` — which resources are built, field by field;
    * `build_overrides_defaults` — all that holds of a resource that is built, and what it does not
      depend on.
-/
import Converge.Proofs.Built
import Converge.Proofs.Loading
import Converge.Proofs.Pairs

namespace Converge

open Converge.Machine

/-! ## §1. One field of a declaration. -/

theorem Slot.read_of_ne_null {α : Type} {reader : Value → Except String α} {v : Value}
    (h : v ≠ .null) : Slot.read reader (some v) = (reader v).map .given := by
  cases v <;> first | rfl | exact absurd rfl h

namespace Declaration

variable {pairs : Mapping} {d d' : Declaration} {f g : Field} {schema : Schema}

/-- A declaration has in a field what a mapping has under the name of the field. -/
def Holds (d : Declaration) (pairs : Mapping) : Field → Prop
  | .state => Slot.read Field.readExistence (Mapping.find? (Field.name .state) pairs) = .ok d.state
  | .path => Slot.read Field.readText (Mapping.find? (Field.name .path) pairs) = .ok d.path
  | .mode => Slot.read Field.readMode (Mapping.find? (Field.name .mode) pairs) = .ok d.mode
  | .owner => Slot.read Field.readText (Mapping.find? (Field.name .owner) pairs) = .ok d.owner
  | .group => Slot.read Field.readText (Mapping.find? (Field.name .group) pairs) = .ok d.group
  | .source => Slot.read Field.readText (Mapping.find? (Field.name .source) pairs) = .ok d.source

/-- A mapping says one thing about all fields. -/
theorem eq_of_holds (h : ∀ f, d.Holds pairs f) (h' : ∀ f, d'.Holds pairs f) : d = d' := by
  cases d
  cases d'
  rw [Declaration.mk.injEq]
  exact ⟨Except.ok.inj ((h .state).symm.trans (h' .state)),
    Except.ok.inj ((h .path).symm.trans (h' .path)), Except.ok.inj ((h .mode).symm.trans (h' .mode)),
    Except.ok.inj ((h .owner).symm.trans (h' .owner)),
    Except.ok.inj ((h .group).symm.trans (h' .group)),
    Except.ok.inj ((h .source).symm.trans (h' .source))⟩

/-- Reading a field sets it and leaves the others alone. -/
theorem holds_of_readField (h : d.readField f (Mapping.find? f.name pairs) = .ok d')
    (hg : g ≠ f → d.Holds pairs g) : d'.Holds pairs g := by
  cases f <;> obtain ⟨s, hs, rfl⟩ := map_ok h <;> cases g <;> first | exact hs | exact hg nofun

/-- A field that cannot be read is held by no declaration. -/
theorem not_holds_of_error {message : String}
    (h : d.readField f (Mapping.find? f.name pairs) = .error message) : ¬ d'.Holds pairs f := by
  intro hholds
  cases f <;>
    · simp only [Holds] at hholds
      simp only [readField, hholds, Except.map, reduceCtorEq] at h

/-! ## §2. All fields, and all keys. -/

theorem report_ne_nil (errors : List (String × String)) (name message : String) :
    report errors name message ≠ [] := by
  cases errors with
  | nil => exact List.cons_ne_nil _ _
  | cons e rest =>
    unfold report
    split <;> exact List.cons_ne_nil _ _

/-- Nothing is wrong with a field exactly if it can be read. -/
theorem errors_field_iff (r : Reading) :
    (r.field pairs f).errors = [] ↔
      r.errors = [] ∧ ∃ d, r.declaration.readField f (Mapping.find? f.name pairs) = .ok d ∧
        (r.field pairs f).declaration = d := by
  unfold Reading.field
  cases r.declaration.readField f (Mapping.find? f.name pairs) with
  | ok d => simp
  | error message => simp [report_ne_nil]

/-- If nothing is wrong with any field, all of them hold what was declared. -/
theorem holds_fields (fields : List Field) (r : Reading)
    (h : (fields.foldl (Reading.field pairs) r).errors = []) :
    r.errors = [] ∧ ∀ g, (g ∉ fields → r.declaration.Holds pairs g) →
      (fields.foldl (Reading.field pairs) r).declaration.Holds pairs g := by
  induction fields generalizing r with
  | nil => exact ⟨h, fun g hg => hg List.not_mem_nil⟩
  | cons f fields ih =>
    obtain ⟨hfield, hrest⟩ := ih (r.field pairs f) h
    obtain ⟨hnone, d, hread, hd⟩ := (errors_field_iff r).mp hfield
    refine ⟨hnone, fun g hg => hrest g fun hlater => ?_⟩
    rw [hd]
    -- a field that is not read later is the one read here, or was there before
    exact holds_of_readField hread fun hne => hg fun hmem =>
      (List.mem_cons.mp hmem).elim hne hlater

/-- If a declaration holds all fields, nothing is wrong with any of them. -/
theorem errors_fields (fields : List Field) (r : Reading) (hr : r.errors = [])
    (h : ∀ f ∈ fields, d.Holds pairs f) :
    (fields.foldl (Reading.field pairs) r).errors = [] := by
  induction fields generalizing r with
  | nil => exact hr
  | cons f fields ih =>
    refine ih (r.field pairs f) ?_ fun g hg => h g (List.mem_cons_of_mem _ hg)
    cases hread : r.declaration.readField f (Mapping.find? f.name pairs) with
    | ok d' => exact (errors_field_iff r).mpr ⟨hr, d', hread, by simp only [Reading.field, hread]⟩
    | error message => exact absurd (h f List.mem_cons_self) (not_holds_of_error hread)

theorem keyError?_eq_none_iff {k : Value} :
    keyError? schema k = none ↔ ∃ f ∈ schema.fields, k = .text f.name := by
  cases k with
  | text s =>
    simp only [keyError?, List.contains_eq_mem, List.mem_map, decide_eq_true_eq]
    split
    · rename_i h
      obtain ⟨f, hf, rfl⟩ := h
      exact ⟨fun _ => ⟨f, hf, rfl⟩, fun _ => rfl⟩
    · rename_i h
      refine ⟨nofun, ?_⟩
      rintro ⟨f, hf, heq⟩
      exact absurd ⟨f, hf, (Value.text.inj heq).symm⟩ h
  | _ => simp [keyError?]

/-- Nothing is wrong with any key exactly if each names a field. -/
theorem errors_keys_iff (keys : Mapping) (r : Reading) :
    (keys.foldl (Reading.key schema) r).errors = [] ↔
      r.errors = [] ∧ ∀ p ∈ keys, ∃ f ∈ schema.fields, p.1 = .text f.name := by
  induction keys generalizing r with
  | nil => simp
  | cons p keys ih =>
    rw [List.foldl_cons, ih, List.forall_mem_cons, ← keyError?_eq_none_iff, ← and_assoc]
    refine and_congr_left fun _ => ?_
    unfold Reading.key
    cases keyError? schema p.1 with
    | none => simp
    | some e => simp [report_ne_nil]

theorem mem_fields_file (f : Field) : f ∈ Schema.file.fields := by
  cases f <;> decide

/-- **A declaration of a file is accepted** if every key names a field and every field can be read; it then
    holds all of them. -/
theorem read_file_ok_iff {id : String} :
    read .file id (.mapping pairs) = .ok d ↔
      (∀ p ∈ pairs, ∃ f : Field, p.1 = .text f.name) ∧ ∀ f, d.Holds pairs f := by
  have hkeys : (∀ p ∈ pairs, ∃ f ∈ Schema.file.fields, p.1 = .text f.name) ↔
      ∀ p ∈ pairs, ∃ f : Field, p.1 = .text f.name := by
    simp only [mem_fields_file, true_and]
  have hread : read .file id (.mapping pairs) =
      if (Reading.all .file pairs).errors.isEmpty then .ok (Reading.all .file pairs).declaration
      else .error (.declaration id (.badFields (Reading.all .file pairs).errors)) := rfl
  have herrors : (Reading.all .file pairs).errors = [] ↔
      (Schema.file.fields.foldl (Reading.field pairs) {}).errors = [] ∧
        ∀ p ∈ pairs, ∃ f : Field, p.1 = .text f.name := by
    rw [Reading.all, errors_keys_iff, hkeys]
  have hdeclaration : (Reading.all .file pairs).declaration =
      (Schema.file.fields.foldl (Reading.field pairs) {}).declaration :=
    declaration_keys .file pairs _
  rw [hread]
  constructor
  · intro h
    split at h
    · rename_i hempty
      obtain ⟨hfields, hknown⟩ := herrors.mp (List.isEmpty_iff.mp hempty)
      cases h
      rw [hdeclaration]
      exact ⟨hknown, fun f => (holds_fields _ _ hfields).2 f fun hf => absurd (mem_fields_file f) hf⟩
    · cases h
  · rintro ⟨hknown, hholds⟩
    have hfields := errors_fields Schema.file.fields {} rfl fun f _ => hholds f
    rw [if_pos (List.isEmpty_iff.mpr (herrors.mpr ⟨hfields, hknown⟩)), hdeclaration]
    refine congrArg Except.ok (eq_of_holds (fun f => ?_) hholds)
    exact (holds_fields _ _ hfields).2 f fun hf => absurd (mem_fields_file f) hf

end Declaration

/-! ## §3. Defaults and what goes over them. -/

/-- What a field is set to: its default if there is no such key or no value under it, and else what its
    reader makes of the value. -/
inductive Filled {α : Type} (reader : Value → Except String α) (default : α) :
    Option Value → α → Prop where
  | omitted : Filled reader default none default
  | blank : Filled reader default (some .null) default
  | declared {v : Value} {a : α} (something : v ≠ .null) (accepted : reader v = .ok a) :
      Filled reader default (some v) a

namespace Filled

variable {α : Type} {reader : Value → Except String α} {default a : α} {v : Option Value}

/-- A field without a value is like one that is not there. -/
theorem blank_iff : Filled reader default (some .null) a ↔ Filled reader default none a := by
  constructor
  · intro h
    cases h with
    | blank => exact .omitted
    | declared something => exact absurd rfl something
  · intro h
    cases h
    exact .blank

/-- What is read into a slot, or the default where nothing is, is what the field is set to. -/
theorem iff_slot {β : Type} {slotReader : Value → Except String β} {f : Slot β → α}
    (haccept : ∀ v a, reader v = .ok a ↔ ∃ b, slotReader v = .ok b ∧ f (.given b) = a)
    (hblank : f .blank = default) (homitted : f .omitted = default) :
    Filled reader default v a ↔ ∃ s, Slot.read slotReader v = .ok s ∧ f s = a := by
  constructor
  · intro h
    cases h with
    | omitted => exact ⟨.omitted, rfl, homitted⟩
    | blank => exact ⟨.blank, rfl, hblank⟩
    | declared something accepted =>
      obtain ⟨b, hb, rfl⟩ := (haccept _ _).mp accepted
      exact ⟨.given b, by rw [Slot.read_of_ne_null something, hb]; rfl, rfl⟩
  · rintro ⟨s, hread, rfl⟩
    cases v with
    | none =>
      cases hread
      rw [homitted]
      exact .omitted
    | some v =>
      by_cases hnull : v = .null
      · subst hnull
        cases hread
        rw [hblank]
        exact .blank
      · rw [Slot.read_of_ne_null hnull] at hread
        cases hb : slotReader v with
        | error message =>
          rw [hb] at hread
          cases hread
        | ok b =>
          rw [hb] at hread
          cases hread
          exact .declared hnull ((haccept _ _).mpr ⟨b, hb, rfl⟩)

theorem iff_getD :
    Filled reader default v a ↔ ∃ s, Slot.read reader v = .ok s ∧ s.getD default = a :=
  iff_slot (fun v a => by simp [Slot.getD]) rfl rfl

end Filled

namespace FileResource

variable {m : Machine} {title owner group : String} {pairs rest : Mapping} {r : FileResource}

/-- A source as it is declared. -/
def readSource (v : Value) : Except String (Option String) := (Field.readText v).map some

/-- A resource is what a mapping declares over the defaults: the title for the path, 0644, the name of the
    user of the process and of that user's primary group, no source, and that the file should exist. -/
structure Describes (m : Machine) (title : String) (pairs : Mapping) (r : FileResource) : Prop where
  /-- Every key names a field. -/
  keys : ∀ p ∈ pairs, ∃ f : Field, p.1 = .text f.name
  path : Filled Field.readText title (Mapping.find? "path" pairs) r.path
  mode : Filled Field.readMode 0o644 (Mapping.find? "mode" pairs) r.mode
  owners : ∃ u g, m.accounts.userNumbered? m.uid = some u ∧
    m.accounts.groupNumbered? u.gid = some g ∧
    Filled Field.readText u.name (Mapping.find? "owner" pairs) r.owner ∧
    Filled Field.readText g.name (Mapping.find? "group" pairs) r.group
  source : Filled readSource none (Mapping.find? "source" pairs) r.source
  want : Filled Field.readExistence .present (Mapping.find? "state" pairs) r.want
  title : r.title = title

theorem currentUserAndGroup_ok_iff :
    m.currentUserAndGroup = .ok (owner, group) ↔
      ∃ u g, m.accounts.userNumbered? m.uid = some u ∧ m.accounts.groupNumbered? u.gid = some g ∧
        u.name = owner ∧ g.name = group := by
  unfold Machine.currentUserAndGroup Accounts.userAndGroup Accounts.groupName
  cases m.accounts.userNumbered? m.uid with
  | none => simp
  | some u => cases hg : m.accounts.groupNumbered? u.gid <;> simp [Except.map, hg]

/-- A source in a slot is one that is declared. -/
theorem filled_source_iff {v : Option Value} {source : Option String} :
    Filled readSource none v source ↔
      ∃ s : Slot String, Slot.read Field.readText v = .ok s ∧ s.value? = source := by
  refine Filled.iff_slot (fun v a => ?_) rfl rfl
  unfold readSource
  cases Field.readText v <;> simp [Except.map, Slot.value?]

/-- A resource is built from the names of the process and a declaration that was read. -/
theorem build_ok_iff_read :
    build m title (.mapping pairs) = .ok r ↔
      ∃ owner group, m.currentUserAndGroup = .ok (owner, group) ∧
        ∃ d, Declaration.read .file (idOf title) (.mapping pairs) = .ok d ∧
          ofDeclaration title owner group d = r ∧ r.path ≠ "" := by
  unfold build
  cases hprocess : m.currentUserAndGroup with
  | error cause => simp [Except.mapError, bind, Except.bind]
  | ok names =>
    obtain ⟨owner, group⟩ := names
    cases hread : Declaration.read .file (idOf title) (.mapping pairs) with
    | error f => simp [hread, Except.mapError, bind, Except.bind]
    | ok d =>
      simp only [hread, Except.mapError, bind, Except.bind]
      constructor
      · intro h
        split at h
        · cases h
        · rename_i hpath
          cases h
          exact ⟨owner, group, rfl, d, rfl, rfl, hpath⟩
      · rintro ⟨owner', group', hnames, d', hd, rfl, hpath⟩
        cases hnames
        cases hd
        rw [if_neg hpath]
        rfl

/-- **A resource is built** exactly if the declaration describes it over the defaults and its path is not
    empty. -/
theorem build_ok_iff :
    build m title (.mapping pairs) = .ok r ↔ Describes m title pairs r ∧ r.path ≠ "" := by
  rw [build_ok_iff_read]
  constructor
  · rintro ⟨owner, group, hprocess, d, hread, rfl, hpath⟩
    obtain ⟨hkeys, hholds⟩ := Declaration.read_file_ok_iff.mp hread
    obtain ⟨u, g, huser, hgroup, rfl, rfl⟩ := currentUserAndGroup_ok_iff.mp hprocess
    refine ⟨?_, hpath⟩
    exact {
      title := rfl
      keys := hkeys
      path := Filled.iff_getD.mpr ⟨_, hholds .path, rfl⟩
      mode := Filled.iff_getD.mpr ⟨_, hholds .mode, rfl⟩
      owners := ⟨u, g, huser, hgroup, Filled.iff_getD.mpr ⟨_, hholds .owner, rfl⟩,
        Filled.iff_getD.mpr ⟨_, hholds .group, rfl⟩⟩
      source := filled_source_iff.mpr ⟨_, hholds .source, rfl⟩
      want := Filled.iff_getD.mpr ⟨_, hholds .state, rfl⟩ }
  · rintro ⟨h, hpath⟩
    obtain ⟨u, g, huser, hgroup, howner, hownerGroup⟩ := h.owners
    obtain ⟨path, hpathRead, hpathEq⟩ := Filled.iff_getD.mp h.path
    obtain ⟨mode, hmodeRead, hmodeEq⟩ := Filled.iff_getD.mp h.mode
    obtain ⟨owner, hownerRead, hownerEq⟩ := Filled.iff_getD.mp howner
    obtain ⟨group, hgroupRead, hgroupEq⟩ := Filled.iff_getD.mp hownerGroup
    obtain ⟨source, hsourceRead, hsourceEq⟩ := filled_source_iff.mp h.source
    obtain ⟨state, hstateRead, hstateEq⟩ := Filled.iff_getD.mp h.want
    refine ⟨u.name, g.name, currentUserAndGroup_ok_iff.mpr ⟨u, g, huser, hgroup, rfl, rfl⟩,
      ⟨state, path, mode, owner, group, source⟩, Declaration.read_file_ok_iff.mpr ⟨h.keys, ?_⟩, ?_,
      hpath⟩
    · intro f
      cases f with
      | state => exact hstateRead
      | path => exact hpathRead
      | mode => exact hmodeRead
      | owner => exact hownerRead
      | group => exact hgroupRead
      | source => exact hsourceRead
    · rw [ofDeclaration, FileResource.mk.injEq]
      exact ⟨h.title.symm, hpathEq, hmodeEq, hownerEq, hgroupEq, hsourceEq, hstateEq⟩

/-! ## §4. What a resource does not depend on. -/

/-- What is left of a mapping, in any order, when some of its fields that have no value are left out. -/
structure Trims (pairs rest : Mapping) : Prop where
  distinct : Mapping.Distinct pairs
  parts : ∃ blanks, pairs.Perm (blanks ++ rest) ∧
    ∀ p ∈ blanks, ∃ f : Field, p = (.text f.name, .null)

/-- A field is declared the same in what is left, or it had no value and was left out. -/
theorem Trims.found (h : Trims pairs rest) (key : String) :
    Mapping.find? key pairs = Mapping.find? key rest ∨
      Mapping.find? key pairs = some .null ∧ Mapping.find? key rest = none := by
  obtain ⟨blanks, hperm, hblanks⟩ := h.parts
  rw [Mapping.find?_perm h.distinct hperm, Mapping.find?_append]
  cases hfound : Mapping.find? key blanks with
  | none => exact .inl Option.none_or
  | some v =>
    right
    have hmem := Mapping.mem_of_find? hfound
    obtain ⟨f, hf⟩ := hblanks _ hmem
    obtain ⟨-, rfl⟩ := Prod.mk.inj hf
    refine ⟨rfl, Mapping.find?_eq_none_iff.mpr fun p hp => ?_⟩
    -- the key that was left out is no second time in the rest
    obtain ⟨-, -, hacross⟩ := List.pairwise_append.mp (h.distinct.perm hperm)
    exact hacross _ hmem p hp key rfl

theorem Trims.filled_iff {α : Type} {reader : Value → Except String α} {default a : α}
    (h : Trims pairs rest) (key : String) :
    Filled reader default (Mapping.find? key pairs) a ↔
      Filled reader default (Mapping.find? key rest) a := by
  obtain heq | ⟨hblank, homitted⟩ := h.found key
  · rw [heq]
  · rw [hblank, homitted]
    exact Filled.blank_iff

/-- What is left describes the same resources. -/
theorem Trims.describes_iff (h : Trims pairs rest) :
    Describes m title pairs r ↔ Describes m title rest r := by
  have hkeys : (∀ p ∈ pairs, ∃ f : Field, p.1 = .text f.name) ↔
      ∀ p ∈ rest, ∃ f : Field, p.1 = .text f.name := by
    obtain ⟨blanks, hperm, hblanks⟩ := h.parts
    constructor
    · intro hall p hp
      exact hall p (hperm.mem_iff.mpr (List.mem_append_right _ hp))
    · intro hrest p hp
      rcases List.mem_append.mp (hperm.mem_iff.mp hp) with hp | hp
      · obtain ⟨f, rfl⟩ := hblanks p hp
        exact ⟨f, rfl⟩
      · exact hrest p hp
  constructor
  · intro hd
    obtain ⟨u, g, huser, hgroup, howner, hownerGroup⟩ := hd.owners
    exact ⟨hkeys.mp hd.keys, (h.filled_iff _).mp hd.path, (h.filled_iff _).mp hd.mode,
      ⟨u, g, huser, hgroup, (h.filled_iff _).mp howner, (h.filled_iff _).mp hownerGroup⟩,
      (h.filled_iff _).mp hd.source, (h.filled_iff _).mp hd.want, hd.title⟩
  · intro hd
    obtain ⟨u, g, huser, hgroup, howner, hownerGroup⟩ := hd.owners
    exact ⟨hkeys.mpr hd.keys, (h.filled_iff _).mpr hd.path, (h.filled_iff _).mpr hd.mode,
      ⟨u, g, huser, hgroup, (h.filled_iff _).mpr howner, (h.filled_iff _).mpr hownerGroup⟩,
      (h.filled_iff _).mpr hd.source, (h.filled_iff _).mpr hd.want, hd.title⟩

/-- **What is declared goes over what holds by default.**  A resource is built exactly if it is what the
    declaration describes, field by field, and its path is not empty; no declaration at all is an empty one.
    What is built is a file of the title, with a path, a mode in range and a wish that can be met.  Fields
    without a value may be left out and keys put in any order: it changes neither whether a resource is
    built nor which. -/
theorem build_overrides_defaults (m : Machine) (title : String) :
    (∀ pairs r, build m title (.mapping pairs) = .ok r ↔ Describes m title pairs r ∧ r.path ≠ "") ∧
    build m title .null = build m title (.mapping []) ∧
    (∀ data r, build m title data = .ok r →
      r.title = title ∧ r.id = "file[" ++ title ++ "]" ∧ r.path ≠ "" ∧
      (0 ≤ r.mode ∧ r.mode ≤ 0o7777) ∧ (r.want = .present ∨ r.want = .absent)) ∧
    ∀ pairs rest, Trims pairs rest →
      ∀ r, build m title (.mapping pairs) = .ok r ↔ build m title (.mapping rest) = .ok r := by
  refine ⟨fun pairs r => build_ok_iff, rfl, ?_, ?_⟩
  · intro data r h
    obtain ⟨hpath, hmode, hwant⟩ := build_ok h
    have htitle := title_of_build h
    refine ⟨htitle, ?_, hpath, hmode, ?_⟩
    · rw [id, htitle]
      rfl
    · cases hcase : r.want with
      | unknown => exact absurd hcase hwant
      | present => exact .inl rfl
      | absent => exact .inr rfl
  · intro pairs rest h r
    rw [build_ok_iff, build_ok_iff, h.describes_iff]

/-- A mode of zero and an empty owner are declared, a group without a value is not and may be left out, and
    the owner may come before the mode. -/
theorem zeroMode_built :
    Trims [(.text "group", .null), (.text "mode", .integer 0), (.text "owner", .text "")]
      [(.text "owner", .text ""), (.text "mode", .integer 0)] ∧
    build bare "/motd" (.mapping [(.text "owner", .text ""), (.text "mode", .integer 0)]) =
      .ok ⟨"/motd", "/motd", 0, "", "root", none, .present⟩ := by
  have htrims : Trims [(.text "group", .null), (.text "mode", .integer 0), (.text "owner", .text "")]
      [(.text "owner", .text ""), (.text "mode", .integer 0)] := by
    refine ⟨?_, [(.text "group", .null)], .cons _ (.swap _ _ _), ?_⟩
    · simp [Mapping.Distinct]
    · intro p hp
      exact ⟨.group, List.mem_singleton.mp hp⟩
  refine ⟨htrims, ((build_overrides_defaults bare "/motd").2.2.2 _ _ htrims _).mp ?_⟩
  rfl

end FileResource

end Converge
