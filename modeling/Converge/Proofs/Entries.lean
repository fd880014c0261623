/-
  Converge.Proofs.Entries
  ───────────────────────
  **WHICH DATA IS A MANIFEST.**

  A manifest is nothing, or a mapping with resources: none, or items that each name a kind and a title
  which no item before has named together.  Items are read one by one, each against those before it, so
  the first one that is at fault is the one that is reported, whatever comes after it.  But whether the
  resources are a list is asked only of what does not count as nothing: an empty text, a zero or an
  empty mapping passes for a manifest without resources.

  Main results:
    * `readItem_ok_iff`, `readItem_error_iff` — one item, against the items before it;
    * `readItems_ok_iff`, `readItems_error_iff` — all items, and the first one at fault;
    * `parsed_iff_grammatical_or_slips` — what is accepted, and what is reported of everything else.
-/
import Converge.Manifest.Entry
import Mathlib.Data.List.Forall2
import Mathlib.Data.List.Induction

namespace Converge.Manifest

variable {pairs : Mapping} {key text kind title : String} {before items : List Value} {item : Value}
  {seen entries : List ManifestEntry} {entry : ManifestEntry} {fault : ManifestFault}

/-! ## §1. Names of items. -/

/-- Under a key there is a text that is not empty. -/
def Gives (pairs : Mapping) (key text : String) : Prop :=
  Mapping.find? key pairs = some (.text text) ∧ text ≠ ""

/-- An item is a mapping that names a kind and a title. -/
def Names (item : Value) (kind title : String) : Prop :=
  ∃ pairs, item = .mapping pairs ∧ Gives pairs kindKey kind ∧ Gives pairs titleKey title

theorem Gives.unique {text' : String} (h : Gives pairs key text) (h' : Gives pairs key text') :
    text' = text := by
  have hsame := h'.1.symm.trans h.1
  cases hsame
  rfl

theorem Names.unique {kind' title' : String} (h : Names item kind title)
    (h' : Names item kind' title') : kind' = kind ∧ title' = title := by
  obtain ⟨pairs, rfl, hkind, htitle⟩ := h
  obtain ⟨pairs', heq, hkind', htitle'⟩ := h'
  cases heq
  exact ⟨hkind.unique hkind', htitle.unique htitle'⟩

theorem requiredText?_eq_some_iff : requiredText? key pairs = some text ↔ Gives pairs key text := by
  unfold requiredText? Gives
  cases hfound : Mapping.find? key pairs with
  | none => simp
  | some v =>
    cases v with
    | text s =>
      by_cases hs : s = ""
      · subst hs
        simp only [if_true, reduceCtorEq, false_iff, Option.some.injEq, Value.text.injEq]
        intro hgives
        exact hgives.2 hgives.1.symm
      · simp only [if_neg hs, Option.some.injEq, Value.text.injEq]
        constructor
        · intro heq
          subst heq
          exact ⟨rfl, hs⟩
        · exact fun hgives => hgives.1
    | _ => simp

theorem requiredText?_eq_none_iff :
    requiredText? key pairs = none ↔ ∀ text, ¬ Gives pairs key text := by
  simp only [← requiredText?_eq_some_iff, Option.eq_none_iff_forall_ne_some, ne_eq]

/-! ## §2. One item. -/

/-- An entry is what an item says: its kind, its title, and everything else as the declaration. -/
def Reads (item : Value) (entry : ManifestEntry) : Prop :=
  ∃ pairs, item = .mapping pairs ∧ Gives pairs kindKey entry.kind ∧
    Gives pairs titleKey entry.title ∧
    entry.declaration = Mapping.without [kindKey, titleKey] pairs

/-- What is wrong with an item that comes after others. -/
inductive ItemFault (before : List Value) : Value → ManifestFault → Prop where
  | notMapping {item : Value} (shape : ∀ pairs, item ≠ .mapping pairs) :
      ItemFault before item (.itemNotMapping before.length)
  | kindless {pairs : Mapping} (missing : ∀ text, ¬ Gives pairs kindKey text) :
      ItemFault before (.mapping pairs) (.itemWithout before.length kindKey)
  | untitled {pairs : Mapping} {kind : String} (given : Gives pairs kindKey kind)
      (missing : ∀ text, ¬ Gives pairs titleKey text) :
      ItemFault before (.mapping pairs) (.itemWithout before.length titleKey)
  /-- An item before it has the same names. -/
  | repeated {item earlier : Value} {kind title : String} (names : Names item kind title)
      (isBefore : earlier ∈ before) (same : Names earlier kind title) :
      ItemFault before item (.duplicate kind title)

theorem Reads.names (h : Reads item entry) : Names item entry.kind entry.title := by
  obtain ⟨pairs, hitem, hkind, htitle, -⟩ := h
  exact ⟨pairs, hitem, hkind, htitle⟩

/-- An item is read in one way. -/
theorem reads_rightUnique : Relator.RightUnique Reads := by
  intro item entry entry' h h'
  obtain ⟨kind, title, declaration⟩ := entry
  obtain ⟨kind', title', declaration'⟩ := entry'
  obtain ⟨pairs, rfl, hkind, htitle, hdeclaration⟩ := h
  obtain ⟨pairs', heq, hkind', htitle', hdeclaration'⟩ := h'
  cases heq
  obtain rfl := hkind.unique hkind'
  obtain rfl := htitle.unique htitle'
  rw [ManifestEntry.mk.injEq]
  exact ⟨rfl, rfl, hdeclaration.trans hdeclaration'.symm⟩

/-- The entries before an item have the names of the items that they were read from. -/
theorem any_seen_iff (h : List.Forall₂ Reads before seen) :
    (seen.any fun e => e.kind == kind && e.title == title) = true ↔
      ∃ earlier ∈ before, Names earlier kind title := by
  induction h with
  | nil => simp
  | @cons earlier e before seen hreads hrest ih =>
    rw [List.any_cons, Bool.or_eq_true, ih, Bool.and_eq_true, beq_iff_eq, beq_iff_eq]
    simp only [List.mem_cons, exists_eq_or_imp]
    refine or_congr_left ?_
    constructor
    · intro hsame
      obtain ⟨rfl, rfl⟩ := hsame
      exact hreads.names
    · intro hnames
      exact hnames.unique hreads.names

/-- An item that names a kind and a title is read unless an entry has the same names. -/
theorem readItem_of_names {index : Nat} (hkind : Gives pairs kindKey kind)
    (htitle : Gives pairs titleKey title) :
    readItem seen index (.mapping pairs) =
      if seen.any fun e => e.kind == kind && e.title == title then .error (.duplicate kind title)
      else .ok ⟨kind, title, Mapping.without [kindKey, titleKey] pairs⟩ := by
  rw [← requiredText?_eq_some_iff] at hkind htitle
  simp only [readItem, hkind, htitle]

/-- No item before has the names of an entry. -/
def Fresh (before : List Value) (entry : ManifestEntry) : Prop :=
  ∀ earlier ∈ before, ¬ Names earlier entry.kind entry.title

theorem Reads.read (h : List.Forall₂ Reads before seen) (hreads : Reads item entry)
    (hfresh : Fresh before entry) : readItem seen seen.length item = .ok entry := by
  obtain ⟨pairs, rfl, hkind, htitle, hdeclaration⟩ := hreads
  have hnew : ¬ (seen.any fun e => e.kind == entry.kind && e.title == entry.title) = true := by
    rw [any_seen_iff h]
    intro hseen
    obtain ⟨earlier, hearlier, hnames⟩ := hseen
    exact hfresh earlier hearlier hnames
  rw [readItem_of_names hkind htitle, if_neg hnew, ← hdeclaration]

theorem ItemFault.reported (h : List.Forall₂ Reads before seen) (hfault : ItemFault before item fault) :
    readItem seen seen.length item = .error fault := by
  -- items are counted by the entries that were read from them
  have hcount : seen.length = before.length := h.length_eq.symm
  cases hfault with
  | notMapping shape =>
    rw [hcount]
    unfold readItem
    split
    · exact absurd rfl (shape _)
    · rfl
  | kindless missing =>
    rw [← requiredText?_eq_none_iff] at missing
    simp only [readItem, missing, hcount]
  | untitled given missing =>
    rw [← requiredText?_eq_none_iff] at missing
    rw [← requiredText?_eq_some_iff] at given
    simp only [readItem, given, missing, hcount]
  | repeated names isBefore same =>
    obtain ⟨pairs, rfl, hkind, htitle⟩ := names
    rw [readItem_of_names hkind htitle, if_pos ((any_seen_iff h).mpr ⟨_, isBefore, same⟩)]

/-- An item gives an entry that is new, or is at fault. -/
theorem fresh_or_faulty (before : List Value) (item : Value) :
    (∃ entry, Reads item entry ∧ Fresh before entry) ∨ ∃ fault, ItemFault before item fault := by
  by_cases hshape : ∀ pairs, item ≠ .mapping pairs
  · exact Or.inr ⟨_, .notMapping hshape⟩
  push Not at hshape
  obtain ⟨pairs, rfl⟩ := hshape
  by_cases hkind : ∀ text, ¬ Gives pairs kindKey text
  · exact Or.inr ⟨_, .kindless hkind⟩
  push Not at hkind
  obtain ⟨kind, hkind⟩ := hkind
  by_cases htitle : ∀ text, ¬ Gives pairs titleKey text
  · exact Or.inr ⟨_, .untitled hkind htitle⟩
  push Not at htitle
  obtain ⟨title, htitle⟩ := htitle
  by_cases hseen : ∃ earlier ∈ before, Names earlier kind title
  · obtain ⟨earlier, hearlier, hsame⟩ := hseen
    exact Or.inr ⟨_, .repeated ⟨pairs, rfl, hkind, htitle⟩ hearlier hsame⟩
  · refine Or.inl ⟨⟨kind, title, Mapping.without [kindKey, titleKey] pairs⟩,
      ⟨pairs, rfl, hkind, htitle, rfl⟩, ?_⟩
    intro earlier hearlier hsame
    exact hseen ⟨earlier, hearlier, hsame⟩

/-- **An item is read** if it names a kind and a title which no item before it has named together. -/
theorem readItem_ok_iff (h : List.Forall₂ Reads before seen) :
    readItem seen seen.length item = .ok entry ↔ Reads item entry ∧ Fresh before entry := by
  refine ⟨?_, fun hentry => hentry.1.read h hentry.2⟩
  intro hread
  obtain ⟨entry', hreads, hfresh⟩ | ⟨fault, hfault⟩ := fresh_or_faulty before item
  · cases hread.symm.trans (hreads.read h hfresh)
    exact ⟨hreads, hfresh⟩
  · cases hread.symm.trans (hfault.reported h)

/-- **An item is at fault** in one way, which is the one that is reported. -/
theorem readItem_error_iff (h : List.Forall₂ Reads before seen) :
    readItem seen seen.length item = .error fault ↔ ItemFault before item fault := by
  refine ⟨?_, fun hfault => hfault.reported h⟩
  intro hread
  obtain ⟨entry, hreads, hfresh⟩ | ⟨fault', hfault⟩ := fresh_or_faulty before item
  · cases hread.symm.trans (hreads.read h hfresh)
  · cases hread.symm.trans (hfault.reported h)
    exact hfault

/-! ## §3. All items. -/

/-- Every item names a kind and a title, and no two name the same. -/
structure WellFormed (items : List Value) : Prop where
  named : ∀ item ∈ items, ∃ kind title, Names item kind title
  distinct : items.Pairwise fun a b => ∀ kind title, Names a kind title → ¬ Names b kind title

theorem WellFormed.nil : WellFormed [] :=
  ⟨nofun, .nil⟩

/-- What one more item must be: named, and unlike every item before it. -/
theorem wellFormed_concat_iff :
    WellFormed (before ++ [item]) ↔ WellFormed before ∧
      ∃ kind title, Names item kind title ∧ ∀ earlier ∈ before, ¬ Names earlier kind title := by
  constructor
  · intro h
    obtain ⟨hbefore, -, hapart⟩ := List.pairwise_append.mp h.distinct
    obtain ⟨kind, title, hnames⟩ := h.named item (by simp)
    refine ⟨⟨fun a ha => h.named a (by simp [ha]), hbefore⟩, kind, title, hnames, ?_⟩
    intro earlier hearlier hsame
    exact hapart earlier hearlier item (by simp) kind title hsame hnames
  · rintro ⟨hbefore, kind, title, hnames, hfresh⟩
    refine ⟨?_, List.pairwise_append.mpr ⟨hbefore.distinct, List.pairwise_singleton _ _, ?_⟩⟩
    · intro a ha
      rcases List.mem_append.mp ha with ha | ha
      · exact hbefore.named a ha
      · exact ⟨kind, title, List.mem_singleton.mp ha ▸ hnames⟩
    · intro earlier hearlier a ha kind' title' hsame ha'
      obtain rfl := List.mem_singleton.mp ha
      obtain ⟨rfl, rfl⟩ := hnames.unique ha'
      exact hfresh earlier hearlier hsame

theorem Names.exists_reads (h : Names item kind title) :
    ∃ entry : ManifestEntry, Reads item entry ∧ entry.kind = kind ∧ entry.title = title := by
  obtain ⟨pairs, rfl, hkind, htitle⟩ := h
  exact ⟨⟨kind, title, Mapping.without [kindKey, titleKey] pairs⟩, ⟨pairs, rfl, hkind, htitle, rfl⟩,
    rfl, rfl⟩

/-- After a fault nothing is read any more. -/
theorem readItems_append_error (h : readItems seen before = .error fault) :
    readItems seen (before ++ items) = .error fault := by
  induction before generalizing seen with
  | nil => cases h
  | cons item rest ih =>
    simp only [readItems, List.cons_append] at h ⊢
    cases hitem : readItem seen seen.length item with
    | error e =>
      simp only [hitem] at h ⊢
      exact h
    | ok entry =>
      simp only [hitem] at h ⊢
      exact ih h

theorem readItems_concat (h : readItems [] items = .ok seen) :
    readItems [] (items ++ [item]) =
      (readItem seen seen.length item).map fun entry => seen ++ [entry] := by
  rw [readItems_append h]
  cases hitem : readItem seen seen.length item <;> simp only [readItems, hitem, Except.map]

/-- Well-formed items are read. -/
theorem WellFormed.read (h : WellFormed items) :
    ∃ entries, readItems [] items = .ok entries ∧ List.Forall₂ Reads items entries := by
  induction items using List.reverseRecOn with
  | nil => exact ⟨[], rfl, .nil⟩
  | append_singleton items item ih =>
    obtain ⟨hbefore, kind, title, hnames, hfresh⟩ := wellFormed_concat_iff.mp h
    obtain ⟨seen, hread, hreads⟩ := ih hbefore
    obtain ⟨entry, hentry, rfl, rfl⟩ := hnames.exists_reads
    refine ⟨seen ++ [entry], ?_, List.rel_append hreads (.cons hentry .nil)⟩
    rw [readItems_concat hread, (readItem_ok_iff hreads).mpr ⟨hentry, hfresh⟩]
    rfl

/-- What is read was well formed. -/
theorem reads_of_readItems (h : readItems [] items = .ok entries) :
    List.Forall₂ Reads items entries ∧ WellFormed items := by
  induction items using List.reverseRecOn generalizing entries with
  | nil =>
    cases h
    exact ⟨.nil, .nil⟩
  | append_singleton items item ih =>
    cases hread : readItems [] items with
    | error fault => cases (readItems_append_error hread).symm.trans h
    | ok seen =>
      rw [readItems_concat hread] at h
      obtain ⟨hreads, hbefore⟩ := ih hread
      cases hitem : readItem seen seen.length item with
      | error fault =>
        rw [hitem] at h
        cases h
      | ok entry =>
        rw [hitem] at h
        cases h
        obtain ⟨hentry, hfresh⟩ := (readItem_ok_iff hreads).mp hitem
        exact ⟨List.rel_append hreads (.cons hentry .nil),
          wellFormed_concat_iff.mpr ⟨hbefore, _, _, hentry.names, hfresh⟩⟩

/-- **Items are read** if they are well formed, each by itself and in order. -/
theorem readItems_ok_iff :
    readItems [] items = .ok entries ↔ List.Forall₂ Reads items entries ∧ WellFormed items := by
  refine ⟨reads_of_readItems, ?_⟩
  rintro ⟨hreads, hwell⟩
  obtain ⟨entries', hread, hreads'⟩ := hwell.read
  rw [hread, List.right_unique_forall₂' reads_rightUnique hreads' hreads]

/-- **The first item at fault is reported**, whatever comes after it. -/
theorem readItems_error_iff :
    readItems [] items = .error fault ↔
      ∃ before item after, items = before ++ item :: after ∧ WellFormed before ∧
        ItemFault before item fault := by
  constructor
  · intro h
    induction items using List.reverseRecOn with
    | nil => cases h
    | append_singleton items item ih =>
      cases hread : readItems [] items with
      | error fault' =>
        cases (readItems_append_error hread).symm.trans h
        obtain ⟨before, first, after, rfl, hbefore, hfault⟩ := ih hread
        exact ⟨before, first, after ++ [item], by simp, hbefore, hfault⟩
      | ok seen =>
        rw [readItems_concat hread] at h
        obtain ⟨hreads, hbefore⟩ := reads_of_readItems hread
        cases hitem : readItem seen seen.length item with
        | error fault' =>
          rw [hitem] at h
          cases h
          exact ⟨items, item, [], rfl, hbefore, (readItem_error_iff hreads).mp hitem⟩
        | ok entry =>
          rw [hitem] at h
          cases h
  · rintro ⟨before, item, after, rfl, hbefore, hfault⟩
    obtain ⟨seen, hread, hreads⟩ := hbefore.read
    rw [readItems_append hread, readItems, (readItem_error_iff hreads).mpr hfault]

/-! ## §4. Documents. -/

/-- A document that is a manifest: nothing, or a mapping whose resources are nothing or well-formed
    items. -/
inductive Grammatical : Value → Prop where
  | nothing : Grammatical .null
  | blank {pairs : Mapping} (found : Mapping.find? resourcesKey pairs = some .null) :
      Grammatical (.mapping pairs)
  | items {pairs : Mapping} {items : List Value}
      (found : Mapping.find? resourcesKey pairs = some (.list items)) (wellFormed : WellFormed items) :
      Grammatical (.mapping pairs)

/-- A mapping whose resources count as nothing although they are something else than a list: an empty text,
    a zero, false, an empty mapping. -/
def Slips (data : Value) : Prop :=
  ∃ pairs v, data = .mapping pairs ∧ Mapping.find? resourcesKey pairs = some v ∧
    v.isEmpty = true ∧ v ≠ .null ∧ ∀ items, v ≠ .list items

/-- What is wrong with a document. -/
inductive Misshapen : Value → ManifestFault → Prop where
  | noMapping {data : Value} (something : data ≠ .null) (shape : ∀ pairs, data ≠ .mapping pairs) :
      Misshapen data .noResources
  | noKey {pairs : Mapping} (missing : Mapping.find? resourcesKey pairs = none) :
      Misshapen (.mapping pairs) .noResources
  | noList {pairs : Mapping} {v : Value} (found : Mapping.find? resourcesKey pairs = some v)
      (something : v.isEmpty = false) (shape : ∀ items, v ≠ .list items) :
      Misshapen (.mapping pairs) .notAList
  /-- An item is at fault, and the items before it are not. -/
  | item {pairs : Mapping} {before after : List Value} {item : Value} {fault : ManifestFault}
      (found : Mapping.find? resourcesKey pairs = some (.list (before ++ item :: after)))
      (wellFormed : WellFormed before) (first : ItemFault before item fault) :
      Misshapen (.mapping pairs) fault

theorem readEntries_list (found : Mapping.find? resourcesKey pairs = some (.list items)) :
    readEntries (.mapping pairs) = readItems [] items := by
  simp only [readEntries, found]

theorem readEntries_unlisted {v : Value} (found : Mapping.find? resourcesKey pairs = some v)
    (shape : ∀ items, v ≠ .list items) :
    readEntries (.mapping pairs) = if v.isEmpty then .ok [] else .error .notAList := by
  simp only [readEntries, found]

theorem Grammatical.accepted {data : Value} (h : Grammatical data) :
    ∃ entries, readEntries data = .ok entries := by
  cases h with
  | nothing => exact ⟨[], rfl⟩
  | blank found => exact ⟨[], by rw [readEntries_unlisted found nofun]; rfl⟩
  | items found wellFormed =>
    obtain ⟨entries, hread, -⟩ := wellFormed.read
    exact ⟨entries, (readEntries_list found).trans hread⟩

theorem Slips.accepted {data : Value} (h : Slips data) : readEntries data = .ok [] := by
  obtain ⟨pairs, v, rfl, found, hempty, -, shape⟩ := h
  rw [readEntries_unlisted found shape, if_pos hempty]

theorem Misshapen.reported {data : Value} (h : Misshapen data fault) :
    readEntries data = .error fault := by
  cases h with
  | noMapping something shape =>
    unfold readEntries
    split
    · exact absurd rfl something
    · exact absurd rfl (shape _)
    · rfl
  | noKey missing => simp only [readEntries, missing]
  | noList found something shape =>
    rw [readEntries_unlisted found shape, something]
    rfl
  | item found wellFormed first =>
    rw [readEntries_list found]
    exact readItems_error_iff.mpr ⟨_, _, _, rfl, wellFormed, first⟩

/-- A document is a manifest, passes for one, or has something wrong with it. -/
theorem grammatical_or_slips_or_misshapen (data : Value) :
    Grammatical data ∨ Slips data ∨ ∃ fault, Misshapen data fault := by
  by_cases hnull : data = .null
  · exact .inl (hnull ▸ .nothing)
  by_cases hmapping : ∀ pairs, data ≠ .mapping pairs
  · exact .inr (.inr ⟨_, .noMapping hnull hmapping⟩)
  push Not at hmapping
  obtain ⟨pairs, rfl⟩ := hmapping
  cases found : Mapping.find? resourcesKey pairs with
  | none => exact .inr (.inr ⟨_, .noKey found⟩)
  | some v =>
    by_cases hlist : ∀ items, v ≠ .list items
    · cases hempty : v.isEmpty with
      | false => exact .inr (.inr ⟨_, .noList found hempty hlist⟩)
      | true =>
        by_cases hblank : v = .null
        · exact .inl (.blank (hblank ▸ found))
        · exact .inr (.inl ⟨pairs, v, rfl, found, hempty, hblank, hlist⟩)
    · push Not at hlist
      obtain ⟨items, rfl⟩ := hlist
      cases hread : readItems [] items with
      | ok entries => exact .inl (.items found (reads_of_readItems hread).2)
      | error fault =>
        obtain ⟨before, item, after, rfl, hbefore, hfault⟩ := readItems_error_iff.mp hread
        exact .inr (.inr ⟨fault, .item found hbefore hfault⟩)

/-- **What is accepted** are the manifests, and what slips through. -/
theorem readEntries_accepts_iff {data : Value} :
    (∃ entries, readEntries data = .ok entries) ↔ Grammatical data ∨ Slips data := by
  constructor
  · rintro ⟨entries, hread⟩
    obtain h | h | ⟨fault, h⟩ := grammatical_or_slips_or_misshapen data
    · exact .inl h
    · exact .inr h
    · cases h.reported.symm.trans hread
  · rintro (h | h)
    · exact h.accepted
    · exact ⟨[], h.accepted⟩

/-- **What is reported** of everything else is what is wrong with it. -/
theorem readEntries_error_iff {data : Value} :
    readEntries data = .error fault ↔ Misshapen data fault := by
  refine ⟨?_, Misshapen.reported⟩
  intro hread
  obtain h | h | ⟨fault', h⟩ := grammatical_or_slips_or_misshapen data
  · obtain ⟨entries, haccepted⟩ := h.accepted
    cases haccepted.symm.trans hread
  · cases h.accepted.symm.trans hread
  · cases h.reported.symm.trans hread
    exact h

theorem Slips.not_grammatical {data : Value} (h : Slips data) : ¬ Grammatical data := by
  obtain ⟨pairs, v, rfl, found, -, hnull, shape⟩ := h
  intro hgrammatical
  cases hgrammatical with
  | blank found' => exact hnull (Option.some.inj (found.symm.trans found'))
  | items found' => exact shape _ (Option.some.inj (found.symm.trans found'))

/-- **A document is read exactly if it is a manifest or passes for one without resources**, although it is
    none.  Of any other one, what is wrong with it is reported as a fault of the configuration. -/
theorem parsed_iff_grammatical_or_slips (data : Value) (origin : String) :
    ((∃ entries, parseEntries data origin = .ok entries) ↔ Grammatical data ∨ Slips data) ∧
    (Slips data → ¬ Grammatical data ∧ parseEntries data origin = .ok []) ∧
    ∀ failure, parseEntries data origin = .error failure ↔
      ∃ fault, Misshapen data fault ∧ failure = .config (.misshapen origin fault) := by
  refine ⟨?_, ?_, ?_⟩
  · rw [← readEntries_accepts_iff]
    cases hread : readEntries data <;> simp [parseEntries, hread, Except.mapError]
  · intro h
    refine ⟨h.not_grammatical, ?_⟩
    rw [parseEntries, h.accepted]
    rfl
  · intro failure
    simp only [← readEntries_error_iff]
    cases hread : readEntries data <;> simp [parseEntries, hread, Except.mapError, eq_comm]

/-- An empty text is no list of resources, and is read as one without items. -/
theorem emptyText_parsed :
    parseEntries (.mapping [(.text "resources", .text "")]) unnamedOrigin = .ok [] ∧
      ¬ Grammatical (.mapping [(.text "resources", .text "")]) := by
  have hslips : Slips (.mapping [(.text "resources", .text "")]) :=
    ⟨_, .text "", rfl, rfl, rfl, nofun, nofun⟩
  refine ⟨?_, hslips.not_grammatical⟩
  rw [parseEntries, hslips.accepted]
  rfl

end Converge.Manifest
