/-
  Converge.Proofs.Writing
  ───────────────────────
  **ENTRIES THAT ARE WRITTEN DOWN AND READ AGAIN.**

  An entry is written as its declaration with the kind and the title put in anywhere.  Reading takes
  them out again, wherever they are, and leaves the rest in its order.  So a list of entries that no
  two items confuse is read back as it was, and what was read from any document is such a list: it can
  be written down in any way and is read the same.

  Main results:
    * `Placed.reads` — an entry is read from every item that is written for it;
    * `wellFormed_iff_of_reads` — items may stand together if their entries may;
    * `entries_written_and_read` — writing and reading undo each other.
-/
import Converge.Proofs.Entries
import Converge.Proofs.Pairs

namespace Converge.Manifest

open Mapping

/-! ## §1. Writing. -/

/-- Puts a pair in front of the one with a number, or at the end. -/
def putAt (n : Nat) (p : Value × Value) (pairs : Mapping) : Mapping :=
  pairs.take n ++ p :: pairs.drop n

/-- An entry, and where its kind and title are put when it is written. -/
structure Placed where
  entry : ManifestEntry
  /-- How many pairs of the declaration come before the kind. -/
  kindAt : Nat
  /-- How many pairs come before the title, the kind among them. -/
  titleAt : Nat

/-- The pairs of the item that is written for an entry. -/
def Placed.pairs (w : Placed) : Mapping :=
  putAt w.titleAt (.text titleKey, .text w.entry.title) <|
    putAt w.kindAt (.text kindKey, .text w.entry.kind) w.entry.declaration

/-- The document that is written for entries. -/
def write (ws : List Placed) : Value :=
  .mapping [(.text resourcesKey, .list (ws.map fun w => .mapping w.pairs))]

/-- The declaration of an entry holds neither of the keys that are kept for kind and title. -/
def Unreserved (entry : ManifestEntry) : Prop :=
  ∀ p ∈ entry.declaration, p.1 ≠ .text kindKey ∧ p.1 ≠ .text titleKey

/-- Entries that can be written: each is named, none holds a kept key, and no two have the same names. -/
structure Writable (entries : List ManifestEntry) : Prop where
  kind : ∀ entry ∈ entries, entry.kind ≠ ""
  title : ∀ entry ∈ entries, entry.title ≠ ""
  unreserved : ∀ entry ∈ entries, Unreserved entry
  distinct : entries.Pairwise fun a b => (a.kind, a.title) ≠ (b.kind, b.title)

/-! ## §2. A pair that is put in. -/

variable {pairs : Mapping} {p q : Value × Value} {key : String} {k v : Value} {n : Nat}
  {items : List Value} {item data : Value} {entries : List ManifestEntry} {entry : ManifestEntry}

/-- What is put in comes between two parts of what was there. -/
theorem exists_putAt (n : Nat) (p : Value × Value) (pairs : Mapping) :
    ∃ before after, pairs = before ++ after ∧ putAt n p pairs = before ++ p :: after :=
  ⟨pairs.take n, pairs.drop n, (List.take_append_drop n pairs).symm, rfl⟩

theorem mem_putAt : q ∈ putAt n p pairs ↔ q = p ∨ q ∈ pairs := by
  obtain ⟨before, after, rfl, hput⟩ := exists_putAt n p pairs
  rw [hput, List.mem_append, List.mem_cons, List.mem_append]
  exact or_left_comm

theorem find?_putAt_self (hnew : ∀ q ∈ pairs, q.1 ≠ .text key) :
    find? key (putAt n (.text key, v) pairs) = some v := by
  obtain ⟨before, after, rfl, hput⟩ := exists_putAt n (.text key, v) pairs
  have hbefore : find? key before = none :=
    find?_eq_none_iff.mpr fun q hq => hnew q (List.mem_append_left _ hq)
  rw [hput, find?_append, hbefore, Option.none_or, find?_cons_text, if_pos rfl]

theorem find?_putAt_of_ne (h : k ≠ .text key) :
    find? key (putAt n (k, v) pairs) = find? key pairs := by
  obtain ⟨before, after, rfl, hput⟩ := exists_putAt n (k, v) pairs
  rw [hput, find?_append, find?_cons_of_ne h, find?_append]

theorem without_putAt {keys : List String} (h : key ∈ keys) :
    without keys (putAt n (.text key, v) pairs) = without keys pairs := by
  obtain ⟨before, after, rfl, hput⟩ := exists_putAt n (.text key, v) pairs
  unfold without
  rw [hput, List.filter_append, List.filter_append,
    List.filter_cons_of_neg (by simpa [Value.isOneOf] using h)]

theorem proper_putAt_iff (hp : p.1 = .text key) (hnew : ∀ q ∈ pairs, q.1 ≠ .text key) :
    Proper (putAt n p pairs) ↔ Proper pairs := by
  obtain ⟨before, after, rfl, hput⟩ := exists_putAt n p pairs
  rw [hput]
  exact proper_middle_iff hp hnew

/-! ## §3. One item. -/

theorem isOneOf_reserved_iff :
    k.isOneOf [kindKey, titleKey] = false ↔ k ≠ .text kindKey ∧ k ≠ .text titleKey := by
  cases k <;> simp [Value.isOneOf]

/-- What is read of an item leaves out the kept keys. -/
theorem unreserved_without (h : entry.declaration = without [kindKey, titleKey] pairs) :
    Unreserved entry := by
  intro p hp
  rw [h] at hp
  exact isOneOf_reserved_iff.mp (by simpa using (List.mem_filter.mp hp).2)

theorem Unreserved.without (h : Unreserved entry) :
    Mapping.without [kindKey, titleKey] entry.declaration = entry.declaration := by
  refine List.filter_eq_self.mpr fun p hp => ?_
  rw [isOneOf_reserved_iff.mpr (h p hp)]
  rfl

namespace Placed

variable {w : Placed}

/-- The title is a new key beside the declaration and the kind. -/
theorem title_new (h : Unreserved w.entry) :
    ∀ q ∈ putAt w.kindAt (.text kindKey, .text w.entry.kind) w.entry.declaration,
      q.1 ≠ .text titleKey := by
  intro q hq
  rcases mem_putAt.mp hq with rfl | hq
  · exact fun heq => absurd (Value.text.inj heq) (by decide)
  · exact (h q hq).2

/-- **An entry is read from every item that is written for it.** -/
theorem reads (hkind : w.entry.kind ≠ "") (htitle : w.entry.title ≠ "") (h : Unreserved w.entry) :
    Reads (.mapping w.pairs) w.entry := by
  refine ⟨w.pairs, rfl, ⟨?_, hkind⟩, ⟨?_, htitle⟩, ?_⟩
  · have hother : Value.text titleKey ≠ .text kindKey :=
      fun heq => absurd (Value.text.inj heq) (by decide)
    rw [pairs, find?_putAt_of_ne hother]
    exact find?_putAt_self fun q hq => (h q hq).1
  · exact find?_putAt_self (title_new h)
  · rw [pairs, without_putAt (by simp), without_putAt (by simp), h.without]

/-- What is written is a mapping if the declaration is one. -/
theorem proper_iff (h : Unreserved w.entry) : Proper w.pairs ↔ Proper w.entry.declaration := by
  rw [pairs, proper_putAt_iff rfl (title_new h), proper_putAt_iff rfl fun q hq => (h q hq).1]

end Placed

/-! ## §4. All items. -/

/-- **Items may stand together if their entries may**: no two have the same names. -/
theorem wellFormed_iff_of_reads (h : List.Forall₂ Reads items entries) :
    WellFormed items ↔
      entries.Pairwise fun a b => (a.kind, a.title) ≠ (b.kind, b.title) := by
  induction h with
  | nil => exact ⟨fun _ => .nil, fun _ => .nil⟩
  | @cons item entry items entries hreads hrest ih =>
    have hsplit : WellFormed (item :: items) ↔
        (∀ later ∈ items, ¬ Names later entry.kind entry.title) ∧ WellFormed items := by
      constructor
      · intro hwell
        obtain ⟨hapart, hlater⟩ := List.pairwise_cons.mp hwell.distinct
        exact ⟨fun later hmem => hapart later hmem _ _ hreads.names,
          fun later hmem => hwell.named later (List.mem_cons_of_mem _ hmem), hlater⟩
      · rintro ⟨hapart, hwell⟩
        refine ⟨List.forall_mem_cons.mpr ⟨⟨_, _, hreads.names⟩, hwell.named⟩,
          List.pairwise_cons.mpr ⟨?_, hwell.distinct⟩⟩
        intro later hmem kind title hnames
        -- an item names its kind and title in one way
        obtain ⟨rfl, rfl⟩ := hreads.names.unique hnames
        exact hapart later hmem
    rw [hsplit, ih, List.pairwise_cons]
    refine and_congr_left fun _ => ?_
    have hsame : (entries.any fun e => e.kind == entry.kind && e.title == entry.title) = true ↔
        ∃ later ∈ items, Names later entry.kind entry.title := any_seen_iff hrest
    constructor
    · intro hapart later hmem heq
      obtain ⟨hkind, htitle⟩ := Prod.mk.inj heq
      have hany : (entries.any fun e => e.kind == entry.kind && e.title == entry.title) = true :=
        List.any_eq_true.mpr ⟨later, hmem, by simp [hkind, htitle]⟩
      obtain ⟨same, hsame, hnames⟩ := hsame.mp hany
      exact hapart same hsame hnames
    · intro hapart later hmem hnames
      obtain ⟨other, hother, hequal⟩ := List.any_eq_true.mp (hsame.mpr ⟨later, hmem, hnames⟩)
      simp only [Bool.and_eq_true, beq_iff_eq] at hequal
      exact hapart other hother (by rw [hequal.1, hequal.2])

/-- The items that a document lists. -/
def resourcesOf (data : Value) : List Value :=
  match data with
  | .mapping root =>
    match find? resourcesKey root with
    | some (.list items) => items
    | _ => []
  | _ => []

/-- What is read from a document is read from the items that it lists. -/
theorem readItems_resourcesOf (h : readEntries data = .ok entries) :
    readItems [] (resourcesOf data) = .ok entries := by
  cases data with
  | null => exact h
  | mapping root =>
    cases hfound : find? resourcesKey root with
    | none => simp only [readEntries, hfound, reduceCtorEq] at h
    | some v =>
      by_cases hlist : ∀ items, v ≠ .list items
      · -- something else than a list is accepted for none at all
        rw [readEntries_unlisted hfound hlist] at h
        have hnone : resourcesOf (.mapping root) = [] := by
          unfold resourcesOf
          dsimp only
          split
          · rename_i items hitems
            exact absurd (Option.some.inj (hfound.symm.trans hitems)) (hlist items)
          · rfl
        rw [hnone]
        split at h
        · exact h
        · cases h
      · push Not at hlist
        obtain ⟨items, rfl⟩ := hlist
        simpa only [resourcesOf, hfound] using (readEntries_list hfound).symm.trans h
  | _ => cases h

theorem reads_of_mem (h : List.Forall₂ Reads items entries) (hmem : entry ∈ entries) :
    ∃ item ∈ items, Reads item entry := by
  induction h with
  | nil => cases hmem
  | @cons item entry' items entries hreads hrest ih =>
    rcases List.mem_cons.mp hmem with rfl | hlater
    · exact ⟨item, List.mem_cons_self, hreads⟩
    · obtain ⟨later, hlater, hsame⟩ := ih hlater
      exact ⟨later, List.mem_cons_of_mem _ hlater, hsame⟩

/-- What was read can be written. -/
theorem Reads.writable (h : List.Forall₂ Reads items entries) (hwell : WellFormed items) :
    Writable entries := by
  refine ⟨?_, ?_, ?_, (wellFormed_iff_of_reads h).mp hwell⟩
  · intro entry hmem
    obtain ⟨item, -, pairs, -, hkind, -, -⟩ := reads_of_mem h hmem
    exact hkind.2
  · intro entry hmem
    obtain ⟨item, -, pairs, -, -, htitle, -⟩ := reads_of_mem h hmem
    exact htitle.2
  · intro entry hmem
    obtain ⟨item, -, pairs, -, -, -, hdeclaration⟩ := reads_of_mem h hmem
    exact unreserved_without hdeclaration

/-- A declaration that was read is a mapping if its item is one. -/
theorem Reads.proper (h : Reads item entry) (hitem : ∀ pairs, item = .mapping pairs → Proper pairs) :
    Proper entry.declaration := by
  obtain ⟨pairs, rfl, -, -, hdeclaration⟩ := h
  rw [hdeclaration]
  exact (hitem pairs rfl).sublist List.filter_sublist

/-- What is written for entries is read as these entries. -/
theorem Writable.read {ws : List Placed} (h : Writable (ws.map (·.entry))) (origin : String) :
    parseEntries (write ws) origin = .ok (ws.map (·.entry)) := by
  have hreads : List.Forall₂ Reads (ws.map fun w => .mapping w.pairs) (ws.map (·.entry)) := by
    rw [List.forall₂_map_left_iff, List.forall₂_map_right_iff, List.forall₂_same]
    intro w hw
    have hmem := List.mem_map_of_mem (f := Placed.entry) hw
    exact w.reads (h.kind _ hmem) (h.title _ hmem) (h.unreserved _ hmem)
  have hread : readEntries (write ws) = .ok (ws.map (·.entry)) := by
    rw [write, readEntries_list (by rw [find?_cons_text, if_pos rfl])]
    exact readItems_ok_iff.mpr ⟨hreads, (wellFormed_iff_of_reads hreads).mpr h.distinct⟩
  rw [parseEntries, hread]
  rfl

/-- **Writing and reading undo each other.**  Entries that are named, that hold no key that is kept, and no
    two of which have the same names, are read back as they were from whatever is written for them, which is
    made of mappings if they are.  What is read from any document are such entries: they are read again from
    whatever is written for them, and they are mappings if the document is made of them. -/
theorem entries_written_and_read (origin : String) :
    (∀ ws : List Placed, Writable (ws.map (·.entry)) →
      parseEntries (write ws) origin = .ok (ws.map (·.entry)) ∧
      ∀ w ∈ ws, Proper w.pairs ↔ Proper w.entry.declaration) ∧
    ∀ data entries, parseEntries data origin = .ok entries →
      Writable entries ∧
      (∀ ws : List Placed, ws.map (·.entry) = entries →
        parseEntries (write ws) origin = .ok entries) ∧
      ((∀ pairs, .mapping pairs ∈ resourcesOf data → Proper pairs) →
        ∀ entry ∈ entries, Proper entry.declaration) := by
  constructor
  · intro ws h
    refine ⟨h.read origin, ?_⟩
    intro w hw
    exact w.proper_iff (h.unreserved _ (List.mem_map_of_mem hw))
  · intro data entries h
    have hread : readEntries data = .ok entries := by
      cases hcase : readEntries data with
      | ok entries' =>
        rw [parseEntries, hcase] at h
        cases h
        rfl
      | error fault =>
        rw [parseEntries, hcase] at h
        cases h
    obtain ⟨hreads, hwell⟩ := readItems_ok_iff.mp (readItems_resourcesOf hread)
    have hwritable := Reads.writable hreads hwell
    refine ⟨hwritable, ?_, ?_⟩
    · rintro ws rfl
      exact hwritable.read origin
    · intro hproper entry hmem
      obtain ⟨item, hitem, hentry⟩ := reads_of_mem hreads hmem
      exact hentry.proper fun pairs heq => hproper pairs (heq ▸ hitem)

/-- Two kinds of one title, the first with its names among and before the pairs of its declaration. -/
def sharedTitle : List Placed :=
  [⟨⟨"file", "/motd", [(.text "mode", .integer 0o600), (.integer 1, .null)]⟩, 1, 0⟩,
    ⟨⟨"dir", "/motd", []⟩, 0, 1⟩]

/-- Both are read back, with what each declares in its order. -/
theorem sharedTitle_read :
    Writable (sharedTitle.map (·.entry)) ∧
    parseEntries (.mapping [(.text "resources", .list [
        .mapping [(.text "title", .text "/motd"), (.text "mode", .integer 0o600),
          (.text "type", .text "file"), (.integer 1, .null)],
        .mapping [(.text "type", .text "dir"), (.text "title", .text "/motd")]])]) unnamedOrigin =
      .ok [⟨"file", "/motd", [(.text "mode", .integer 0o600), (.integer 1, .null)]⟩,
        ⟨"dir", "/motd", []⟩] := by
  have hwritable : Writable (sharedTitle.map (·.entry)) := by
    refine ⟨?_, ?_, ?_, ?_⟩
    · simp [sharedTitle]
    · simp [sharedTitle]
    · simp [sharedTitle, Unreserved, kindKey, titleKey, -Prod.forall]
    · simp [sharedTitle]
  exact ⟨hwritable, ((entries_written_and_read unnamedOrigin).1 sharedTitle hwritable).1⟩

end Converge.Manifest
