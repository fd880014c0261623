/-
  Converge.Proofs.Offences
  ────────────────────────
  **WHAT THE REFUSAL OF A DECLARATION NAMES.**

  A declaration offends by a key that names no field and by a value that does not fit its field.  All of it is
  reported at once, one entry for each name: the fields first, then the keys.  Two keys that are reported under
  one name share an entry.  So what is named is what offends, however much of it there is, and a declaration is
  refused exactly if something does.

  Main results:
    * `mem_names_report` — a report adds one name and keeps the others;
    * `readField_ok_iff` — which values fit which field;
    * `mem_names_all_iff` — what reading all of a declaration reports;
    * `refusal_names_offences` — what a refusal names and says.
-/
import Mathlib.Tactic.Tauto
import Converge.Proofs.OctalModes

namespace Converge

open Converge.Number Converge.Text

/-! ## §1. Values that fit. -/

namespace Field

variable {f : Field} {v : Value} {s : String} {i : Int}

/-- A value that is a text, as itself or as its bytes. -/
inductive IsText : Value → String → Prop where
  | text (s : String) : IsText (.text s) s
  | encoded {bs : List UInt8} {s : String} (utf8 : textOfBytes? bs = some s) : IsText (.bytes bs) s

/-- A value that is a number of permission bits: a number without a fraction, a text that spells an integer
    in base 8, or the bytes of one that spells a decimal integer. -/
inductive IsBits : Value → Int → Prop where
  | integer (i : Int) : IsBits (.integer i) i
  | decimal {x : Binary64} {i : Int} (whole : x.toInt? = some i) : IsBits (.decimal x) i
  | octal {s : String} {i : Int} (spelled : Spells s i) : IsBits (.text s) i
  | encoded {bs : List UInt8} {s : String} {i : Int} (utf8 : textOfBytes? bs = some s)
      (spelled : decimalInteger? s = some i) : IsBits (.bytes bs) i

/-- A value that fits a field. -/
inductive Fits : Field → Value → Prop where
  /-- No value fits every field. -/
  | null (f : Field) : Fits f .null
  /-- An existence is one of the two that can be declared. -/
  | existence {v : Value} {s : String} (isText : IsText v s) (named : s = "present" ∨ s = "absent") :
      Fits .state v
  /-- A mode is in range. -/
  | mode {v : Value} {i : Int} (isBits : IsBits v i) (range : InRange i) : Fits .mode v
  /-- Everything else is a text. -/
  | text {f : Field} {v : Value} {s : String} (other : f ≠ .state ∧ f ≠ .mode) (isText : IsText v s) :
      Fits f v

theorem readText_ok_iff : readText v = .ok s ↔ IsText v s := by
  constructor
  · intro h
    cases v with
    | text s =>
      cases h
      exact .text s
    | bytes bs =>
      cases hs : textOfBytes? bs with
      | none => simp [readText, hs] at h
      | some t =>
        simp only [readText, hs, Except.ok.injEq] at h
        exact .encoded (h ▸ hs)
    | _ => cases h
  · rintro (_ | utf8)
    · rfl
    · simp [readText, utf8]

theorem ofName?_eq_some_iff {e : Existence} : Existence.ofName? s = some e ↔ s = e.name := by
  constructor
  · intro h
    unfold Existence.ofName? at h
    split at h
    · cases h
      assumption
    · split at h
      · cases h
        assumption
      · split at h
        · cases h
          assumption
        · cases h
  · rintro rfl
    exact Existence.ofName?_name e

/-- An existence that is named. -/
theorem namedExistence?_eq_some_iff {e : Existence} :
    namedExistence? v = some e ↔ IsText v e.name := by
  constructor
  · intro h
    cases v with
    | text s =>
      rw [ofName?_eq_some_iff.mp h]
      exact .text _
    | bytes bs =>
      obtain ⟨s, hs, hname⟩ := Option.bind_eq_some_iff.mp h
      rw [ofName?_eq_some_iff] at hname
      exact .encoded (hname ▸ hs)
    | _ => cases h
  · intro h
    generalize hname : e.name = s at h
    cases h with
    | text => exact ofName?_eq_some_iff.mpr hname.symm
    | encoded utf8 => exact Option.bind_eq_some_iff.mpr ⟨_, utf8, ofName?_eq_some_iff.mpr hname.symm⟩

theorem readExistence_ok_iff :
    (∃ e, readExistence v = .ok e) ↔ IsText v "present" ∨ IsText v "absent" := by
  have hpresent := namedExistence?_eq_some_iff (v := v) (e := .present)
  have habsent := namedExistence?_eq_some_iff (v := v) (e := .absent)
  simp only [Existence.name] at hpresent habsent
  rw [← hpresent, ← habsent]
  unfold readExistence
  cases hnamed : namedExistence? v with
  | none => simp
  | some e => cases e <;> simp

theorem isFinite_of_toInt? {x : Binary64} (h : x.toInt? = some i) : x.isFinite = true := by
  cases x with
  | finite negative m e => rfl
  | _ => cases h

theorem readWhole_decimal_ok_iff {x : Binary64} (hrange : InRange i) :
    readWhole (.decimal x) = .ok i ↔ x.toInt? = some i := by
  have hsmall : i.natAbs < Nat.pow 2 63 := by
    obtain ⟨hlow, hhigh⟩ := hrange
    norm_num
    omega
  delta readWhole
  dsimp only
  constructor
  · intro h
    split at h
    · cases h
    · cases hwhole : x.toInt? with
      | none =>
        rw [hwhole] at h
        cases h
      | some j =>
        rw [hwhole] at h
        dsimp only at h
        split at h
        · cases h
          rfl
        · cases h
  · intro h
    rw [isFinite_of_toInt? h, h]
    exact if_pos hsmall

theorem readWhole_bytes_ok_iff {bs : List UInt8} :
    readWhole (.bytes bs) = .ok i ↔ ∃ s, textOfBytes? bs = some s ∧ decimalInteger? s = some i := by
  rw [← Option.bind_eq_some_iff]
  delta readWhole
  dsimp only
  cases (textOfBytes? bs).bind decimalInteger? <;> simp

/-- A mode is a number of permission bits in range. -/
theorem readMode_ok_iff : readMode v = .ok i ↔ IsBits v i ∧ InRange i := by
  rw [readMode_eq_ok_iff]
  refine and_congr_left fun hrange => ?_
  constructor
  · intro h
    cases v with
    | text s => exact .octal (readWhole_text_ok_iff.mp h)
    | integer j =>
      cases h
      exact .integer i
    | decimal x => exact .decimal ((readWhole_decimal_ok_iff hrange).mp h)
    | bytes bs =>
      obtain ⟨s, hs, hspelled⟩ := readWhole_bytes_ok_iff.mp h
      exact .encoded hs hspelled
    | _ => cases h
  · rintro (_ | whole | spelled | ⟨utf8, spelled⟩)
    · rfl
    · exact (readWhole_decimal_ok_iff hrange).mpr whole
    · exact readWhole_text_ok_iff.mpr spelled
    · exact readWhole_bytes_ok_iff.mpr ⟨_, utf8, spelled⟩

theorem fits_state_iff : Fits .state v ↔ v = .null ∨ ∃ e, readExistence v = .ok e := by
  rw [readExistence_ok_iff]
  constructor
  · rintro (_ | ⟨h, rfl | rfl⟩ | _ | ⟨hother, -⟩)
    · exact .inl rfl
    · exact .inr (.inl h)
    · exact .inr (.inr h)
    · exact absurd rfl hother.1
  · rintro (rfl | h | h)
    · exact .null _
    · exact .existence h (.inl rfl)
    · exact .existence h (.inr rfl)

theorem fits_mode_iff : Fits .mode v ↔ v = .null ∨ ∃ i, readMode v = .ok i := by
  simp only [readMode_ok_iff]
  constructor
  · rintro (_ | _ | ⟨h, hrange⟩ | ⟨hother, -⟩)
    · exact .inl rfl
    · exact .inr ⟨_, h, hrange⟩
    · exact absurd rfl hother.2
  · rintro (rfl | ⟨i, h, hrange⟩)
    · exact .null _
    · exact .mode h hrange

theorem fits_text_iff (hother : f ≠ .state ∧ f ≠ .mode) :
    Fits f v ↔ v = .null ∨ ∃ s, readText v = .ok s := by
  simp only [readText_ok_iff]
  constructor
  · rintro (_ | _ | _ | ⟨-, h⟩)
    · exact .inl rfl
    · exact absurd rfl hother.1
    · exact absurd rfl hother.2
    · exact .inr ⟨_, h⟩
  · rintro (rfl | ⟨s, h⟩)
    · exact .null f
    · exact .text hother h

end Field

namespace Declaration

variable {pairs : Mapping} {errors : List (String × String)} {name message : String}

theorem slot_read_ok_iff {α : Type} {reader : Value → Except String α} {v : Option Value} :
    (∃ slot, Slot.read reader v = .ok slot) ↔ ∀ w, v = some w → w = .null ∨ ∃ a, reader w = .ok a := by
  cases v with
  | none => simp [Slot.read]
  | some v =>
    by_cases hnull : v = .null
    · subst hnull
      simp [Slot.read]
    · rw [Slot.read_of_ne_null hnull]
      cases hread : reader v <;> simp [Except.map, hnull, hread]

theorem exists_map_ok_iff {α β : Type} {x : Except String α} {g : α → β} :
    (∃ b, x.map g = .ok b) ↔ ∃ a, x = .ok a := by
  cases x <;> simp [Except.map]

/-- A field is read exactly if its value fits. -/
theorem readField_ok_iff (d : Declaration) (f : Field) (v : Option Value) :
    (∃ d', d.readField f v = .ok d') ↔ ∀ w, v = some w → Field.Fits f w := by
  cases f
  all_goals simp only [readField, exists_map_ok_iff, slot_read_ok_iff]
  case state => simp only [Field.fits_state_iff]
  case mode => simp only [Field.fits_mode_iff]
  all_goals
    refine forall₂_congr fun w _ => (Field.fits_text_iff ?_).symm
    exact ⟨by decide, by decide⟩

/-! ## §2. Reports. -/

/-- The names in a report. -/
def names (errors : List (String × String)) : List String := errors.map Prod.fst

/-- A report adds one name and keeps the others. -/
theorem mem_names_report {n : String} :
    n ∈ names (report errors name message) ↔ n = name ∨ n ∈ names errors := by
  induction errors with
  | nil => simp [report, names]
  | cons e errors ih =>
    unfold names at ih ⊢
    rw [report, List.map_cons, List.mem_cons]
    by_cases hname : e.1 = name
    · rw [if_pos hname, List.map_cons, List.mem_cons, ← hname]
      tauto
    · rw [if_neg hname, List.map_cons, List.mem_cons, ih]
      tauto

/-- No name is reported twice. -/
theorem nodup_names_report (h : (names errors).Nodup) :
    (names (report errors name message)).Nodup := by
  induction errors with
  | nil => simp [report, names]
  | cons e errors ih =>
    obtain ⟨hfresh, hrest⟩ := List.nodup_cons.mp h
    rw [report]
    by_cases hname : e.1 = name
    · rw [if_pos hname]
      exact List.nodup_cons.mpr ⟨hfresh, hrest⟩
    · rw [if_neg hname]
      refine List.nodup_cons.mpr ⟨fun hmem => ?_, ih hrest⟩
      exact (mem_names_report.mp hmem).elim hname hfresh

/-! ## §3. Offences. -/

/-- The name by which an unknown key is reported. -/
def reportedAs (key : String) : String := if key = "" then wholeDeclaration else key

/-- What is wrong with a declaration, by the name it is reported under. -/
inductive Offends (pairs : Mapping) : String → Prop where
  /-- A value that does not fit its field. -/
  | value {f : Field} {v : Value} (mem : (.text f.name, v) ∈ pairs) (unfit : ¬ Field.Fits f v) :
      Offends pairs f.name
  /-- A key that names no field. -/
  | key {k : String} {v : Value} (mem : (.text k, v) ∈ pairs) (unknown : ∀ f : Field, k ≠ f.name) :
      Offends pairs (reportedAs k)

/-- An unknown key is reported under no field's name, so a field is named only for its value. -/
theorem offends_field_iff {f : Field} :
    Offends pairs f.name ↔ ∃ v, (.text f.name, v) ∈ pairs ∧ ¬ Field.Fits f v := by
  constructor
  · intro h
    generalize hname : f.name = name at h
    cases h with
    | value mem unfit =>
      obtain rfl := Field.name_injective hname
      exact ⟨_, mem, unfit⟩
    | @key k v mem unknown =>
      exfalso
      by_cases hempty : k = ""
      · rw [reportedAs, if_pos hempty] at hname
        cases f <;> exact absurd hname (by decide)
      · rw [reportedAs, if_neg hempty] at hname
        exact unknown f hname.symm
  · rintro ⟨v, mem, unfit⟩
    exact .value mem unfit

/-- A field is reported exactly if its value does not fit. -/
theorem mem_names_field_iff (r : Reading) (f : Field) :
    name ∈ names (r.field pairs f).errors ↔ name ∈ names r.errors ∨
      name = f.name ∧ ∃ v, Mapping.find? f.name pairs = some v ∧ ¬ Field.Fits f v := by
  have hread := readField_ok_iff r.declaration f (Mapping.find? f.name pairs)
  unfold Reading.field
  cases hfield : r.declaration.readField f (Mapping.find? f.name pairs) with
  | ok d =>
    have hfits := hread.mp ⟨d, hfield⟩
    dsimp only
    constructor
    · exact .inl
    · rintro (h | ⟨-, v, hv, hunfit⟩)
      · exact h
      · exact absurd (hfits v hv) hunfit
  | error message =>
    have hunfit : ∃ v, Mapping.find? f.name pairs = some v ∧ ¬ Field.Fits f v := by
      by_contra hnone
      obtain ⟨d, hd⟩ := hread.mpr fun v hv => by_contra fun hunfit => hnone ⟨v, hv, hunfit⟩
      rw [hfield] at hd
      cases hd
    dsimp only
    rw [mem_names_report]
    tauto

/-- Reading fields reports those whose values do not fit. -/
theorem mem_names_fields_iff (fields : List Field) (r : Reading) :
    name ∈ names (fields.foldl (Reading.field pairs) r).errors ↔ name ∈ names r.errors ∨
      ∃ f ∈ fields, name = f.name ∧
        ∃ v, Mapping.find? f.name pairs = some v ∧ ¬ Field.Fits f v := by
  induction fields generalizing r with
  | nil => simp
  | cons f fields ih =>
    rw [List.foldl_cons, ih, mem_names_field_iff, or_assoc]
    simp only [List.mem_cons, exists_eq_or_imp]

/-- A key is reported exactly if something is said of it. -/
theorem mem_names_keys_iff {schema : Schema} (keys : Mapping) (r : Reading) :
    name ∈ names (keys.foldl (Reading.key schema) r).errors ↔ name ∈ names r.errors ∨
      ∃ p ∈ keys, ∃ message, keyError? schema p.1 = some (name, message) := by
  induction keys generalizing r with
  | nil => simp
  | cons p keys ih =>
    have hstep : name ∈ names (Reading.key schema r p).errors ↔
        name ∈ names r.errors ∨ ∃ message, keyError? schema p.1 = some (name, message) := by
      unfold Reading.key
      cases hkey : keyError? schema p.1 with
      | none => simp
      | some e =>
        dsimp only
        rw [mem_names_report]
        simp only [Option.some.injEq, Prod.ext_iff]
        constructor
        · rintro (rfl | h)
          · exact .inr ⟨e.2, rfl, rfl⟩
          · exact .inl h
        · rintro (h | ⟨message, h, -⟩)
          · exact .inr h
          · exact .inl h.symm
    rw [List.foldl_cons, ih, hstep, or_assoc]
    simp only [List.mem_cons, exists_eq_or_imp]

theorem nodup_names_field (r : Reading) (f : Field) (h : (names r.errors).Nodup) :
    (names (r.field pairs f).errors).Nodup := by
  unfold Reading.field
  cases r.declaration.readField f (Mapping.find? f.name pairs) with
  | ok d => exact h
  | error message => exact nodup_names_report h

theorem nodup_names_key {schema : Schema} (r : Reading) (p : Value × Value)
    (h : (names r.errors).Nodup) : (names (r.key schema p).errors).Nodup := by
  unfold Reading.key
  cases keyError? schema p.1 with
  | none => exact h
  | some e => exact nodup_names_report h

/-- However much is wrong, no name is reported twice. -/
theorem nodup_names_all (schema : Schema) (pairs : Mapping) :
    (names (Reading.all schema pairs).errors).Nodup := by
  have hfields (fields : List Field) (r : Reading) (h : (names r.errors).Nodup) :
      (names (fields.foldl (Reading.field pairs) r).errors).Nodup := by
    induction fields generalizing r with
    | nil => exact h
    | cons f fields ih => exact ih _ (nodup_names_field r f h)
  have hkeys (keys : Mapping) (r : Reading) (h : (names r.errors).Nodup) :
      (names (keys.foldl (Reading.key schema) r).errors).Nodup := by
    induction keys generalizing r with
    | nil => exact h
    | cons p keys ih => exact ih _ (nodup_names_key r p h)
  exact hkeys pairs _ (hfields schema.fields {} List.nodup_nil)

/-- Something is said of a text key exactly if it names no field. -/
theorem keyError?_text_iff {k : String} :
    (∃ message, keyError? .file (.text k) = some (name, message)) ↔
      (∀ f : Field, k ≠ f.name) ∧ name = reportedAs k := by
  have hnames : k ∈ Schema.file.fields.map Field.name ↔ ∃ f : Field, f.name = k := by
    rw [List.mem_map]
    exact ⟨fun ⟨f, _, hf⟩ => ⟨f, hf⟩, fun ⟨f, hf⟩ => ⟨f, mem_fields_file f, hf⟩⟩
  have hsaid : keyError? .file (.text k) =
      if k ∈ Schema.file.fields.map Field.name then none
      else some (reportedAs k, "Extra inputs are not permitted") := by
    simp only [keyError?, List.contains_eq_mem, decide_eq_true_eq, reportedAs]
  rw [hsaid]
  by_cases hknown : ∃ f : Field, f.name = k
  · obtain ⟨f, rfl⟩ := hknown
    rw [if_pos (hnames.mpr ⟨f, rfl⟩)]
    constructor
    · rintro ⟨message, ⟨⟩⟩
    · exact fun h => absurd rfl (h.1 f)
  · rw [if_neg fun h => hknown (hnames.mp h)]
    constructor
    · rintro ⟨message, heq⟩
      cases heq
      exact ⟨fun f hf => hknown ⟨f, hf.symm⟩, rfl⟩
    · rintro ⟨-, rfl⟩
      exact ⟨_, rfl⟩

/-- What is reported of a mapping with text keys is what offends in it. -/
theorem mem_names_all_iff (hkeys : ∀ p ∈ pairs, ∃ k, p.1 = .text k)
    (hdistinct : Mapping.Distinct pairs) :
    name ∈ names (Reading.all .file pairs).errors ↔ Offends pairs name := by
  rw [Reading.all, mem_names_keys_iff, mem_names_fields_iff]
  constructor
  · rintro ((hmem | ⟨f, -, rfl, v, hv, hunfit⟩) | ⟨p, hp, hsaid⟩)
    · cases hmem
    · exact .value (Mapping.mem_of_find? hv) hunfit
    · obtain ⟨k, hk⟩ := hkeys p hp
      rw [hk] at hsaid
      obtain ⟨hunknown, rfl⟩ := keyError?_text_iff.mp hsaid
      exact .key (v := p.2) (hk ▸ hp) hunknown
  · rintro (⟨hmem, hunfit⟩ | ⟨hmem, hunknown⟩)
    · rename_i f v
      have hv := (Mapping.find?_eq_some_iff hdistinct).mpr hmem
      exact .inl (.inr ⟨f, mem_fields_file f, rfl, v, hv, hunfit⟩)
    · exact .inr ⟨_, hmem, keyError?_text_iff.mpr ⟨hunknown, rfl⟩⟩

/-- **What the refusal of a declaration names.**  A declaration with text keys is refused exactly if
    something in it offends.  The refusal names what offends and nothing else, each name once and at least
    one, and a field only if its own value does not fit; and it says so behind the id, name by name. -/
theorem refusal_names_offences (id : String) (hkeys : ∀ p ∈ pairs, ∃ k, p.1 = .text k)
    (hdistinct : Mapping.Distinct pairs) :
    ((∃ failure, read .file id (.mapping pairs) = .error failure) ↔ ∃ name, Offends pairs name) ∧
    ∀ failure, read .file id (.mapping pairs) = .error failure → ∃ errors,
      failure = .declaration id (.badFields errors) ∧ errors ≠ [] ∧ (names errors).Nodup ∧
      (∀ name, name ∈ names errors ↔ Offends pairs name) ∧
      (∀ f : Field, f.name ∈ names errors ↔
        ∃ v, (.text f.name, v) ∈ pairs ∧ ¬ Field.Fits f v) ∧
      failure.message = id ++ ": " ++ ("declaración inválida (" ++
        "; ".intercalate (errors.map fun e => e.1 ++ ": " ++ e.2) ++ ")") := by
  have hnames (name : String) : name ∈ names (Reading.all .file pairs).errors ↔ Offends pairs name :=
    mem_names_all_iff hkeys hdistinct
  have hread : read .file id (.mapping pairs) =
      if (Reading.all .file pairs).errors.isEmpty then .ok (Reading.all .file pairs).declaration
      else .error (.declaration id (.badFields (Reading.all .file pairs).errors)) := rfl
  rw [hread]
  cases hall : (Reading.all .file pairs).errors with
  | nil =>
    rw [hall] at hnames
    refine ⟨⟨nofun, ?_⟩, nofun⟩
    rintro ⟨name, hoffends⟩
    cases (hnames name).mpr hoffends
  | cons e errors =>
    rw [hall] at hnames
    refine ⟨⟨fun _ => ⟨e.1, (hnames _).mp List.mem_cons_self⟩, fun _ => ⟨_, rfl⟩⟩, ?_⟩
    rintro _ ⟨⟩
    have hfields (f : Field) := (hnames f.name).trans offends_field_iff
    refine ⟨_, rfl, List.cons_ne_nil _ _, ?_, hnames, hfields, rfl⟩
    rw [← hall]
    exact nodup_names_all .file pairs

/-- A declaration with an unknown key, a mode that is a truth value, a key without a name, and an owner. -/
def gaudy : Mapping :=
  [(.text "colour", .text "red"), (.text "mode", .boolean true), (.text "", .integer 1),
    (.text "owner", .text "root")]

/-- The mode, the unknown key and the key without a name are named, and the owner is not. -/
theorem gaudy_refused :
    (∀ p ∈ gaudy, ∃ k, p.1 = .text k) ∧ Mapping.Distinct gaudy ∧
    ∃ errors, read .file "file[/motd]" (.mapping gaudy) =
        .error (.declaration "file[/motd]" (.badFields errors)) ∧
      names errors = ["mode", "colour", "<declaración>"] ∧
      ∀ name, Offends gaudy name ↔ name ∈ ["mode", "colour", "<declaración>"] := by
  have hkeys : ∀ p ∈ gaudy, ∃ k, p.1 = .text k := by simp [gaudy]
  have hdistinct : Mapping.Distinct gaudy := by simp [Mapping.Distinct, gaudy]
  have hread : read .file "file[/motd]" (.mapping gaudy) =
      .error (.declaration "file[/motd]" (.badFields
        [("mode", "Value error, el modo no puede ser booleano"),
          ("colour", "Extra inputs are not permitted"),
          ("<declaración>", "Extra inputs are not permitted")])) := rfl
  obtain ⟨errors, heq, -, -, hnames, -, -⟩ :=
    (refusal_names_offences "file[/motd]" hkeys hdistinct).2 _ hread
  cases heq
  exact ⟨hkeys, hdistinct, _, hread, rfl, fun name => (hnames name).symm⟩

end Declaration

end Converge
