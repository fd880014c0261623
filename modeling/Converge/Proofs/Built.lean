/-
  Converge.Proofs.Built
  ─────────────────────
  **WHAT HOLDS OF EVERY RESOURCE THAT IS BUILT.**

  Each field that is read keeps what the fields before it have, so a declaration that is accepted has
  its mode in range and names no existence but the two that can be declared.  The defaults fit too.

  Main results:
    * `sound_of_read` — what an accepted declaration holds;
    * `build_ok` — what a resource that was built holds.
-/
import Converge.FileResource.Basic

namespace Converge

open Converge.Machine

/-! ## §1. Declarations. -/

/-- A value in a slot was read from a declared one. -/
theorem Slot.read_eq_given {α : Type} {reader : Value → Except String α} {v : Option Value} {a : α}
    (h : read reader v = .ok (.given a)) : ∃ w, v = some w ∧ reader w = .ok a := by
  match v with
  | none => cases h
  | some w =>
    refine ⟨w, rfl, ?_⟩
    cases w
    case null => cases h
    all_goals
      simp only [read] at h
      cases hr : reader _ with
      | error e => simp [hr, Except.map] at h
      | ok b => simpa [hr, Except.map] using h

namespace Declaration

/-- The mode is in range, and the existence is one that can be declared. -/
structure Sound (d : Declaration) : Prop where
  mode : ∀ i, d.mode = .given i → 0 ≤ i ∧ i ≤ Field.maxMode
  state : d.state ≠ .given .unknown

theorem sound_empty : Sound {} where
  mode i h := by cases h
  state h := by cases h

theorem map_ok {α : Type} {x : Except String α} {f : α → Declaration} {d : Declaration}
    (h : x.map f = .ok d) : ∃ a, x = .ok a ∧ f a = d := by
  cases x with
  | error e => cases h
  | ok a =>
    cases h
    exact ⟨a, rfl, rfl⟩

/-- Reading a field keeps a declaration sound. -/
theorem sound_readField {d d' : Declaration} {f : Field} {v : Option Value} (hd : d.Sound)
    (h : d.readField f v = .ok d') : d'.Sound := by
  unfold readField at h
  cases f with
  | state =>
    obtain ⟨s, hs, rfl⟩ := map_ok h
    refine ⟨hd.mode, ?_⟩
    intro hunknown
    subst hunknown
    obtain ⟨w, -, hw⟩ := Slot.read_eq_given hs
    exact Field.readExistence_ne_unknown hw rfl
  | mode =>
    obtain ⟨s, hs, rfl⟩ := map_ok h
    refine ⟨?_, hd.state⟩
    intro i hi
    subst hi
    obtain ⟨w, -, hw⟩ := Slot.read_eq_given hs
    exact Field.readMode_range hw
  | path | owner | group | source =>
    obtain ⟨s, -, rfl⟩ := map_ok h
    exact ⟨hd.mode, hd.state⟩

theorem sound_field {pairs : Mapping} {r : Reading} (h : r.declaration.Sound) (f : Field) :
    (r.field pairs f).declaration.Sound := by
  unfold Reading.field
  cases hf : r.declaration.readField f (Mapping.find? f.name pairs) with
  | ok d => exact sound_readField h hf
  | error e => exact h

/-- A look at the keys leaves the declaration alone. -/
theorem declaration_key (schema : Schema) (r : Reading) (p : Value × Value) :
    (r.key schema p).declaration = r.declaration := by
  unfold Reading.key
  split <;> rfl

theorem declaration_keys (schema : Schema) (pairs : Mapping) (r : Reading) :
    (pairs.foldl (Reading.key schema) r).declaration = r.declaration := by
  induction pairs generalizing r with
  | nil => rfl
  | cons p rest ih => rw [List.foldl_cons, ih, declaration_key]

theorem sound_fields {pairs : Mapping} (fields : List Field) {r : Reading}
    (h : r.declaration.Sound) : (fields.foldl (Reading.field pairs) r).declaration.Sound := by
  induction fields generalizing r with
  | nil => exact h
  | cons f rest ih => exact ih (sound_field h f)

/-- **A declaration that is accepted is sound.** -/
theorem sound_of_read {schema : Schema} {id : String} {data : Value} {d : Declaration}
    (h : read schema id data = .ok d) : d.Sound := by
  -- a declaration with errors is refused, one without holds what its fields were read to
  have hpairs : ∀ pairs, (if (Reading.all schema pairs).errors.isEmpty then
      .ok (Reading.all schema pairs).declaration
      else .error (.declaration id (.badFields (Reading.all schema pairs).errors)) :
        Except Failure Declaration) = .ok d → d.Sound := by
    intro pairs hok
    split at hok
    · cases hok
      unfold Reading.all
      rw [declaration_keys]
      exact sound_fields _ sound_empty
    · cases hok
  cases data with
  | null => exact hpairs [] h
  | mapping pairs => exact hpairs pairs h
  | _ => cases h

end Declaration

/-! ## §2. Resources. -/

namespace FileResource

/-- **A resource that was built** has a path, a mode in range and a wish that can be met. -/
theorem build_ok {m : Machine} {title : String} {data : Value} {r : FileResource}
    (h : build m title data = .ok r) :
    r.path ≠ "" ∧ (0 ≤ r.mode ∧ r.mode ≤ Field.maxMode) ∧ r.want ≠ .unknown := by
  unfold build at h
  simp only [bind, Except.bind] at h
  split at h
  · cases h
  split at h
  · cases h
  rename_i d hd
  have hsound := Declaration.sound_of_read hd
  split at h
  · cases h
  rename_i hpath
  cases h
  refine ⟨hpath, ?_, ?_⟩
  · -- what was declared is in range, and so is the default
    show 0 ≤ d.mode.getD defaultMode ∧ d.mode.getD defaultMode ≤ Field.maxMode
    cases hm : d.mode with
    | given i => exact hsound.mode i hm
    | omitted => exact ⟨by decide, by decide⟩
    | blank => exact ⟨by decide, by decide⟩
  · show d.state.getD .present ≠ .unknown
    cases hs : d.state with
    | given e =>
      intro hunknown
      subst hunknown
      exact hsound.state hs
    | omitted => exact Existence.noConfusion
    | blank => exact Existence.noConfusion

end FileResource

end Converge
