/-
  Converge.Proofs.Catalogue
  ─────────────────────────
  **A REGISTRY IS A MAP IN WHICH THE FIRST REGISTRATION STAYS.**

  A registry keeps its kinds in the order of registration and shows them in the order of their names.
  Seen from outside it is a map from names to kinds: each answer to whatever is asked of it, in
  whatever order, is the one that such a map determines.

  Main results:
    * `Listing.unique` — a map has one listing in order;
    * `respond_simulates` — one question to a registry and to the map that it shows;
    * `registry_first_wins` — all questions to the empty registry and to the standard one.
-/
import Converge.Registry
import Mathlib.Data.List.Nodup

namespace Converge

open Converge.Machine

/-! ## §1. Questions and answers. -/

namespace Registry

/-- What can be asked of a registry. -/
inductive Inquiry where
  | register (k : Kind)
  | lookup (name : String)
  | build (m : Machine) (name title : String) (data : Value)
  | names
  | items
  /-- The kinds one by one. -/
  | iterate
  | contains (name : String)
  | size

/-- What a registry answers. -/
inductive Response where
  | registered (outcome : Except Failure Unit)
  | found (k : Option Kind)
  | built (outcome : Except Failure FileResource)
  | names (listed : List String)
  | kinds (listed : List Kind)
  | contained (yes : Bool)
  | size (n : Nat)

/-- The answer of a registry, and the registry after it. -/
def respond (r : Registry) : Inquiry → Response × Registry
  | .register k =>
    match r.register k with
    | .ok r' => (.registered (.ok ()), r')
    -- a refused registration leaves the registry as it is
    | .error f => (.registered (.error f), r)
  | .lookup name => (.found (r.lookup? name), r)
  | .build m name title data => (.built (r.build m name title data), r)
  | .names => (.names r.names, r)
  | .items => (.kinds r.items, r)
  | .iterate => (.kinds r.items, r)
  | .contains name => (.contained (r.contains name), r)
  | .size => (.size r.size, r)

theorem respond_of_registered {r r' : Registry} {k : Kind} (h : r.register k = .ok r') :
    r.respond (.register k) = (.registered (.ok ()), r') := by
  simp only [respond, h]

theorem respond_of_refused {r : Registry} {k : Kind} {f : Failure} (h : r.register k = .error f) :
    r.respond (.register k) = (.registered (.error f), r) := by
  simp only [respond, h]

/-- The answers to a list of questions. -/
def responses : Registry → List Inquiry → List Response
  | _, [] => []
  | r, q :: qs => (r.respond q).1 :: (r.respond q).2.responses qs

/-- The registry after a list of questions. -/
def afterAll : Registry → List Inquiry → Registry
  | r, [] => r
  | r, q :: qs => (r.respond q).2.afterAll qs

end Registry

/-! ## §2. The map. -/

/-- A map from names to kinds. -/
abbrev Catalogue := String → Option Kind

namespace Catalogue

open Registry

/-- The map that has no kind. -/
def empty : Catalogue := fun _ => none

/-- Enters a kind under its name, where nothing is entered yet. -/
def enter (c : Catalogue) (k : Kind) : Catalogue := fun name =>
  match c name with
  | some first => some first
  | none => if name = k.name then some k else none

/-- The map after a question. -/
def after (c : Catalogue) : Inquiry → Catalogue
  | .register k => c.enter k
  | _ => c

/-- Of two names the first one comes before, by the code points of their characters. -/
def Before (a b : String) : Prop :=
  List.Lex (fun x y : Char => x.toNat < y.toNat) a.toList b.toList

/-- The names of a map in increasing order. -/
structure Listing (c : Catalogue) (names : List String) : Prop where
  increasing : names.Pairwise Before
  complete : ∀ name, name ∈ names ↔ ∃ k, c name = some k

/-- What a map answers. -/
inductive Answers (c : Catalogue) : Inquiry → Response → Prop where
  | registered {k : Kind} (free : c k.name = none) :
      Answers c (.register k) (.registered (.ok ()))
  | refused {k first : Kind} (taken : c k.name = some first) :
      Answers c (.register k) (.registered (.error (.duplicateKind k.name)))
  | found (name : String) : Answers c (.lookup name) (.found (c name))
  | built {name : String} {k : Kind} (known : c name = some k) (m : Machine) (title : String)
      (data : Value) : Answers c (.build m name title data) (.built (k.build m title data))
  | unknown {name : String} {names : List String} (unknown : c name = none)
      (listed : c.Listing names) (m : Machine) (title : String) (data : Value) :
      Answers c (.build m name title data) (.built (.error (.config (.unknownKind name names))))
  | names {names : List String} (listed : c.Listing names) : Answers c .names (.names names)
  | items {names : List String} (listed : c.Listing names) :
      Answers c .items (.kinds (names.filterMap c))
  | iterate {names : List String} (listed : c.Listing names) :
      Answers c .iterate (.kinds (names.filterMap c))
  | contained (name : String) : Answers c (.contains name) (.contained (c name).isSome)
  | size {names : List String} (listed : c.Listing names) : Answers c .size (.size names.length)

/-- A list of answers is the map's, question by question. -/
inductive AnswersAll : Catalogue → List Inquiry → List Response → Prop where
  | nil {c : Catalogue} : AnswersAll c [] []
  | cons {c : Catalogue} {q : Inquiry} {a : Response} {qs : List Inquiry} {as : List Response}
      (first : c.Answers q a) (rest : AnswersAll (c.after q) qs as) :
      AnswersAll c (q :: qs) (a :: as)

variable {c : Catalogue} {k : Kind}

/-- A kind whose name is taken is not entered. -/
theorem enter_of_taken {first : Kind} (h : c k.name = some first) : c.enter k = c := by
  funext name
  unfold enter
  cases hname : c name with
  | some other => rfl
  | none =>
    have hne : name ≠ k.name := by
      intro heq
      rw [heq, h] at hname
      cases hname
    simp only [hne, if_false]

/-- The order of code points is the order of texts. -/
theorem before_iff {a b : String} : Before a b ↔ a < b := String.lt_iff.symm

/-- **A map has one listing.** -/
theorem Listing.unique {names names' : List String} (h : c.Listing names)
    (h' : c.Listing names') : names = names' := by
  have hnodup : ∀ {l : List String}, c.Listing l → l.Nodup := by
    intro l hl
    refine hl.increasing.imp ?_
    intro a b hab heq
    rw [before_iff, heq] at hab
    exact String.lt_irrefl _ hab
  have hperm : names.Perm names' := by
    rw [List.perm_ext_iff_of_nodup (hnodup h) (hnodup h')]
    intro name
    rw [h.complete, h'.complete]
  refine List.Perm.eq_of_pairwise ?_ h.increasing h'.increasing hperm
  intro a b _ _ hab hba
  rw [before_iff] at hab hba
  exact absurd (String.lt_trans hab hba) (String.lt_irrefl _)

/-- A map has one answer to each question. -/
theorem Answers.unique {q : Inquiry} {a a' : Response} (h : c.Answers q a) (h' : c.Answers q a') :
    a = a' := by
  cases h with
  | registered free =>
    cases h' with
    | registered => rfl
    | refused taken => rw [free] at taken; cases taken
  | refused taken =>
    cases h' with
    | registered free => rw [free] at taken; cases taken
    | refused => rfl
  | found => cases h'; rfl
  | built known =>
    cases h' with
    | built known' => rw [known] at known'; cases known'; rfl
    | unknown unknown => rw [known] at unknown; cases unknown
  | unknown unknown listed =>
    cases h' with
    | built known => rw [unknown] at known; cases known
    | unknown _ listed' => rw [listed.unique listed']
  | names listed => cases h' with | names listed' => rw [listed.unique listed']
  | items listed => cases h' with | items listed' => rw [listed.unique listed']
  | iterate listed => cases h' with | iterate listed' => rw [listed.unique listed']
  | contained => cases h'; rfl
  | size listed => cases h' with | size listed' => rw [listed.unique listed']

theorem AnswersAll.unique {qs : List Inquiry} {as as' : List Response} (h : c.AnswersAll qs as)
    (h' : c.AnswersAll qs as') : as = as' := by
  induction h generalizing as' with
  | nil => cases h'; rfl
  | cons first rest ih =>
    cases h' with
    | cons first' rest' => rw [first.unique first', ih rest']

end Catalogue

/-! ## §3. What a registry shows. -/

namespace Registry

variable {r r' : Registry} {c : Catalogue} {k : Kind} {name : String}

/-- The registry has each name once and finds what is entered in the map. -/
structure Shows (r : Registry) (c : Catalogue) : Prop where
  once : (r.kinds.map (·.name)).Nodup
  found : ∀ name, r.lookup? name = c name

theorem shows_empty : Shows {} Catalogue.empty := ⟨List.nodup_nil, fun _ => rfl⟩

theorem mem_names_iff : name ∈ r.names ↔ ∃ k, r.lookup? name = some k := by
  unfold names lookup?
  rw [(List.mergeSort_perm ..).mem_iff, ← Option.isSome_iff_exists, List.find?_isSome, List.mem_map]
  simp only [beq_iff_eq]

namespace Shows

/-- **The names of a registry are the listing of its map.** -/
theorem listing (h : r.Shows c) : c.Listing r.names where
  increasing := by
    have hsorted : r.names.Pairwise fun a b => decide (a ≤ b) = true := by
      refine List.pairwise_mergeSort ?_ ?_ _
      · intro x y z hxy hyz
        rw [decide_eq_true_eq] at hxy hyz ⊢
        exact String.le_trans hxy hyz
      · intro x y
        rw [Bool.or_eq_true, decide_eq_true_eq, decide_eq_true_eq]
        exact String.le_total x y
    have hnodup : r.names.Nodup := (List.mergeSort_perm ..).nodup_iff.mpr h.once
    refine (hsorted.and hnodup).imp ?_
    intro a b hab
    obtain ⟨hle, hne⟩ := hab
    rw [decide_eq_true_eq] at hle
    exact Catalogue.before_iff.mpr (Std.lt_of_le_of_ne hle hne)
  complete name := by rw [mem_names_iff, h.found]

theorem items (h : r.Shows c) : r.items = r.names.filterMap c := by
  unfold Registry.items
  rw [funext h.found]

theorem size (r : Registry) : r.size = r.names.length := by
  unfold Registry.size names
  rw [List.length_mergeSort, List.length_map]

/-- A kind whose name is free is registered, and entered. -/
theorem register (h : r.Shows c) (hfree : c k.name = none) :
    ∃ r', r.register k = .ok r' ∧ r'.Shows (c.enter k) := by
  have hnone : r.lookup? k.name = none := (h.found _).trans hfree
  refine ⟨⟨r.kinds ++ [k]⟩, ?_, ?_, ?_⟩
  · unfold Registry.register contains
    rw [hnone]
    rfl
  · -- a name that is not found is the name of no kind
    rw [List.map_append, List.map_singleton, ← List.concat_eq_append]
    refine h.once.concat ?_
    intro hmem
    obtain ⟨other, hother, hname⟩ := List.mem_map.mp hmem
    have hmiss := List.find?_eq_none.mp hnone other hother
    exact hmiss (by simpa using hname)
  · intro name
    unfold lookup? Catalogue.enter
    rw [List.find?_append, show r.kinds.find? (·.name == name) = c name from h.found name]
    cases c name with
    | some first => rfl
    | none =>
      by_cases hname : name = k.name
      · simp [hname]
      · simp [hname, Ne.symm hname]

/-- A kind whose name is taken is refused. -/
theorem refuse (h : r.Shows c) {first : Kind} (htaken : c k.name = some first) :
    r.register k = .error (.duplicateKind k.name) := by
  refine (register_eq_error_iff r k _).mpr ⟨?_, rfl⟩
  unfold contains
  rw [h.found, htaken]
  rfl

end Shows

/-- **One question**: the registry answers as the map does, and shows the map after it. -/
theorem respond_simulates (h : r.Shows c) (q : Inquiry) :
    c.Answers q (r.respond q).1 ∧ (r.respond q).2.Shows (c.after q) := by
  cases q with
  | register k =>
    show _ ∧ Shows _ (c.enter k)
    cases hname : c k.name with
    | none =>
      obtain ⟨r', hr', hshows⟩ := h.register hname
      rw [respond_of_registered hr']
      exact ⟨.registered hname, hshows⟩
    | some first =>
      rw [respond_of_refused (h.refuse hname), Catalogue.enter_of_taken hname]
      exact ⟨.refused hname, h⟩
  | lookup name =>
    refine ⟨?_, h⟩
    rw [show (r.respond (.lookup name)).1 = .found (r.lookup? name) from rfl, h.found]
    exact .found name
  | build m name title data =>
    refine ⟨?_, h⟩
    rw [show (r.respond (.build m name title data)).1 = .built (r.build m name title data) from rfl]
    unfold Registry.build
    rw [h.found]
    cases hname : c name with
    | none => exact .unknown hname h.listing m title data
    | some k => exact .built hname m title data
  | names => exact ⟨.names h.listing, h⟩
  | items =>
    refine ⟨?_, h⟩
    rw [show (r.respond .items).1 = .kinds r.items from rfl, h.items]
    exact .items h.listing
  | iterate =>
    refine ⟨?_, h⟩
    rw [show (r.respond .iterate).1 = .kinds r.items from rfl, h.items]
    exact .iterate h.listing
  | contains name =>
    refine ⟨?_, h⟩
    rw [show (r.respond (.contains name)).1 = .contained (r.lookup? name).isSome from rfl, h.found]
    exact .contained name
  | size =>
    refine ⟨?_, h⟩
    rw [show (r.respond .size).1 = .size r.size from rfl, Shows.size]
    exact .size h.listing

theorem responses_simulate (h : r.Shows c) (qs : List Inquiry) :
    c.AnswersAll qs (r.responses qs) := by
  induction qs generalizing r c with
  | nil => exact .nil
  | cons q qs ih =>
    obtain ⟨hfirst, hrest⟩ := respond_simulates h q
    exact .cons hfirst (ih hrest)

/-! ## §4. Questions that leave no trace. -/

/-- Only a registration that is accepted changes a registry. -/
theorem respond_silent {q : Inquiry} (h : (r.respond q).1 ≠ .registered (.ok ())) :
    (r.respond q).2 = r := by
  cases q with
  | register k =>
    cases hr : r.register k with
    | ok r' =>
      rw [respond_of_registered hr] at h
      exact absurd rfl h
    | error f => rw [respond_of_refused hr]
  | _ => rfl

theorem responses_length (r : Registry) (qs : List Inquiry) :
    (r.responses qs).length = qs.length := by
  induction qs generalizing r with
  | nil => rfl
  | cons q qs ih =>
    unfold responses
    rw [List.length_cons, ih, List.length_cons]

theorem responses_append (r : Registry) (qs qs' : List Inquiry) :
    r.responses (qs ++ qs') = r.responses qs ++ (r.afterAll qs).responses qs' := by
  induction qs generalizing r with
  | nil => rfl
  | cons q qs ih =>
    rw [List.cons_append]
    show (r.respond q).1 :: (r.respond q).2.responses (qs ++ qs') = _
    rw [ih]
    rfl

theorem afterAll_append (r : Registry) (qs qs' : List Inquiry) :
    r.afterAll (qs ++ qs') = (r.afterAll qs).afterAll qs' := by
  induction qs generalizing r with
  | nil => rfl
  | cons q qs ih => exact ih _

/-- What is found is found after every question. -/
theorem lookup?_respond (q : Inquiry) (h : r.lookup? name = some k) :
    (r.respond q).2.lookup? name = some k := by
  cases q with
  | register new =>
    cases hr : r.register new with
    | error f =>
      rw [respond_of_refused hr]
      exact h
    | ok r' =>
      rw [respond_of_registered hr]
      unfold Registry.register at hr
      split at hr
      · cases hr
      · cases hr
        unfold lookup? at h ⊢
        rw [List.find?_append, h]
        rfl
  | _ => exact h

theorem lookup?_afterAll (qs : List Inquiry) (h : r.lookup? name = some k) :
    (r.afterAll qs).lookup? name = some k := by
  induction qs generalizing r with
  | nil => exact h
  | cons q qs ih => exact ih (lookup?_respond q h)

/-! ## §5. The whole. -/

/-- The registry is the map `c`, to which names are only added. -/
structure FirstWins (r : Registry) (c : Catalogue) : Prop where
  /-- The answers to any questions are those of the map, and no others are. -/
  answers : ∀ qs as, as = r.responses qs ↔ c.AnswersAll qs as
  /-- A question that is no accepted registration can be left out; all other answers stay. -/
  silent : ∀ before q later, ((r.afterAll before).respond q).1 ≠ .registered (.ok ()) →
    (r.responses (before ++ q :: later)).eraseIdx before.length = r.responses (before ++ later)
  /-- What a name was first registered for, it stands for ever after. -/
  lasting : ∀ before later name k, (r.afterAll before).lookup? name = some k →
    (r.afterAll (before ++ later)).lookup? name = some k

theorem Shows.firstWins (h : r.Shows c) : r.FirstWins c where
  answers qs as := by
    constructor
    · intro heq
      subst heq
      exact responses_simulate h qs
    · intro hanswers
      exact hanswers.unique (responses_simulate h qs)
  silent before q later hsilent := by
    have hlength : before.length = (r.responses before).length := (responses_length r before).symm
    rw [responses_append, responses_append, hlength,
      List.eraseIdx_append_of_length_le (Nat.le_refl _), Nat.sub_self]
    show _ ++ ((r.afterAll before).respond q).2.responses later = _
    rw [respond_silent hsilent]
  lasting before later name k hfound := by
    rw [afterAll_append]
    exact lookup?_afterAll later hfound

/-- The standard registry is the empty one in which the kind of files was registered. -/
theorem shows_standard : standard.Shows (Catalogue.empty.enter FileResource.asKind) := by
  obtain ⟨r', hr', hshows⟩ := shows_empty.register (k := FileResource.asKind) rfl
  cases hr'
  exact hshows

/-- **The empty registry and the standard one are maps in which the first registration of a name
    stays**, whatever is asked of them and in whatever order. -/
theorem registry_first_wins :
    FirstWins {} Catalogue.empty ∧ standard.FirstWins (Catalogue.empty.enter FileResource.asKind) :=
  ⟨shows_empty.firstWins, shows_standard.firstWins⟩

/-- The kind of files cannot be registered a second time. -/
example : standard.responses [.register FileResource.asKind, .size] =
    [.registered (.error (.duplicateKind "file")), .size 1] := rfl

end Registry

end Converge
