/-
  Converge.Proofs.Preview
  ───────────────────────
  **A DRY RUN FORETELLS THE REAL ONE.**

  A dry run and a real run of one action start on one machine; as soon as the real run takes a step,
  their machines differ, but only in ways that nothing looked at later depends on: after a mode or an
  owner is set, contents and names of owners compare as before, and after a file is opened nothing is
  looked at any more.  So the two runs print the same steps and end alike, until the real run prints a
  step that the system refuses; there it breaks off.

  Main results:
    * `Previews` — the judgement on a dry run and a real one, with one rule for every way to build them;
    * `previews_act` — creating, mending and deleting;
    * `dry_run_foretells` — what that says about printed steps, results and failures.
-/
import Converge.Proofs.Containment
import Converge.Proofs.Retouch

namespace Converge.FileResource

open Converge.Machine Act

/-! ## §1. A dry run beside a real one. -/

/-- How a dry run and a real one may end, with the steps that each of them has printed. -/
inductive Beside (r : FileResource) {α : Type} (Q : α → Machine → Machine → Prop) :
    List String → Except Failure α × Session → List String → Except Failure α × Session → Prop where
  /-- Both give the same result, after the same steps. -/
  | done {said : List String} {x : α} {s s' : Session} (related : Q x s.machine s'.machine) :
      Beside r Q said (.ok x, s) said (.ok x, s')
  /-- Both fail alike, after the same steps. -/
  | failed {said : List String} {f : Failure} {s s' : Session} :
      Beside r Q said (.error f, s) said (.error f, s')
  /-- The real run broke off: the step that it printed last was refused. -/
  | brokeOff {shown front : List String} {message : String}
      {call : Machine → Except CallFailure Machine} {cause : CallFailure} {x : Except Failure α}
      {s s' : Session} (announced : r.Announces message call)
      (refused : call s'.machine = .error cause) (foreseen : front ++ [message] <+: shown) :
      Beside r Q shown (x, s) (front ++ [message]) (.error (.call cause), s')

/-- From sessions with related machines a dry run and a real one print steps and end beside each
    other. -/
structure Previews (r : FileResource) {α : Type} (P : Machine → Machine → Prop) (dry wet : Act α)
    (Q : α → Machine → Machine → Prop) : Prop where
  /-- The dry run prints nothing but steps, wherever it starts. -/
  tells : ∀ s, ∃ shown : List String,
    (perform dry s).2.transcript = s.transcript ++ shown.map (.progress true r.id)
  ends : ∀ s s', P s.machine s'.machine → ∃ shown said : List String,
    (perform dry s).2.transcript = s.transcript ++ shown.map (.progress true r.id) ∧
    (perform wet s').2.transcript = s'.transcript ++ said.map (.progress false r.id) ∧
    r.Beside Q shown (perform dry s) said (perform wet s')

variable {r : FileResource} {α β : Type}

/-- Steps that both have printed before are put in front. -/
theorem Beside.after {Q : α → Machine → Machine → Prop} {shown said : List String}
    {dry wet : Except Failure α × Session} (h : r.Beside Q shown dry said wet)
    (before : List String) : r.Beside Q (before ++ shown) dry (before ++ said) wet := by
  cases h with
  | done hq => exact .done hq
  | failed => exact .failed
  | brokeOff hcall hrefused hpre =>
    rw [← List.append_assoc]
    refine .brokeOff hcall hrefused ?_
    rw [List.append_assoc]
    exact (List.prefix_append_right_inj before).mpr hpre

/-- A failure that is about the input is met by both, since no step is refused for it. -/
theorem Beside.refused {Q : α → Machine → Machine → Prop} {shown said : List String}
    {dry wet : Except Failure α × Session} (h : r.Beside Q shown dry said wet) {f : Failure}
    (hwet : wet.1 = .error f) (habout : f.isAboutInput = true) : dry.1 = .error f := by
  cases h with
  | done => cases hwet
  | failed => exact hwet
  | brokeOff =>
    cases hwet
    cases habout

namespace Previews

variable {P : Machine → Machine → Prop} {Q : α → Machine → Machine → Prop}
  {R : β → Machine → Machine → Prop}

theorem pure (x : α) (h : ∀ m m', P m m' → Q x m m') : r.Previews P (pure x) (pure x) Q where
  tells s := ⟨[], by simp [perform_pure]⟩
  ends s s' hs := ⟨[], [], by simp [perform_pure], by simp [perform_pure], .done (h _ _ hs)⟩

/-- Both look, and see the same. -/
theorem observe {f : Machine → Except Failure α} (hsame : ∀ m m', P m m' → f m' = f m)
    (hok : ∀ m m' x, P m m' → f m = .ok x → Q x m m') : r.Previews P (observe f) (observe f) Q where
  tells s := ⟨[], by simp [perform_observe]⟩
  ends s s' hs := by
    refine ⟨[], [], by simp [perform_observe], by simp [perform_observe], ?_⟩
    rw [perform_observe, perform_observe, hsame _ _ hs]
    cases hf : f s.machine with
    | ok x => exact .done (hok _ _ x hs hf)
    | error e => exact .failed

/-- Both print a step; the real run takes it, if the system lets it. -/
theorem enact {S : Unit → Machine → Machine → Prop} {site : Option Path} {message : String}
    {call : Machine → Except CallFailure Machine} (announced : r.Announces message call)
    (h : ∀ m m' m'', P m m' → call m' = .ok m'' → S () m m'') :
    r.Previews P (r.enact ⟨true, site⟩ message call) (r.enact ⟨false, site⟩ message call) S where
  tells _ := ⟨[message], rfl⟩
  ends s s' hs := by
    have hwet : perform (r.enact ⟨false, site⟩ message call) s' = perform (change call)
        ⟨s'.machine, s'.transcript ++ [.progress false r.id message]⟩ := by
      unfold FileResource.enact progress take
      rw [perform_bind, perform_say]
      rfl
    rw [hwet, perform_change]
    cases hcall : call s'.machine with
    | ok m => exact ⟨[message], [message], rfl, rfl, .done (h _ _ _ hs hcall)⟩
    | error e =>
      have hbroke : r.Beside S [message] (perform (r.enact ⟨true, site⟩ message call) s)
          ([] ++ [message])
          (.error (.call e), ⟨s'.machine, s'.transcript ++ [.progress false r.id message]⟩) :=
        .brokeOff announced hcall (List.prefix_refl _)
      exact ⟨[message], [message], rfl, rfl, hbroke⟩

/-- Both print a word that no step follows. -/
theorem word {S : Unit → Machine → Machine → Prop} {site : Option Path} (message : String)
    (h : ∀ m m', P m m' → S () m m') :
    r.Previews P (r.progress ⟨true, site⟩ message) (r.progress ⟨false, site⟩ message) S where
  tells _ := ⟨[message], rfl⟩
  ends _ _ hs := ⟨[message], [message], rfl, rfl, .done (h _ _ hs)⟩

/-- After a part that ended alike in both runs they go on together; after the real run broke off, the
    dry run goes on alone. -/
theorem bind {dryA wetA : Act α} {dryB wetB : α → Act β} (ha : r.Previews P dryA wetA Q)
    (hb : ∀ x, r.Previews (Q x) (dryB x) (wetB x) R) :
    r.Previews P (dryA >>= dryB) (wetA >>= wetB) R where
  tells s := by
    obtain ⟨shown, hshown⟩ := ha.tells s
    rw [perform_bind]
    match hdry : perform dryA s with
    | (.error e, s₁) =>
      rw [hdry] at hshown
      exact ⟨shown, hshown⟩
    | (.ok x, s₁) =>
      rw [hdry] at hshown
      obtain ⟨more, hmore⟩ := (hb x).tells s₁
      exact ⟨shown ++ more, by rw [hmore, hshown, List.map_append, List.append_assoc]⟩
  ends s s' hs := by
    obtain ⟨shown, said, hshown, hsaid, hbeside⟩ := ha.ends s s' hs
    rw [perform_bind, perform_bind]
    generalize perform dryA s = dry at hshown hbeside ⊢
    generalize perform wetA s' = wet at hsaid hbeside ⊢
    cases hbeside with
    | @done x s₁ s₁' hq =>
      obtain ⟨shown', said', hshown', hsaid', hend⟩ := (hb x).ends s₁ s₁' hq
      refine ⟨shown ++ shown', shown ++ said', ?_, ?_, hend.after shown⟩
      · rw [hshown', hshown, List.map_append, List.append_assoc]
      · rw [hsaid', hsaid, List.map_append, List.append_assoc]
    | failed => exact ⟨shown, shown, hshown, hsaid, .failed⟩
    | @brokeOff front message call cause x s₁ s₁' hcall hrefused hpre =>
      -- whatever the dry run goes on to print, it has shown the refused step
      cases x with
      | error e => exact ⟨shown, _, hshown, hsaid, .brokeOff hcall hrefused hpre⟩
      | ok x =>
        obtain ⟨more, hmore⟩ := (hb x).tells s₁
        refine ⟨shown ++ more, _, ?_, hsaid, .brokeOff hcall hrefused ?_⟩
        · rw [hmore, hshown, List.map_append, List.append_assoc]
        · exact hpre.trans (List.prefix_append _ _)

end Previews

/-! ## §2. The actions. -/

section Actions

variable (r : FileResource) (site : Option Path)

/-- After the file is opened nothing is looked at, so what the steps make of the machine is all one. -/
theorem previews_create :
    r.Previews (fun m m' => m' = m) (r.create ⟨true, site⟩) (r.create ⟨false, site⟩)
      fun _ _ _ => True := by
  rw [create_eq_steps, create_eq_steps]
  refine Previews.bind (Q := fun _ _ _ => True)
    (Previews.observe (fun m m' h => by rw [h]) fun _ _ _ _ _ => trivial) fun ids => ?_
  refine Previews.bind (Q := fun _ _ _ => True)
    (Previews.enact .opening fun _ _ _ _ _ => trivial) fun _ => ?_
  refine Previews.bind (Q := fun _ _ _ => True)
    (Previews.enact (.owner ids.1 ids.2) fun _ _ _ _ _ => trivial) fun _ => ?_
  exact Previews.enact .mode fun _ _ _ _ _ => trivial

/-- Setting the mode and the owner leaves all that is looked at later as it was. -/
theorem previews_update :
    r.Previews (fun m m' => m' = m) (r.update ⟨true, site⟩) (r.update ⟨false, site⟩)
      fun _ => Retouched := by
  rw [update_eq, update_eq]
  have hstep : ∀ {message : String} {call : Machine → Except CallFailure Machine},
      r.Announces message call → (∀ m m', call m = .ok m' → Retouched m m') →
      r.Previews Retouched (r.enact ⟨true, site⟩ message call) (r.enact ⟨false, site⟩ message call)
        fun _ => Retouched := by
    intro message call announced hcall
    exact Previews.enact announced fun m m' m'' h hm => h.trans (hcall m' m'' hm)
  refine Previews.bind (Q := fun _ => Retouched) (Previews.observe (fun m m' h => by rw [h]) ?_)
    fun node => ?_
  · intro m m' _ h _
    rw [h]
    exact Retouched.refl m
  refine Previews.bind (Q := fun _ => Retouched) ?mode fun _ => ?_
  case mode =>
    rw [mendMode_eq, mendMode_eq]
    split
    · exact hstep .mode fun _ _ => Retouched.of_chmod
    · exact Previews.pure () fun _ _ h => h
  refine Previews.bind (Q := fun _ => Retouched) ?owner fun _ => ?content
  case owner =>
    refine Previews.bind (Q := fun _ => Retouched)
      (Previews.observe (fun _ _ h => r.ownerDifference_congr node h.accounts) fun _ _ _ h _ => h)
      fun owner => ?_
    split
    · rw [giveAway_eq, giveAway_eq]
      refine Previews.bind (Q := fun _ => Retouched)
        (Previews.observe (fun _ _ h => r.ownerIds_congr h.accounts) fun _ _ _ h _ => h) fun ids => ?_
      exact hstep (.owner ids.1 ids.2) fun _ _ => Retouched.of_chown
    · exact Previews.pure () fun _ _ h => h
  case content =>
    -- the site is the same, and it is all that the comparison of contents takes from the options
    have hsite : r.contentDifference ⟨true, site⟩ = r.contentDifference ⟨false, site⟩ := rfl
    unfold noteContent
    rw [hsite]
    refine Previews.bind (Q := fun _ => Retouched)
      (Previews.observe (fun _ _ h => r.contentDifference_retouched _ h) fun _ _ _ h _ => h)
      fun content => ?_
    cases content with
    | none => exact Previews.pure () fun _ _ h => h
    | some d => exact Previews.word _ fun _ _ h => h

theorem previews_delete :
    r.Previews (fun m m' => m' = m) (r.delete ⟨true, site⟩) (r.delete ⟨false, site⟩)
      fun _ _ _ => True := by
  rw [delete_eq, delete_eq]
  refine Previews.bind (Q := fun _ _ _ => True)
    (Previews.observe (fun m m' h => by rw [h]) fun _ _ _ _ _ => trivial) fun there => ?_
  split
  · exact Previews.enact .removal fun _ _ _ _ _ => trivial
  · exact Previews.pure () fun _ _ _ => trivial

/-- **Beside its dry run a real run of an action ends alike, or it breaks off at a step.** -/
theorem previews_act (a : Action) :
    ∃ Q, r.Previews (fun m m' => m' = m) (r.act ⟨true, site⟩ a) (r.act ⟨false, site⟩ a) Q := by
  cases a with
  | create => exact ⟨_, r.previews_create site⟩
  | update => exact ⟨_, r.previews_update site⟩
  | delete => exact ⟨_, r.previews_delete site⟩

end Actions

/-! ## §3. What the dry run foretells. -/

/-- What the steps that a dry run shows, and its end, say about a real run from one session. -/
structure Foretells (r : FileResource) (s : Session) (dry wet : Except Failure Unit × Session)
    (shown said : List String) : Prop where
  /-- The dry run prints the steps that it shows, and nothing else. -/
  dryPrints : dry.2.transcript = s.transcript ++ shown.map (.progress true r.id)
  /-- So does the real run with its own steps. -/
  wetPrints : wet.2.transcript = s.transcript ++ said.map (.progress false r.id)
  /-- The real run says no more than was shown. -/
  foreseen : said <+: shown
  /-- If it ends well, it has said all of it, and the dry run ends well, too. -/
  whole : wet.1 = .ok () → said = shown ∧ dry.1 = .ok ()
  /-- What it finds wrong with its input the dry run finds, too. -/
  refused : ∀ f, wet.1 = .error f → f.isAboutInput = true → dry.1 = .error f
  /-- Where the dry run fails the real run does, unless the system has refused it a step before. -/
  fails : ∀ f, dry.1 = .error f → wet.1 = .error f ∨
    ∃ front message call errno path, said = front ++ [message] ∧ r.Announces message call ∧
      call wet.2.machine = .error (.system errno path) ∧
      wet.1 = .error (.call (.system errno path))

section Foretelling

variable (r : FileResource) (site : Option Path)

/-- A creation fails in a dry run only for names that are not known, before any step. -/
theorem create_fails_alike {s : Session} {f : Failure}
    (h : (perform (r.create ⟨true, site⟩) s).1 = .error f) :
    (perform (r.create ⟨false, site⟩) s).1 = .error f := by
  rw [create_eq_steps, perform_bind, perform_observe] at h ⊢
  cases hids : r.ownerIds s.machine with
  | error e =>
    rw [hids] at h
    exact h
  | ok ids =>
    rw [hids] at h
    cases h

/-- A deletion does not fail in a dry run. -/
theorem delete_dry_ok (s : Session) : (perform (r.delete ⟨true, site⟩) s).1 = .ok () := by
  rw [delete_eq, perform_bind, perform_observe]
  dsimp only
  split <;> rfl

/-- What is not seen to be a file is not mended, in a dry run or a real one. -/
theorem update_unseen (o : Options) {s : Session} {f : Failure}
    (h : r.regularFile s.machine = .error f) : perform (r.update o) s = (.error f, s) := by
  rw [update_eq, perform_bind, perform_observe, h]

/-- A path with a NUL is met by both runs alike, or not before the dry run has ended well. -/
theorem noNul_or_fails_alike (a : Action) (s : Session) :
    hasNul r.path = false ∨ ∀ f, (perform (r.act ⟨true, site⟩ a) s).1 = .error f →
      (perform (r.act ⟨false, site⟩ a) s).1 = .error f := by
  cases a with
  | create => exact Or.inr fun f => r.create_fails_alike site
  | delete =>
    right
    intro f h
    rw [show (perform (r.act ⟨true, site⟩ .delete) s).1 = .ok () from r.delete_dry_ok site s] at h
    cases h
  | update =>
    cases hfile : r.regularFile s.machine with
    | ok n => exact Or.inl (noNul_of_stat (regularFile_ok hfile).1)
    | error e =>
      right
      intro f h
      unfold act at h ⊢
      rw [r.update_unseen _ hfile] at h ⊢
      exact h

/-- **A dry run foretells the real run.**  From one session, on whatever machine, with whatever faults:
    the real run says a prefix of the steps that the dry run shows, all of them if it ends well, and
    then the dry run has ended well, too.  A failure of the real run that is about the input is the dry
    run's failure.  A failure of the dry run is the real run's, unless the system refused the real run
    a step that it had printed. -/
theorem dry_run_foretells (a : Action) (s : Session) : ∃ shown said : List String,
    r.Foretells s (perform (r.act ⟨true, site⟩ a) s) (perform (r.act ⟨false, site⟩ a) s)
      shown said := by
  obtain ⟨Q, hpreview⟩ := r.previews_act site a
  obtain ⟨shown, said, hshown, hsaid, hbeside⟩ := hpreview.ends s s rfl
  have hnul := r.noNul_or_fails_alike site a s
  generalize perform (r.act ⟨true, site⟩ a) s = dry at hshown hbeside hnul ⊢
  generalize perform (r.act ⟨false, site⟩ a) s = wet at hsaid hbeside hnul ⊢
  refine ⟨shown, said, hshown, hsaid, ?foreseen, ?whole, fun f => hbeside.refused, ?fails⟩
  case foreseen =>
    cases hbeside with
    | done => exact List.prefix_refl _
    | failed => exact List.prefix_refl _
    | brokeOff _ _ hpre => exact hpre
  case whole =>
    intro hok
    cases hbeside with
    | done => exact ⟨rfl, rfl⟩
    | failed => cases hok
    | brokeOff => cases hok
  case fails =>
    intro f hdry
    cases hbeside with
    | done => cases hdry
    | failed => exact Or.inl hdry
    | @brokeOff front message call cause x s₁ s₁' hcall hrefused hpre =>
      -- a step is refused for a NUL only on a path with one, where both runs fail alike
      rcases hnul with hpath | halike
      · cases cause with
        | nulInPath => exact absurd hrefused (ne_nul_of_step hcall hpath _)
        | system errno path =>
          exact Or.inr ⟨front, message, call, errno, path, rfl, hcall, hrefused, rfl⟩
      · exact Or.inl (halike f hdry)

end Foretelling

end Converge.FileResource
