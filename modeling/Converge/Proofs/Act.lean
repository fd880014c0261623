/-
  Converge.Proofs.Act
  ───────────────────
  **REASONING ABOUT ACTIONS.**

  Three ways to speak about an action, each with one rule for every way to build one:
    * `Triple P a Q E` — from a machine with `P` it ends in a result and a machine with `Q`, or in a
      failure and a machine with `E`;
    * `Twin R a` — from two sessions with related machines it ends alike, says the same and leaves
      related machines;
    * `Escapes bad a s` — it ends in a failure of a kind.
-/
import Converge.Session

namespace Converge.Act

variable {α β : Type}

/-! ## §1. Performing. -/

/-- A bind that ends well has two parts that do. -/
theorem perform_bind_ok {a : Act α} {f : α → Act β} {s s' : Session} {y : β}
    (h : perform (a >>= f) s = (.ok y, s')) :
    ∃ x s₁, perform a s = (.ok x, s₁) ∧ perform (f x) s₁ = (.ok y, s') := by
  rw [perform_bind] at h
  match ha : perform a s with
  | (.ok x, s₁) =>
    rw [ha] at h
    exact ⟨x, s₁, rfl, h⟩
  | (.error e, s₁) =>
    rw [ha] at h
    cases h

/-- A handler runs where the failure left off. -/
theorem perform_tryCatch (a : Act α) (handler : Failure → Act α) (s : Session) :
    perform (tryCatch a handler) s =
      match perform a s with
      | (.ok x, s) => (.ok x, s)
      | (.error e, s) => perform (handler e) s := by
  show (ExceptT.tryCatch a handler).run s = _
  simp only [perform, ExceptT.tryCatch, ExceptT.run, ExceptT.mk, StateT.run, bind, StateT.bind]
  generalize h : a s = r
  obtain ⟨x, s'⟩ := r
  cases x <;> rfl

/-! ## §2. One run. -/

/-- From a machine with `P` the action ends in a result with `Q`, or in a failure with `E`. -/
def Triple (P : Machine → Prop) (a : Act α) (Q : α → Machine → Prop)
    (E : Failure → Machine → Prop) : Prop :=
  ∀ s, P s.machine →
    match perform a s with
    | (.ok x, s') => Q x s'.machine
    | (.error e, s') => E e s'.machine

namespace Triple

variable {P P' : Machine → Prop} {Q Q' : α → Machine → Prop} {R : β → Machine → Prop}
  {E E' : Failure → Machine → Prop}

theorem pure {x : α} (h : ∀ m, P m → Q x m) : Triple P (pure x) Q E := by
  intro s hs
  rw [perform_pure]
  exact h _ hs

theorem bind {a : Act α} {f : α → Act β} (ha : Triple P a Q E)
    (hf : ∀ x, Triple (Q x) (f x) R E) : Triple P (a >>= f) R E := by
  intro s hs
  have h := ha s hs
  rw [perform_bind]
  match hp : perform a s with
  | (.ok x, s₁) =>
    rw [hp] at h
    exact hf x s₁ h
  | (.error e, s₁) =>
    rw [hp] at h
    exact h

/-- Looking changes nothing; what is seen is known afterwards. -/
theorem observe {f : Machine → Except Failure α} (hok : ∀ m x, P m → f m = .ok x → Q x m)
    (herr : ∀ m e, P m → f m = .error e → E e m) : Triple P (observe f) Q E := by
  intro s hs
  rw [perform_observe]
  cases h : f s.machine with
  | ok x => exact hok _ x hs h
  | error e => exact herr _ e hs h

theorem say {e : Entry} {S : Unit → Machine → Prop} (h : ∀ m, P m → S () m) :
    Triple P (say e) S E := by
  intro s hs
  rw [perform_say]
  exact h _ hs

/-- A call that succeeds changes the machine, one that fails does not. -/
theorem change {f : Machine → Except Machine.CallFailure Machine} {S : Unit → Machine → Prop}
    (hok : ∀ m m', P m → f m = .ok m' → S () m')
    (herr : ∀ m e, P m → f m = .error e → E (.call e) m) : Triple P (change f) S E := by
  intro s hs
  rw [perform_change]
  cases h : f s.machine with
  | ok m' => exact hok _ m' hs h
  | error e => exact herr _ e hs h

/-- Looking at what is known to give an answer. -/
theorem observe_ok {f : Machine → Except Failure α} (h : ∀ m, P m → ∃ x, f m = .ok x ∧ Q x m) :
    Triple P (Act.observe f) Q E := by
  refine observe ?_ ?_
  · intro m x hm hx
    obtain ⟨y, hy, hq⟩ := h m hm
    rw [hy] at hx
    cases hx
    exact hq
  · intro m e hm he
    obtain ⟨y, hy, -⟩ := h m hm
    rw [hy] at he
    cases he

/-- A call that is known to succeed. -/
theorem change_ok {f : Machine → Except Machine.CallFailure Machine} {S : Unit → Machine → Prop}
    (h : ∀ m, P m → ∃ m', f m = .ok m' ∧ S () m') : Triple P (Act.change f) S E := by
  refine change ?_ ?_
  · intro m m' hm hf
    obtain ⟨m₁, h₁, hs⟩ := h m hm
    rw [h₁] at hf
    cases hf
    exact hs
  · intro m e hm hf
    obtain ⟨m₁, h₁, -⟩ := h m hm
    rw [h₁] at hf
    cases hf

theorem weaken {a : Act α} (h : Triple P a Q E) (hP : ∀ m, P' m → P m)
    (hQ : ∀ x m, Q x m → Q' x m) (hE : ∀ e m, E e m → E' e m) : Triple P' a Q' E' := by
  intro s hs
  have hend := h s (hP _ hs)
  match hp : perform a s with
  | (.ok x, s₁) =>
    rw [hp] at hend
    exact hQ x _ hend
  | (.error e, s₁) =>
    rw [hp] at hend
    exact hE e _ hend

/-- A condition that is not about the machine. -/
theorem pre {p : Prop} {a : Act α} (h : p → Triple P a Q E) :
    Triple (fun m => p ∧ P m) a Q E := by
  intro s hs
  exact h hs.1 s hs.2

/-- An action that cannot fail ends in a result. -/
theorem ok {a : Act α} (h : Triple P a Q fun _ _ => False) {s : Session} (hs : P s.machine) :
    ∃ x s', perform a s = (.ok x, s') ∧ Q x s'.machine := by
  have hend := h s hs
  match hp : perform a s with
  | (.ok x, s₁) =>
    rw [hp] at hend
    exact ⟨x, s₁, rfl, hend⟩
  | (.error e, s₁) =>
    rw [hp] at hend
    exact hend.elim

/-- What holds however an action ends. -/
theorem after {a : Act α} {I : Machine → Prop} (h : Triple P a (fun _ => I) fun _ => I) {s : Session}
    (hs : P s.machine) : I (perform a s).2.machine := by
  have hend := h s hs
  match hp : perform a s with
  | (.ok x, s₁) =>
    rw [hp] at hend
    exact hend
  | (.error e, s₁) =>
    rw [hp] at hend
    exact hend

end Triple

/-! ## §3. Two runs. -/

/-- From sessions with related machines the action ends alike, says the same and leaves related
    machines. -/
def Twin (R : Machine → Machine → Prop) (a : Act α) : Prop :=
  ∀ s s', R s.machine s'.machine → ∃ r s₁ s₁' said,
    perform a s = (r, s₁) ∧ perform a s' = (r, s₁') ∧ R s₁.machine s₁'.machine ∧
    s₁.transcript = s.transcript ++ said ∧ s₁'.transcript = s'.transcript ++ said

namespace Twin

variable {R : Machine → Machine → Prop}

theorem pure (x : α) : Twin R (pure x) :=
  fun s s' hs => ⟨.ok x, s, s', [], rfl, rfl, hs, by simp, by simp⟩

theorem throw (e : Failure) : Twin R (throw e : Act α) :=
  fun s s' hs => ⟨.error e, s, s', [], rfl, rfl, hs, by simp, by simp⟩

theorem bind {a : Act α} {f : α → Act β} (ha : Twin R a) (hf : ∀ x, Twin R (f x)) :
    Twin R (a >>= f) := by
  intro s s' hs
  obtain ⟨r, s₁, s₁', said, hp, hp', hrel, hsaid, hsaid'⟩ := ha s s' hs
  rw [perform_bind, perform_bind, hp, hp']
  cases r with
  | error e => exact ⟨.error e, s₁, s₁', said, rfl, rfl, hrel, hsaid, hsaid'⟩
  | ok x =>
    -- both go on with the same result, and what is said adds up
    obtain ⟨r', s₂, s₂', more, hq, hq', hrel', hmore, hmore'⟩ := hf x s₁ s₁' hrel
    refine ⟨r', s₂, s₂', said ++ more, hq, hq', hrel', ?_, ?_⟩
    · rw [hmore, hsaid, List.append_assoc]
    · rw [hmore', hsaid', List.append_assoc]

theorem tryCatch {a : Act α} {handler : Failure → Act α} (ha : Twin R a)
    (hh : ∀ e, Twin R (handler e)) : Twin R (tryCatch a handler) := by
  intro s s' hs
  obtain ⟨r, s₁, s₁', said, hp, hp', hrel, hsaid, hsaid'⟩ := ha s s' hs
  rw [perform_tryCatch, perform_tryCatch, hp, hp']
  cases r with
  | ok x => exact ⟨.ok x, s₁, s₁', said, rfl, rfl, hrel, hsaid, hsaid'⟩
  | error e =>
    -- both go on with the same failure
    obtain ⟨r', s₂, s₂', more, hq, hq', hrel', hmore, hmore'⟩ := hh e s₁ s₁' hrel
    refine ⟨r', s₂, s₂', said ++ more, hq, hq', hrel', ?_, ?_⟩
    · rw [hmore, hsaid, List.append_assoc]
    · rw [hmore', hsaid', List.append_assoc]

theorem observe {f : Machine → Except Failure α} (h : ∀ m m', R m m' → f m' = f m) :
    Twin R (observe f) := by
  intro s s' hs
  refine ⟨f s.machine, s, s', [], perform_observe f s, ?_, hs, by simp, by simp⟩
  rw [perform_observe, h _ _ hs]

theorem say (e : Entry) : Twin R (say e) :=
  fun s s' hs => ⟨.ok (), _, _, [e], perform_say e s, perform_say e s', hs, rfl, rfl⟩

/-- Two outcomes of a call on related machines: alike, with related machines after a success. -/
def Calls (R : Machine → Machine → Prop) :
    Except Machine.CallFailure Machine → Except Machine.CallFailure Machine → Prop
  | .ok m, .ok m' => R m m'
  | .error e, .error e' => e' = e
  | _, _ => False

theorem change {f : Machine → Except Machine.CallFailure Machine}
    (h : ∀ m m', R m m' → Calls R (f m) (f m')) : Twin R (change f) := by
  intro s s' hs
  have hcalls := h _ _ hs
  rw [perform_change, perform_change]
  match hf : f s.machine, hf' : f s'.machine with
  | .ok m, .ok m' =>
    rw [hf, hf'] at hcalls
    exact ⟨.ok (), _, _, [], rfl, rfl, hcalls, by simp, by simp⟩
  | .error e, .error e' =>
    rw [hf, hf'] at hcalls
    rw [show e' = e from hcalls]
    exact ⟨.error (.call e), s, s', [], rfl, rfl, hs, by simp, by simp⟩
  | .ok m, .error e => rw [hf, hf'] at hcalls; exact hcalls.elim
  | .error e, .ok m => rw [hf, hf'] at hcalls; exact hcalls.elim

end Twin

/-! ## §4. Failures of a kind. -/

/-- The action ends in a failure of a kind. -/
def Escapes (bad : Failure → Prop) (a : Act α) (s : Session) : Prop :=
  ∃ f s', perform a s = (.error f, s') ∧ bad f

section Escapes

variable {bad : Failure → Prop} {s : Session}

theorem not_escapes_pure {x : α} : ¬ Escapes bad (pure x) s := by
  intro hescapes
  obtain ⟨f, s', h, -⟩ := hescapes
  rw [perform_pure] at h
  cases h

/-- A failure of a look, or of what follows it. -/
theorem escapes_observe {f : Machine → Except Failure α} :
    Escapes bad (observe f) s ↔ ∃ e, f s.machine = .error e ∧ bad e := by
  unfold Escapes
  rw [perform_observe]
  constructor
  · intro hescapes
    obtain ⟨e, s', h, hbad⟩ := hescapes
    rw [Prod.mk.injEq] at h
    exact ⟨e, h.1, hbad⟩
  · intro hfails
    obtain ⟨e, h, hbad⟩ := hfails
    exact ⟨e, s, by rw [h], hbad⟩

/-- Of two actions the first one fails, or it ends well and the second one fails. -/
theorem escapes_bind {a : Act α} {g : α → Act β} :
    Escapes bad (a >>= g) s ↔
      Escapes bad a s ∨ ∃ x s₁, perform a s = (.ok x, s₁) ∧ Escapes bad (g x) s₁ := by
  unfold Escapes
  rw [perform_bind]
  match ha : perform a s with
  | (.ok x, s₁) =>
    constructor
    · intro h
      exact Or.inr ⟨x, s₁, rfl, h⟩
    · intro hparts
      rcases hparts with ⟨f, s', h, -⟩ | ⟨x', s₁', h, hrest⟩
      · cases h
      · cases h
        exact hrest
  | (.error e, s₁) =>
    constructor
    · intro hescapes
      obtain ⟨f, s', h, hbad⟩ := hescapes
      cases h
      exact Or.inl ⟨e, s₁, rfl, hbad⟩
    · intro hparts
      rcases hparts with ⟨f, s', h, hbad⟩ | ⟨x', s₁', h, -⟩
      · cases h
        exact ⟨e, s₁, rfl, hbad⟩
      · cases h

theorem escapes_observe_bind {f : Machine → Except Failure α} {g : α → Act β} :
    Escapes bad (observe f >>= g) s ↔
      (∃ e, f s.machine = .error e ∧ bad e) ∨ ∃ x, f s.machine = .ok x ∧ Escapes bad (g x) s := by
  rw [escapes_bind, escapes_observe, perform_observe]
  constructor
  · intro hparts
    rcases hparts with h | ⟨x, s₁, h, hrest⟩
    · exact Or.inl h
    · rw [Prod.mk.injEq] at h
      obtain ⟨hx, rfl⟩ := h
      exact Or.inr ⟨x, hx, hrest⟩
  · intro hparts
    rcases hparts with h | ⟨x, hx, hrest⟩
    · exact Or.inl h
    · exact Or.inr ⟨x, s, by rw [hx], hrest⟩

theorem escapes_say_bind {e : Entry} {g : Unit → Act β} :
    Escapes bad (say e >>= g) s ↔
      Escapes bad (g ()) { s with transcript := s.transcript ++ [e] } := by
  unfold Escapes
  rw [perform_bind, perform_say]

theorem escapes_change_bind {f : Machine → Except Machine.CallFailure Machine} {g : Unit → Act β} :
    Escapes bad (change f >>= g) s ↔
      (∃ e, f s.machine = .error e ∧ bad (.call e)) ∨
        ∃ m', f s.machine = .ok m' ∧ Escapes bad (g ()) { s with machine := m' } := by
  unfold Escapes
  rw [perform_bind, perform_change]
  cases hf : f s.machine with
  | ok m' => simp
  | error e =>
    constructor
    · intro hescapes
      obtain ⟨f', s', h, hbad⟩ := hescapes
      cases h
      exact Or.inl ⟨e, rfl, hbad⟩
    · intro hparts
      rcases hparts with ⟨e', h, hbad⟩ | ⟨m', h, -⟩
      · cases h
        exact ⟨_, s, rfl, hbad⟩
      · cases h

/-- An action whose failures are all of another kind does not end in one of this kind. -/
theorem Triple.not_escapes {P : Machine → Prop} {a : Act α} {Q : α → Machine → Prop}
    (h : Triple P a Q fun f _ => ¬ bad f) (hs : P s.machine) : ¬ Escapes bad a s := by
  intro hescapes
  obtain ⟨f, s', hp, hbad⟩ := hescapes
  have hgood := h s hs
  rw [hp] at hgood
  exact hgood hbad

end Escapes

end Converge.Act
