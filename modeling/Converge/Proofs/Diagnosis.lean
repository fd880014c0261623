/-
  Converge.Proofs.Diagnosis
  ─────────────────────────
  **WHICH FAILURES A COMPARISON ENDS IN.**

  A comparison is meant to fail in four ways: what is at the path is no regular file, a user or group
  is not known, a content cannot be read, or a source has no site.  It translates what it comes upon
  to one of these, but not everything: a NUL, and a path that cannot be followed because of its links
  or its length, come out as they are.

  Main results:
    * `evaluate_error_iff` — the places where a comparison can fail, in order;
    * `walk_error` — the ways in which following a path can fail;
    * `evaluate_notAFile_iff` — when something is found not to be a file;
    * `foreseen_iff_not_strays` — when a comparison on a machine without faults fails as it should.
-/
import Converge.Proofs.Calm
import Converge.Proofs.Containment

namespace Converge.Machine

/-! ## §1. Paths that cannot be followed. -/

/-- What can be wrong on the way along a path. -/
inductive Impasse : Errno → Prop where
  | missing : Impasse .noEntry
  | blocked : Impasse .notDirectory
  | long : Impasse .nameTooLong
  | circle : Impasse .tooManyLinks

theorem turn_error {d : Disk} {f last : Bool} {b : Nat} {place : Place} {name : String} {e : Errno}
    (h : turn d f b place name last = .stop (.error e)) : Impasse e := by
  unfold turn at h
  split at h
  · cases h
    exact .long
  split at h
  · cases h
  split at h
  · cases h
  split at h
  · -- nothing has the name
    split at h
    · cases h
    · cases h
      exact .missing
  split at h
  · -- a link is followed unless the budget is spent, or it has no target
    split at h
    · cases h
    split at h
    · cases h
      exact .circle
    split at h
    · cases h
      exact .missing
    · cases h
  · cases h

/-- **A walk fails in four ways only.** -/
theorem walk_error (d : Disk) (f : Bool) : ∀ b place todo e,
    walk d f b place todo = .error e → Impasse e := by
  -- a walk fails where it stands, by its first turn, or further on
  refine walk_induction d f ?missing ?arrived ?blocked ?stop ?go
  case missing =>
    intro b place todo hp e h
    rw [walk_missing hp] at h
    cases h
    exact .missing
  case arrived =>
    intro b place here hp e h
    rw [walk_arrived hp] at h
    cases h
  case blocked =>
    intro b place here name rest hp hd e h
    rw [walk_blocked hp hd] at h
    cases h
    exact .blocked
  case stop =>
    intro b place here name rest outcome hp hd ht e h
    rw [walk_stop hp hd ht] at h
    subst h
    exact turn_error ht
  case go =>
    intro b place here name rest b' p' ahead hp hd ht ih e h
    rw [walk_go hp hd ht] at h
    exact ih e h

/-- Where no fault meets a call, a status is refused for a NUL or on the way. -/
theorem stat_error {m : Machine} (hcalm : m.faults = []) {path : String} {e : CallFailure}
    (h : m.stat path = .error e) :
    e = .nulInPath ∨ ∃ errno, e = .system errno path ∧ Impasse errno := by
  cases hcheck : m.precheck .stat path with
  | error refusal =>
    -- before the walk: a NUL, an empty path, a long one
    rw [stat_of_refused hcheck] at h
    cases h
    rw [precheck_of_noFault (faultFor?_of_nil hcalm .stat path)] at hcheck
    split at hcheck
    · cases hcheck
      exact Or.inl rfl
    split at hcheck
    · cases hcheck
      exact Or.inr ⟨_, rfl, .missing⟩
    split at hcheck
    · cases hcheck
      exact Or.inr ⟨_, rfl, .long⟩
    · cases hcheck
  | ok u =>
    right
    rw [stat_eq hcheck] at h
    match harrive : m.arrive path with
    | .error errno =>
      rw [harrive] at h
      cases h
      exact ⟨errno, rfl, walk_error _ _ _ _ _ _ harrive⟩
    | .ok (.vacant parent name) =>
      rw [harrive] at h
      cases h
      exact ⟨_, rfl, .missing⟩
    | .ok (.present place n) =>
      rw [harrive] at h
      cases h

end Converge.Machine

namespace Converge.FileResource

open Converge.Machine

variable {r : FileResource} {o : Options} {m : Machine} {n : Node} {f : Failure}

/-! ## §2. Where a comparison fails. -/

/-- **A comparison fails** for want of a status, at what is no file, at the owners, or at the
    content. -/
theorem evaluate_error_iff : r.evaluate o m = .error f ↔
    (∃ e, m.stat r.path = .error e ∧ meansAbsent e = false ∧ f = .call e) ∨
    ∃ n, m.stat r.path = .ok n ∧
      (n.isFile = false ∧ f = .resource r.id (.notAFile r.path (some (.ofPresent r.want []))) ∨
      n.isFile = true ∧ (r.ownerDifference n m = .error f ∨
        ∃ gap, r.ownerDifference n m = .ok gap ∧ r.contentDifference o m = .error f)) := by
  unfold evaluate
  -- the cases are in the order in which the comparison looks
  cases hstat : m.stat r.path with
  | error e =>
    cases habsent : meansAbsent e with
    | true => simp [habsent]
    | false =>
      simp only [habsent, Bool.false_eq_true, if_false, Except.error.injEq, reduceCtorEq, false_and,
        exists_false, or_false, exists_eq_left', true_and]
      exact eq_comm
  | ok n =>
    cases hfile : n.isFile with
    | false =>
      simp only [hfile, Bool.not_false, if_true, Except.error.injEq, reduceCtorEq, false_and,
        exists_false, false_or, Except.ok.injEq, exists_eq_left', true_and, Bool.false_eq_true,
        or_false]
      exact eq_comm
    | true =>
      cases hgap : r.ownerDifference n m with
      | error e => simp [hfile, hgap, bind, Except.bind]
      | ok gap =>
        cases r.contentDifference o m <;>
          simp [hfile, hgap, bind, Except.bind, pure, Except.pure]

/-- Every lookup is translated at once, at its end. -/
theorem lookup_of_mapError {α : Type} {x : Except LookupFailure α}
    (h : x.mapError (lookupFailure r.id) = .error f) : ∃ cause, f = lookupFailure r.id cause := by
  cases x with
  | ok a => cases h
  | error cause =>
    cases h
    exact ⟨cause, rfl⟩

theorem ownerDifference_error (h : r.ownerDifference n m = .error f) :
    ∃ cause, f = lookupFailure r.id cause := by
  unfold ownerDifference at h
  exact lookup_of_mapError h

theorem ownerIds_error (h : r.ownerIds m = .error f) : ∃ cause, f = lookupFailure r.id cause := by
  unfold ownerIds at h
  exact lookup_of_mapError h

theorem sourcePath_error (h : r.sourcePath o = .error f) :
    ∃ source, r.source = some source ∧ source ≠ "" ∧ o.site = none ∧
      f = .config (.noSite r.id source) := by
  unfold sourcePath at h
  cases hdeclared : r.source with
  | none =>
    rw [hdeclared] at h
    cases h
  | some source =>
    rw [hdeclared] at h
    dsimp only at h
    split at h
    · cases h
    rename_i hgiven
    cases hsite : o.site with
    | some site =>
      rw [hsite] at h
      cases h
    | none =>
      rw [hsite] at h
      cases h
      exact ⟨source, rfl, hgiven, rfl, rfl⟩

theorem contentDifference_error (h : r.contentDifference o m = .error f) :
    r.sourcePath o = .error f ∨ ∃ cause, f = readFailure r.id cause := by
  unfold contentDifference at h
  cases hsource : r.sourcePath o with
  | error e =>
    rw [hsource] at h
    cases h
    exact Or.inl rfl
  | ok source? =>
    rw [hsource] at h
    right
    cases source? with
    | none => cases h
    | some p =>
      -- from here on only the two readings can fail
      cases hchanged : Checksum.contentChanged m (Path.ofString r.path).toString p.toString with
      | ok changed => cases changed <;> simp [hchanged, bind, Except.bind, pure, Except.pure] at h
      | error cause =>
        simp only [hchanged, bind, Except.bind, mapError_error, Except.error.injEq] at h
        exact ⟨cause, h.symm⟩

/-! ## §3. What is found not to be a file. -/

/-- **Something is found not to be a file exactly if the path leads to something that is none**, and
    then the state that is reported with it is that of what is present and has not been compared. -/
theorem evaluate_notAFile_iff {id path : String} {state : Option State} :
    r.evaluate o m = .error (.resource id (.notAFile path state)) ↔
      id = r.id ∧ path = r.path ∧ state = some ⟨.present, r.want, false, []⟩ ∧
        ∃ n, m.stat r.path = .ok n ∧ n.isFile = false := by
  rw [evaluate_error_iff]
  constructor
  · intro hfails
    rcases hfails with ⟨e, -, -, hf⟩ | ⟨n, hstat, ⟨hnotfile, hf⟩ | ⟨-, howner | ⟨gap, -, hcontent⟩⟩⟩
    · cases hf
    · cases hf
      exact ⟨rfl, rfl, rfl, n, hstat, hnotfile⟩
    · -- lookups and readings find other things wrong
      obtain ⟨cause, hf⟩ := ownerDifference_error howner
      cases cause <;> cases hf
    · rcases contentDifference_error hcontent with hsource | ⟨cause, hf⟩
      · obtain ⟨source, -, -, -, hf⟩ := sourcePath_error hsource
        cases hf
      · cases cause <;> cases hf
  · intro hnotfile
    obtain ⟨rfl, rfl, rfl, n, hstat, hnotfile⟩ := hnotfile
    exact Or.inr ⟨n, hstat, Or.inl ⟨hnotfile, rfl⟩⟩

/-! ## §4. Failures that are foreseen. -/

/-- What a comparison is meant to fail with. -/
inductive Foreseen (r : FileResource) (o : Options) : Failure → Prop where
  | notAFile (state : Option State) : Foreseen r o (.resource r.id (.notAFile r.path state))
  | identity (cause : LookupFailure) : Foreseen r o (.resource r.id (.identity cause))
  | checksum (errno : Errno) (path : String) : Foreseen r o (.resource r.id (.checksum errno path))
  /-- A source is declared, and it is not known where sources lie. -/
  | noSite {source : String} (declared : r.source = some source) (given : source ≠ "")
      (unknown : o.site = none) : Foreseen r o (.config (.noSite r.id source))

/-- A comparison comes upon something that is not translated. -/
inductive Strays (r : FileResource) (o : Options) (m : Machine) : Prop where
  /-- A NUL, in the path, in a name or in the source. -/
  | nul (looks : r.LooksAtNul o m)
  /-- More links than one walk may follow. -/
  | circle (refused : m.stat r.path = .error (.system .tooManyLinks r.path))
  /-- A path or a name in it that is too long. -/
  | long (refused : m.stat r.path = .error (.system .nameTooLong r.path))

theorem Foreseen.contained (h : r.Foreseen o f) : ¬ Uncontained f := by
  cases h with
  | notAFile | identity | checksum => exact not_uncontained_resource
  | noSite => exact not_uncontained_config

theorem not_foreseen_call {e : CallFailure} : ¬ r.Foreseen o (.call e) := by
  intro h
  cases h

/-- What is wrong with the owners or the content is foreseen, unless it is a NUL. -/
theorem foreseen_of_attributes (hf : ¬ Uncontained f)
    (h : r.ownerDifference n m = .error f ∨ r.contentDifference o m = .error f) :
    r.Foreseen o f := by
  rcases h with howner | hcontent
  · obtain ⟨cause, rfl⟩ := ownerDifference_error howner
    rw [uncontained_lookupFailure] at hf
    cases cause with
    | nulInName => exact absurd rfl hf
    | _ => exact .identity _
  · rcases contentDifference_error hcontent with hsource | ⟨cause, rfl⟩
    · obtain ⟨source, hdeclared, hgiven, hsite, rfl⟩ := sourcePath_error hsource
      exact .noSite hdeclared hgiven hsite
    · rw [uncontained_readFailure] at hf
      cases cause with
      | nulInPath => exact absurd rfl hf
      | system errno path => exact .checksum errno path

theorem Strays.unforeseen (h : r.Strays o m) :
    ∃ f, r.evaluate o m = .error f ∧ ¬ r.Foreseen o f := by
  -- a refused status that does not mean absence comes out as it is
  have hrefused : ∀ e, m.stat r.path = .error e → meansAbsent e = false →
      ∃ f, r.evaluate o m = .error f ∧ ¬ r.Foreseen o f := by
    intro e hstat habsent
    exact ⟨.call e, evaluate_error_iff.mpr (Or.inl ⟨e, hstat, habsent, rfl⟩), not_foreseen_call⟩
  cases h with
  | nul looks =>
    obtain ⟨f, heval, hbad⟩ := uncontained_evaluate.mpr looks
    exact ⟨f, heval, fun hforeseen => hforeseen.contained hbad⟩
  | circle refused => exact hrefused _ refused rfl
  | long refused => exact hrefused _ refused rfl

/-- On a machine without faults a comparison that does not stray fails as it should. -/
theorem foreseen_of_not_strays (hcalm : m.faults = []) (hnot : ¬ r.Strays o m)
    (h : r.evaluate o m = .error f) : r.Foreseen o f := by
  -- a failure that is not contained tells of a NUL
  have hcontained : ¬ Uncontained f := fun hbad =>
    hnot (.nul (uncontained_evaluate.mp ⟨f, h, hbad⟩))
  rcases evaluate_error_iff.mp h with
    ⟨e, hstat, habsent, rfl⟩ | ⟨n, -, ⟨-, rfl⟩ | ⟨-, howner | ⟨gap, -, hcontent⟩⟩⟩
  · -- of the ways in which a path cannot be followed two mean that nothing is there
    rcases stat_error hcalm hstat with rfl | ⟨errno, rfl, himpasse⟩
    · exact absurd (uncontained_call.mpr rfl) hcontained
    · cases himpasse with
      | missing => cases habsent
      | blocked => cases habsent
      | long => exact absurd (.long hstat) hnot
      | circle => exact absurd (.circle hstat) hnot
  · exact .notAFile _
  · exact foreseen_of_attributes hcontained (Or.inl howner)
  · exact foreseen_of_attributes (n := n) hcontained (Or.inr hcontent)

/-- **When a comparison fails as it should**, on a machine where no fault meets a call: exactly if it
    comes upon no NUL, and the path can be followed as far as its links and its length go.  That
    something is no regular file is found exactly if the path leads to it, and with it comes the state
    of what is present and has not been compared. -/
theorem foreseen_iff_not_strays (hcalm : m.faults = []) :
    ((∀ f, r.evaluate o m = .error f → r.Foreseen o f) ↔ ¬ r.Strays o m) ∧
    ∀ id path state, r.evaluate o m = .error (.resource id (.notAFile path state)) ↔
      id = r.id ∧ path = r.path ∧ state = some ⟨.present, r.want, false, []⟩ ∧
        ∃ n, m.stat r.path = .ok n ∧ n.isFile = false := by
  refine ⟨⟨?unforeseen, ?foreseen⟩, fun id path state => evaluate_notAFile_iff⟩
  case unforeseen =>
    intro hall hstrays
    obtain ⟨f, heval, hnot⟩ := hstrays.unforeseen
    exact hnot (hall f heval)
  case foreseen =>
    intro hnot f heval
    exact foreseen_of_not_strays hcalm hnot heval

/-! ## §5. Things in the way of a file. -/

/-- The message of the day as it is declared by its title alone. -/
def plainMotd : FileResource := ⟨"/motd", "/motd", 0o644, "root", "root", none, .present⟩

/-- A bare machine with something in the place of the message of the day. -/
def inPlace (kind : NodeKind) : Machine := bare.put ["motd"] ⟨kind, 0o755, 0, 0⟩

theorem stat_directory : (inPlace .directory).stat "/motd" = .ok ⟨.directory, 0o755, 0, 0⟩ := by
  have hroot : (inPlace .directory).disk.node? [] = some .plainDirectory := rfl
  have hturn : turn (inPlace .directory).disk true linkBudget [] "motd" true =
      .go linkBudget ["motd"] [] := rfl
  refine stat_ok_iff.mpr ⟨rfl, ["motd"], ?_⟩
  unfold arrive
  rw [show steps "/motd" = ["motd"] by decide]
  exact (walk_go hroot rfl hturn).trans (walk_arrived rfl)

/-- A directory in the place of the message of the day is found not to be a file. -/
theorem directory_foreseen :
    (inPlace .directory).faults = [] ∧
    plainMotd.evaluate {} (inPlace .directory) = .error (.resource "file[/motd]"
      (.notAFile "/motd" (some ⟨.present, .present, false, []⟩))) ∧
    ∀ f, plainMotd.evaluate {} (inPlace .directory) = .error f → plainMotd.Foreseen {} f := by
  obtain ⟨hpolicy, hfile⟩ := foreseen_iff_not_strays (r := plainMotd) (o := {})
    (m := inPlace .directory) rfl
  refine ⟨rfl, (hfile _ _ _).mpr ⟨rfl, rfl, rfl, _, stat_directory, rfl⟩, hpolicy.mpr ?_⟩
  intro hstrays
  cases hstrays with
  | nul looks =>
    have hfree : plainMotd.NulFree {} (inPlace .directory).accounts :=
      ⟨by decide, fun hnul => by rcases hnul with hnul | ⟨-, hnul⟩ <;> exact absurd hnul (by decide),
        fun p hp => by cases hp⟩
    exact hfree.not_looksAtNul rfl looks
  | circle refused | long refused =>
    rw [show plainMotd.path = "/motd" from rfl, stat_directory] at refused
    cases refused

/-- A link to itself uses up the links that a walk may follow. -/
theorem walk_circular (b : Nat) :
    walk (inPlace (.link "/motd")).disk true b [] ["motd"] = .error .tooManyLinks := by
  have hroot : (inPlace (.link "/motd")).disk.node? [] = some .plainDirectory := rfl
  induction b with
  | zero => exact walk_stop hroot rfl rfl
  | succ b ih =>
    have hturn : turn (inPlace (.link "/motd")).disk true (b + 1) [] "motd" true =
        .go b [] ["motd"] := rfl
    rw [walk_go hroot rfl hturn]
    exact ih

/-- A link to itself in the place of the message of the day is neither found to be absent nor to be no
    file. -/
theorem circular_unforeseen :
    build (inPlace (.link "/motd")) "/motd" .null = .ok plainMotd ∧
    (inPlace (.link "/motd")).faults = [] ∧
    plainMotd.evaluate {} (inPlace (.link "/motd")) =
      .error (.call (.system .tooManyLinks "/motd")) ∧
    ¬ plainMotd.Foreseen {} (.call (.system .tooManyLinks "/motd")) := by
  refine ⟨rfl, rfl, ?_, not_foreseen_call⟩
  have hstat : (inPlace (.link "/motd")).stat "/motd" = .error (.system .tooManyLinks "/motd") := by
    rw [stat_eq rfl]
    unfold arrive
    rw [show steps "/motd" = ["motd"] by decide]
    rw [show (inPlace (.link "/motd")).start "/motd" = [] from rfl, walk_circular]
  exact evaluate_error_iff.mpr (Or.inl ⟨_, hstat, rfl, rfl⟩)

end Converge.FileResource
