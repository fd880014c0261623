/-
  Converge.Proofs.SameFile
  ────────────────────────
  **THE CONTENT THAT IS COMPARED IS THAT OF THE FILE THAT WAS LOOKED AT.**

  A file is looked at under the path as it was declared, and its mode and owner are set under it.  Its content
  is read under the normal form of the path, and when a file is mended, that happens after both were set.  On
  a machine without faults both paths lead to one node, and setting a mode or an owner changes no content.  So
  comparing and mending do what they would do if the content came with the look, and the file were never opened:
  a content that cannot be read is always that of the source.

  Main results:
    * `contentDifference_eq` — comparing contents with the file read and with its content given;
    * `triple_mends_against` — a mending that is given the content blames the source alone;
    * `content_of_stated_file` — comparing and mending use the content of the node that was looked at.
-/
import Converge.Proofs.Diagnosis
import Converge.Proofs.Mending
import Converge.Proofs.NormalForm

namespace Converge.Act

/-- What follows an action may be exchanged where the action leads. -/
theorem perform_bind_congr {α β : Type} {a : Act α} {f g : α → Act β} {s : Session}
    (h : ∀ x s', perform a s = (.ok x, s') → perform (f x) s' = perform (g x) s') :
    perform (a >>= f) s = perform (a >>= g) s := by
  rw [perform_bind, perform_bind]
  match ha : perform a s with
  | (.ok x, s') => exact h x s' ha
  | (.error e, s') => rfl

/-- A look may be exchanged for another that shows the same. -/
theorem perform_observe_bind_congr {α β : Type} {f g : Machine → Except Failure α} {next : α → Act β}
    {s : Session} (h : f s.machine = g s.machine) :
    perform (observe f >>= next) s = perform (observe g >>= next) s := by
  rw [perform_bind, perform_bind, perform_observe, perform_observe, h]

end Converge.Act

namespace Converge.Machine

variable {m : Machine} {path p : String} {e : Errno}

/-- A refused reading names the path that it was given. -/
theorem path_of_read_refused (h : m.read path = .error (.system e p)) : p = path := by
  rw [read_eq] at h
  split at h
  · rename_i hcheck
    cases h
    unfold precheck at hcheck
    repeat' split at hcheck
    all_goals cases hcheck
    all_goals rfl
  · split at h
    · cases h
      rfl
    · cases h
      rfl
    · rename_i kind _
      cases kind <;> cases h <;> rfl

end Converge.Machine

namespace Converge.FileResource

open Converge.Machine Act

variable {r : FileResource} {o : Options} {m m' : Machine} {n : Node} {content : List UInt8}
  {f : Failure}

/-! ## §1. Comparing with a content that is given. -/

/-- The difference of a given content from that of the source. -/
def contentAgainst (r : FileResource) (o : Options) (content : List UInt8) (m : Machine) :
    Except Failure (Option Difference) := do
  match ← r.sourcePath o with
  | none => return none
  | some source =>
    let digest ← (Checksum.ofFile m source.toString).mapError (readFailure r.id)
    if digest != Checksum.ofContent content then
      return some ⟨r.id, "content", .text source.toString, .text r.path, Difference.info⟩
    else return none

/-- Says that a given content differs from that of the source, if it does. -/
def noteAgainst (r : FileResource) (o : Options) (content : List UInt8) : Act Unit := do
  let difference ← observe (r.contentAgainst o content)
  match difference with
  | none => return ()
  | some d => r.progress o ("el contenido difiere de " ++ d.desired.plain ++ "; no se sincroniza")

/-- Contents compare as they do with the content of the file given. -/
theorem contentDifference_eq (h : m.read (Path.ofString r.path).toString = .ok content) :
    r.contentDifference o m = r.contentAgainst o content m := by
  unfold contentDifference contentAgainst Checksum.contentChanged
  cases r.sourcePath o with
  | error e => rfl
  | ok source? =>
    cases source? with
    | none => rfl
    | some source =>
      cases hsource : Checksum.ofFile m source.toString with
      | error cause => simp only [hsource, bind, Except.bind, Except.mapError]
      | ok digest =>
        have hdestination : Checksum.ofFile m (Path.ofString r.path).toString =
            .ok (Checksum.ofContent content) := by
          rw [Checksum.ofFile, h]
          rfl
        simp only [hsource, hdestination, bind, Except.bind, Except.mapError, pure, Except.pure]

/-- If a failure is one to read a content, it is the source that cannot be read. -/
def BlamesSource (r : FileResource) (o : Options) (m : Machine) (f : Failure) : Prop :=
  ∀ id e p, f = .resource id (.checksum e p) → ∃ source, r.sourcePath o = .ok (some source) ∧
    p = source.toString ∧ m.read p = .error (.system e p)

theorem blamesSource_lookup (cause : LookupFailure) :
    r.BlamesSource o m (lookupFailure r.id cause) := by
  rintro id e p heq
  cases cause <;> cases heq

/-- With the content of the file given, only the source is read. -/
theorem contentAgainst_blames (h : r.contentAgainst o content m = .error f) :
    r.BlamesSource o m f := by
  rintro id e p rfl
  unfold contentAgainst at h
  cases hpath : r.sourcePath o with
  | error cause =>
    obtain ⟨source, -, -, -, rfl⟩ := sourcePath_error hpath
    rw [hpath] at h
    cases h
  | ok source? =>
    rw [hpath] at h
    cases source? with
    | none => cases h
    | some source =>
      cases hread : m.read source.toString with
      | ok bytes =>
        simp only [Checksum.ofFile, hread, bind, Except.bind, Except.map, Except.mapError] at h
        split at h <;> cases h
      | error cause =>
        simp only [Checksum.ofFile, hread, bind, Except.bind, Except.map, Except.mapError,
          Except.error.injEq] at h
        cases cause with
        | nulInPath => cases h
        | system errno path =>
          cases h
          obtain rfl := path_of_read_refused hread
          exact ⟨source, rfl, rfl, hread⟩

/-! ## §2. Mending with a content that is given. -/

theorem triple_take_retouched {call : Machine → Except CallFailure Machine}
    (h : ∀ m₁ m₂, call m₁ = .ok m₂ → Retouched m₁ m₂) :
    Triple (Retouched m) (take o call) (fun _ => Retouched m) fun f _ => r.BlamesSource o m f := by
  unfold take
  cases o.dryRun with
  | true => exact Triple.pure fun m' hm => hm
  | false =>
    refine Triple.change (fun m₁ m₂ hm hcall => hm.trans (h m₁ m₂ hcall)) fun m' e _ _ => ?_
    rintro id errno p ⟨⟩

theorem triple_mendMode_retouched :
    Triple (Retouched m) (r.mendMode o n) (fun _ => Retouched m) fun f _ => r.BlamesSource o m f := by
  unfold mendMode
  split
  · refine Triple.bind (triple_progress _) fun _ => triple_take_retouched fun m₁ m₂ hcall => ?_
    exact .of_chmod hcall
  · exact Triple.pure fun m' hm => hm

theorem triple_mendOwner_retouched :
    Triple (Retouched m) (r.mendOwner o n) (fun _ => Retouched m) fun f _ => r.BlamesSource o m f := by
  unfold mendOwner giveAway
  refine Triple.bind (Q := fun _ => Retouched m)
    (Triple.observe (fun m' _ hm _ => hm) fun m' f _ hf => ?_) fun owner => ?_
  · obtain ⟨cause, rfl⟩ := ownerDifference_error hf
    exact blamesSource_lookup cause
  split
  · refine Triple.bind (Q := fun _ => Retouched m)
      (Triple.observe (fun m' _ hm _ => hm) fun m' f _ hf => ?_) fun ids => ?_
    · obtain ⟨cause, rfl⟩ := ownerIds_error hf
      exact blamesSource_lookup cause
    refine Triple.bind (triple_progress _) fun _ => triple_take_retouched fun m₁ m₂ hcall => ?_
    exact .of_chown hcall
  · exact Triple.pure fun m' hm => hm

/-- What is read of the source is read as before. -/
theorem contentAgainst_retouched (h : Retouched m m') :
    r.contentAgainst o content m' = r.contentAgainst o content m := by
  unfold contentAgainst Checksum.ofFile
  simp only [h.read]

/-- **A mending that is given the content blames the source alone** for a content that cannot be read. -/
theorem triple_mends_against :
    Triple (Retouched m) (do r.mendMode o n; r.mendOwner o n; r.noteAgainst o content)
      (fun _ => Retouched m) fun f _ => r.BlamesSource o m f := by
  refine Triple.bind triple_mendMode_retouched fun _ => ?_
  refine Triple.bind triple_mendOwner_retouched fun _ => ?_
  refine Triple.bind (Q := fun _ => Retouched m)
    (Triple.observe (fun m' _ hm _ => hm) fun m' f hm hf => ?_) fun difference => ?_
  · rw [contentAgainst_retouched hm] at hf
    exact contentAgainst_blames hf
  cases difference with
  | none => exact Triple.pure fun m' hm => hm
  | some d => exact triple_progress _

/-! ## §3. The node that was looked at. -/

/-- A resource is compared and mended with the content of a node, whatever is read under the path. -/
structure UsesContent (r : FileResource) (o : Options) (m : Machine) (n : Node)
    (content : List UInt8) : Prop where
  /-- The comparison is of the node's mode, owner and content. -/
  compared : r.evaluate o m = (do
    let owner ← r.ownerDifference n m
    let content ← r.contentAgainst o content m
    return .ofPresent r.want ((r.modeDifference n).toList ++ owner.toList ++ content.toList))
  /-- Mending goes by the node's mode, owner and content. -/
  mended : ∀ t, perform (r.update o) ⟨m, t⟩ =
    perform (do r.mendMode o n; r.mendOwner o n; r.noteAgainst o content) ⟨m, t⟩
  /-- If a comparison cannot read a content, it is that of the source. -/
  blamed : ∀ f, r.evaluate o m = .error f → r.BlamesSource o m f
  /-- So it is if a mending cannot. -/
  blamedMending : ∀ t f s, perform (r.update o) ⟨m, t⟩ = (.error f, s) → r.BlamesSource o m f

theorem usesContent (hstat : m.stat r.path = .ok n) (hfile : n.isFile = true)
    (hread : m.read (Path.ofString r.path).toString = .ok content) : r.UsesContent o m n content := by
  have hcompared : r.evaluate o m = (do
      let owner ← r.ownerDifference n m
      let content ← r.contentAgainst o content m
      return .ofPresent r.want ((r.modeDifference n).toList ++ owner.toList ++ content.toList)) := by
    unfold evaluate
    rw [hstat, ← contentDifference_eq hread]
    simp [hfile]
  have hmended : ∀ t, perform (r.update o) ⟨m, t⟩ =
      perform (do r.mendMode o n; r.mendOwner o n; r.noteAgainst o content) ⟨m, t⟩ := by
    intro t
    have hlook : r.regularFile m = .ok n := by
      unfold regularFile
      rw [hstat]
      exact if_pos hfile
    rw [update_eq, perform_bind, perform_observe, hlook]
    -- what is read under the path stays the same while mode and owner are set
    refine perform_bind_congr fun _ s₁ hmode => ?_
    have h₁ : Retouched m s₁.machine := by
      have := triple_mendMode_retouched (r := r) (o := o) (n := n) ⟨m, t⟩ (.refl m)
      rwa [hmode] at this
    refine perform_bind_congr fun _ s₂ howner => ?_
    have h₂ : Retouched m s₂.machine := by
      have := triple_mendOwner_retouched (r := r) (o := o) (n := n) s₁ h₁
      rwa [howner] at this
    have hread₂ : s₂.machine.read (Path.ofString r.path).toString = .ok content :=
      (h₂.read _).trans hread
    exact perform_observe_bind_congr (contentDifference_eq hread₂)
  refine ⟨hcompared, hmended, ?_, ?_⟩
  · intro f hf
    rcases evaluate_error_iff.mp hf with ⟨e, hno, -, -⟩ | ⟨n', hstat', ⟨hnotfile, -⟩ | ⟨-, hlook⟩⟩
    · rw [hstat] at hno
      cases hno
    · rw [hstat] at hstat'
      cases hstat'
      rw [hfile] at hnotfile
      cases hnotfile
    · rcases hlook with howner | ⟨gap, -, hcontent⟩
      · obtain ⟨cause, rfl⟩ := ownerDifference_error howner
        exact blamesSource_lookup cause
      · rw [contentDifference_eq hread] at hcontent
        exact contentAgainst_blames hcontent
  · intro t f s hf
    rw [hmended] at hf
    have hmends : Triple (Retouched m) (do r.mendMode o n; r.mendOwner o n; r.noteAgainst o content)
        (fun _ => Retouched m) fun f _ => r.BlamesSource o m f := triple_mends_against
    have hend := hmends ⟨m, t⟩ (.refl m)
    rwa [hf] at hend

/-- **The content that is compared is that of the file that was looked at.**  On a machine without faults, a
    path that leads to a regular file has a normal form that leads to the same node, so its content can be
    read under it.  Comparing and mending use that content, and what cannot be read is the source. -/
theorem content_of_stated_file (hcalm : m.faults = []) {path : String} (hstat : m.stat path = .ok n)
    (hkind : n.kind = .file content) :
    (∃ place, m.arrive path = .ok (.present place n) ∧
      m.arrive (Path.ofString path).toString = .ok (.present place n)) ∧
    m.read (Path.ofString path).toString = .ok content ∧
    ∀ (r : FileResource) (o : Options), r.path = path → r.UsesContent o m n content := by
  obtain ⟨hcheck, place, harrive⟩ := stat_ok_iff.mp hstat
  have hread := read_of_stat hcalm hstat hkind
  have hfile : n.isFile = true := by simp [Node.isFile, hkind]
  refine ⟨⟨place, harrive, arrive_normal (fit_of_precheck hcheck).nonempty harrive⟩, hread, ?_⟩
  rintro r o rfl
  exact usesContent hstat hfile hread

/-- A machine with a message of the day and a link to it. -/
def linked : Machine :=
  (bare.put ["motd"] ⟨.file [72, 105], 0o644, 0, 0⟩).put ["link"] ⟨.link "./motd", 0o777, 0, 0⟩

theorem stat_linked : linked.stat "/.//link" = .ok ⟨.file [72, 105], 0o644, 0, 0⟩ := by
  have hroot : linked.disk.node? [] = some .plainDirectory := rfl
  have hmotd : linked.disk.node? ["motd"] = some ⟨.file [72, 105], 0o644, 0, 0⟩ := rfl
  have harrive : linked.arrive "/.//link" =
      .ok (.present ["motd"] ⟨.file [72, 105], 0o644, 0, 0⟩) := by
    have hdot : turn linked.disk true 40 [] "." false = .go 40 [] [] := rfl
    have hlink : turn linked.disk true 40 [] "link" true = .go 39 [] [".", "motd"] := rfl
    have hdot' : turn linked.disk true 39 [] "." false = .go 39 [] [] := rfl
    have hname : turn linked.disk true 39 [] "motd" true = .go 39 ["motd"] [] := rfl
    calc linked.arrive "/.//link"
        = walk linked.disk true 40 [] [".", "link"] := by
          rw [arrive, show steps "/.//link" = [".", "link"] by decide]
          rfl
      _ = walk linked.disk true 40 [] ["link"] := by rw [walk_go hroot rfl hdot]; rfl
      _ = walk linked.disk true 39 [] [".", "motd"] := by rw [walk_go hroot rfl hlink]; rfl
      _ = walk linked.disk true 39 [] ["motd"] := by rw [walk_go hroot rfl hdot']; rfl
      _ = walk linked.disk true 39 ["motd"] [] := by rw [walk_go hroot rfl hname]; rfl
      _ = .ok (.present ["motd"] ⟨.file [72, 105], 0o644, 0, 0⟩) := walk_arrived hmotd
  exact stat_ok_iff.mpr ⟨by decide, ["motd"], harrive⟩

/-- Under `/.//link` the message of the day is looked at, and under `/link` it is read. -/
theorem linked_motd_read :
    linked.faults = [] ∧ linked.stat "/.//link" = .ok ⟨.file [72, 105], 0o644, 0, 0⟩ ∧
    (Path.ofString "/.//link").toString = "/link" ∧ linked.read "/link" = .ok [72, 105] := by
  have hnormal : (Path.ofString "/.//link").toString = "/link" := by decide
  have hread := (content_of_stated_file (m := linked) rfl stat_linked rfl).2.1
  rw [hnormal] at hread
  exact ⟨rfl, stat_linked, hnormal, hread⟩

end Converge.FileResource
