/-
  Converge.Proofs.Loading
  ───────────────────────
  **HOW LOADING A MANIFEST FAILS.**

  A manifest is loaded to one resource for each entry, in order, or it is not loaded.  If it is not, a
  line is to say so: there is no manifest, it is no document, it has the wrong structure, or one of its
  entries is refused.  But four things come out as they are and end the program: a path that cannot be
  searched, a manifest that cannot be opened, bytes that are no text, and a scalar without a value.

  Main results:
    * `build_error_iff` — why a resource is refused;
    * `load_ok_iff`, `load_error_iff` — all the ways in which loading ends;
    * `load_reported_iff_not_strays` — when a manifest is loaded or a line says why not.
-/
import Converge.CommandLine.Run
import Converge.Proofs.Act
import Converge.Proofs.Calls
import Mathlib.Data.List.Forall2

namespace Converge

open Converge.Machine Converge.Text

/-- A traversal ends well exactly if each element does. -/
theorem mapM_ok_iff {ε α β : Type} {f : α → Except ε β} {xs : List α} {ys : List β} :
    xs.mapM f = .ok ys ↔ List.Forall₂ (fun x y => f x = .ok y) xs ys := by
  induction xs generalizing ys with
  | nil =>
    rw [List.forall₂_nil_left_iff, List.mapM_nil]
    show Except.ok [] = .ok ys ↔ _
    rw [Except.ok.injEq, eq_comm]
  | cons x xs ih =>
    rw [List.mapM_cons, List.forall₂_cons_left_iff]
    simp only [← ih]
    cases f x with
    | error e => simp [bind, Except.bind]
    | ok y =>
      cases xs.mapM f with
      | error e => simp [bind, Except.bind]
      | ok rest => simp [bind, Except.bind, pure, Except.pure, eq_comm]

/-! ## §1. Resources that are refused. -/

/-- The owners of a process are looked up by number, so no NUL is met. -/
theorem Machine.currentUserAndGroup_ne_nul (m : Machine) :
    m.currentUserAndGroup ≠ .error .nulInName := by
  unfold currentUserAndGroup Accounts.userAndGroup Accounts.groupName
  cases m.accounts.userNumbered? m.uid with
  | none => simp
  | some u =>
    dsimp only
    cases m.accounts.groupNumbered? u.gid <;> simp [Except.map]

/-- A declaration that is refused is refused as such. -/
theorem Declaration.read_error {schema : Schema} {id : String} {data : Value} {f : Failure}
    (h : read schema id data = .error f) : ∃ fault, f = .declaration id fault := by
  have hpairs : ∀ pairs, (if (Reading.all schema pairs).errors.isEmpty then
      .ok (Reading.all schema pairs).declaration
      else .error (.declaration id (.badFields (Reading.all schema pairs).errors)) :
        Except Failure Declaration) = .error f → ∃ fault, f = .declaration id fault := by
    intro pairs herror
    split at herror
    · cases herror
    · cases herror
      exact ⟨_, rfl⟩
  cases data with
  | null => exact hpairs [] h
  | mapping pairs => exact hpairs pairs h
  | _ =>
    cases h
    exact ⟨_, rfl⟩

namespace FileResource

variable {m : Machine} {title : String} {data : Value} {f : Failure}

/-- Why a resource is refused: the process has no user or group, the declaration is no good, or the path
    is empty. -/
inductive Refused (m : Machine) (title : String) (data : Value) : Failure → Prop where
  | identity {cause : LookupFailure} (nobody : m.currentUserAndGroup = .error cause) :
      Refused m title data (.resource (idOf title) (.identity cause))
  | declaration {owner group : String} {fault : DeclarationFault}
      (process : m.currentUserAndGroup = .ok (owner, group))
      (bad : Declaration.read .file (idOf title) data = .error (.declaration (idOf title) fault)) :
      Refused m title data (.declaration (idOf title) fault)
  | emptyPath {owner group : String} {d : Declaration}
      (process : m.currentUserAndGroup = .ok (owner, group))
      (good : Declaration.read .file (idOf title) data = .ok d) (empty : d.path.getD title = "") :
      Refused m title data (.declaration (idOf title) .emptyPath)

theorem lookupFailure_of_process {cause : LookupFailure} (h : m.currentUserAndGroup = .error cause)
    (id : String) : lookupFailure id cause = .resource id (.identity cause) := by
  cases cause with
  | nulInName => exact absurd h m.currentUserAndGroup_ne_nul
  | _ => rfl

/-- **A resource is refused for one of three reasons**, the process before the declaration. -/
theorem build_error_iff : build m title data = .error f ↔ Refused m title data f := by
  constructor
  · intro h
    unfold build at h
    cases hprocess : m.currentUserAndGroup with
    | error cause =>
      simp only [hprocess, mapError_error, bind, Except.bind,
        lookupFailure_of_process hprocess] at h
      cases h
      exact .identity hprocess
    | ok names =>
      cases hread : Declaration.read .file (idOf title) data with
      | error f' =>
        obtain ⟨fault, rfl⟩ := Declaration.read_error hread
        simp only [hprocess, hread, mapError_ok, bind, Except.bind] at h
        cases h
        exact .declaration hprocess hread
      | ok d =>
        simp only [hprocess, hread, mapError_ok, bind, Except.bind] at h
        split at h
        · rename_i hempty
          cases h
          exact .emptyPath hprocess hread hempty
        · cases h
  · intro h
    unfold build
    cases h with
    | identity nobody =>
      simp only [nobody, mapError_error, bind, Except.bind, lookupFailure_of_process nobody]
    | declaration process bad => simp only [process, bad, mapError_ok, bind, Except.bind]
    | @emptyPath owner group d process good empty =>
      have hpath : (ofDeclaration title owner group d).path = "" := empty
      simp only [process, good, mapError_ok, bind, Except.bind, hpath, if_true]
      rfl

theorem Refused.isAboutInput (h : Refused m title data f) : f.isAboutInput = true := by
  cases h <;> rfl

theorem title_of_build {r : FileResource} (h : build m title data = .ok r) : r.title = title := by
  unfold build at h
  simp only [bind, Except.bind] at h
  split at h
  · cases h
  split at h
  · cases h
  split at h
  · cases h
  · cases h
    rfl

end FileResource

/-! ## §2. Entries. -/

namespace Registry

/-- The standard registry knows one kind. -/
theorem lookup?_standard (name : String) :
    standard.lookup? name = if name = FileResource.kind then some FileResource.asKind else none := by
  unfold lookup? standard FileResource.asKind
  by_cases h : name = FileResource.kind
  · simp [h]
  · simp [h, Ne.symm h]

theorem names_standard : standard.names = [FileResource.kind] := by
  simp [names, standard, FileResource.asKind]

end Registry

namespace Manifest

variable {m : Machine} {p : Path} {path : String} {e : ManifestEntry} {f : Failure}
  {entries : List ManifestEntry} {resources : List FileResource}

/-- Builds the resource of an entry. -/
def buildEntry (r : Registry) (m : Machine) (e : ManifestEntry) : Except Failure FileResource :=
  r.build m e.kind e.title (.mapping e.declaration)

/-- An entry came to a resource: a file of its title, as it is declared. -/
structure Comes (m : Machine) (e : ManifestEntry) (x : FileResource) : Prop where
  kind : e.kind = FileResource.kind
  title : x.title = e.title
  built : FileResource.build m e.title (.mapping e.declaration) = .ok x

/-- Why an entry is refused: its kind is not known, or the resource is refused. -/
inductive EntryRefused (m : Machine) (e : ManifestEntry) : Failure → Prop where
  | unknownKind (other : e.kind ≠ FileResource.kind) :
      EntryRefused m e (.config (.unknownKind e.kind [FileResource.kind]))
  | refused {f : Failure} (kind : e.kind = FileResource.kind)
      (refused : FileResource.Refused m e.title (.mapping e.declaration) f) : EntryRefused m e f

theorem buildEntry_standard (m : Machine) (e : ManifestEntry) : buildEntry .standard m e =
    if e.kind = FileResource.kind then FileResource.build m e.title (.mapping e.declaration)
    else .error (.config (.unknownKind e.kind [FileResource.kind])) := by
  unfold buildEntry Registry.build
  rw [Registry.lookup?_standard, Registry.names_standard]
  by_cases h : e.kind = FileResource.kind
  · rw [if_pos h, if_pos h]
    rfl
  · rw [if_neg h, if_neg h]

theorem buildEntry_ok_iff {x : FileResource} : buildEntry .standard m e = .ok x ↔ Comes m e x := by
  rw [buildEntry_standard]
  constructor
  · intro h
    split at h
    · rename_i hkind
      exact ⟨hkind, FileResource.title_of_build h, h⟩
    · cases h
  · intro h
    rw [if_pos h.kind]
    exact h.built

theorem buildEntry_error_iff : buildEntry .standard m e = .error f ↔ EntryRefused m e f := by
  rw [buildEntry_standard]
  constructor
  · intro h
    split at h
    · rename_i hkind
      exact .refused hkind (FileResource.build_error_iff.mp h)
    · rename_i hkind
      cases h
      exact .unknownKind hkind
  · intro h
    cases h with
    | unknownKind other => rw [if_neg other]
    | refused kind refused => rw [if_pos kind, FileResource.build_error_iff.mpr refused]

theorem EntryRefused.isAboutInput (h : EntryRefused m e f) : f.isAboutInput = true := by
  cases h with
  | unknownKind => rfl
  | refused _ refused => exact refused.isAboutInput

theorem build_cons (r : Registry) (m : Machine) (e : ManifestEntry) (rest : List ManifestEntry) :
    build r m (e :: rest) = (do
      let x ← buildEntry r m e
      let xs ← build r m rest
      return x :: xs) := by
  unfold build
  rw [List.mapM_cons]
  rfl

/-- **Entries come to resources one by one**, in their order. -/
theorem build_ok_iff : build .standard m entries = .ok resources ↔
    List.Forall₂ (Comes m) entries resources := by
  refine mapM_ok_iff.trans ⟨fun h => ?_, fun h => ?_⟩
  · exact h.imp fun _ _ => buildEntry_ok_iff.mp
  · exact h.imp fun _ _ => buildEntry_ok_iff.mpr

/-- **The first entry that is refused is the failure of all**; those before it come to resources. -/
theorem build_error_iff : build .standard m entries = .error f ↔
    ∃ before e later built, entries = before ++ e :: later ∧
      List.Forall₂ (Comes m) before built ∧ EntryRefused m e f := by
  constructor
  · intro h
    induction entries with
    | nil => cases h
    | cons e rest ih =>
      rw [build_cons] at h
      cases hfirst : buildEntry .standard m e with
      | error f' =>
        rw [hfirst] at h
        cases h
        exact ⟨[], e, rest, [], rfl, .nil, buildEntry_error_iff.mp hfirst⟩
      | ok x =>
        cases hrest : build .standard m rest with
        | ok xs =>
          rw [hfirst, hrest] at h
          cases h
        | error f' =>
          rw [hfirst, hrest] at h
          cases h
          obtain ⟨before, e', later, built, rfl, hbuilt, hrefused⟩ := ih hrest
          exact ⟨e :: before, e', later, x :: built, rfl, .cons (buildEntry_ok_iff.mp hfirst) hbuilt,
            hrefused⟩
  · intro h
    obtain ⟨before, e, later, built, rfl, hbuilt, hrefused⟩ := h
    induction hbuilt with
    | nil =>
      rw [List.nil_append, build_cons, buildEntry_error_iff.mpr hrefused]
      rfl
    | cons hfirst hrest ih =>
      rw [List.cons_append, build_cons, buildEntry_ok_iff.mpr hfirst, ih]
      rfl

/-! ## §3. Manifests that are not read. -/

/-- A failure that is passed on as it is: the path cannot be searched, the manifest cannot be opened,
    its bytes are no text, or a scalar in it has no value. -/
inductive Strays (m : Machine) (path : String) : Failure → Prop where
  | unsearchable {e : Errno} {named : String} (refused : m.stat path = .error (.system e named))
      (other : e ≠ .noEntry ∧ e ≠ .notDirectory ∧ e ≠ .badDescriptor ∧ e ≠ .tooManyLinks) :
      Strays m path (.call (.system e named))
  | unreadable {n : Node} {cause : CallFailure} (there : m.stat path = .ok n)
      (refused : m.read path = .error cause) : Strays m path (.call cause)
  | undecodable {n : Node} {bytes : List UInt8} {refusal : Utf8Refusal} (there : m.stat path = .ok n)
      (opened : m.read path = .ok bytes) (noText : Utf8.decode bytes = .error refusal) :
      Strays m path (.undecodable refusal)
  | scalar {text : List Char} {fault : Yaml.ScalarFault} (decoded : content m path = .ok text)
      (noValue : Yaml.read text = .error (.scalar fault)) : Strays m path (.scalar fault)

/-- A manifest that is not read, with what is said about it: it is missing, it is no document, or it
    has the wrong structure. -/
inductive Misread (m : Machine) (path : String) : Failure → Prop where
  | missing (nowhere : m.leadsSomewhere path = .ok false) :
      Misread m path (.config (.manifestMissing path))
  | malformed {text : List Char} (decoded : content m path = .ok text)
      (noDocument : Yaml.read text = .error .malformed) :
      Misread m path (.config (.manifestMalformed path))
  | misshapen {text : List Char} {data : Value} {fault : ManifestFault}
      (decoded : content m path = .ok text) (document : Yaml.read text = .ok data)
      (noEntries : readEntries data = .error fault) :
      Misread m path (.config (.misshapen path fault))

theorem Strays.not_isAboutInput (h : Strays m path f) : f.isAboutInput = false := by
  cases h <;> rfl

theorem Misread.isAboutInput (h : Misread m path f) : f.isAboutInput = true := by
  cases h <;> rfl

theorem leadsSomewhere_of_stat {n : Node} (h : m.stat path = .ok n) :
    m.leadsSomewhere path = .ok true := by
  unfold leadsSomewhere
  rw [h]

/-- A search that fails has found that the status is refused, for another reason than that nothing is
    there. -/
theorem leadsSomewhere_error_iff {cause : CallFailure} : m.leadsSomewhere path = .error cause ↔
    ∃ e named, cause = .system e named ∧ m.stat path = .error (.system e named) ∧
      (e ≠ .noEntry ∧ e ≠ .notDirectory ∧ e ≠ .badDescriptor ∧ e ≠ .tooManyLinks) := by
  unfold leadsSomewhere
  match m.stat path with
  | .ok n => simp
  | .error .nulInPath => simp
  | .error (.system e named) =>
    by_cases hmissing : e = .noEntry ∨ e = .notDirectory ∨ e = .badDescriptor ∨ e = .tooManyLinks
    · simp only [if_pos hmissing, reduceCtorEq, false_iff]
      intro hfails
      obtain ⟨e', named', rfl, hsame, hother⟩ := hfails
      cases hsame
      rcases hmissing with h | h | h | h
      · exact hother.1 h
      · exact hother.2.1 h
      · exact hother.2.2.1 h
      · exact hother.2.2.2 h
    · have hother : e ≠ .noEntry ∧ e ≠ .notDirectory ∧ e ≠ .badDescriptor ∧ e ≠ .tooManyLinks := by
        simpa only [not_or] using hmissing
      simp only [if_neg hmissing, Except.error.injEq]
      constructor
      · intro heq
        exact ⟨e, named, heq.symm, rfl, hother⟩
      · intro hfails
        obtain ⟨e', named', rfl, hsame, -⟩ := hfails
        exact hsame

theorem stat_of_leadsSomewhere (h : m.leadsSomewhere path = .ok true) :
    ∃ n, m.stat path = .ok n := by
  unfold leadsSomewhere at h
  split at h
  · exact ⟨_, by assumption⟩
  · cases h
  · split at h <;> cases h

/-- Where something is, it is opened and decoded. -/
theorem content_of_stat {n : Node} (h : m.stat path = .ok n) : content m path =
    (do let bytes ← (m.read path).mapError .call
        (Utf8.decode bytes).mapError .undecodable) := by
  unfold content
  rw [leadsSomewhere_of_stat h]
  rfl

/-- A manifest without text is missing, or it strays. -/
theorem content_error (h : content m path = .error f) : Strays m path f ∨ Misread m path f := by
  cases hsearch : m.leadsSomewhere path with
  | error cause =>
    obtain ⟨e, named, rfl, hrefused, hother⟩ := leadsSomewhere_error_iff.mp hsearch
    unfold content at h
    rw [hsearch] at h
    cases h
    exact Or.inl (.unsearchable hrefused hother)
  | ok there =>
    cases there with
    | false =>
      rw [content_of_missing hsearch] at h
      cases h
      exact Or.inr (.missing hsearch)
    | true =>
      obtain ⟨n, hthere⟩ := stat_of_leadsSomewhere hsearch
      rw [content_of_stat hthere] at h
      cases hread : m.read path with
      | error cause =>
        rw [hread] at h
        cases h
        exact Or.inl (.unreadable hthere hread)
      | ok bytes =>
        simp only [hread, mapError_ok, bind, Except.bind] at h
        cases hdecode : Utf8.decode bytes with
        | ok text =>
          rw [hdecode] at h
          cases h
        | error refusal =>
          rw [hdecode] at h
          cases h
          exact Or.inl (.undecodable hthere hread hdecode)

/-- What is read from the text of a manifest. -/
theorem read_of_content {text : List Char} (h : content m p.toString = .ok text) : read m p =
    (do let data ← (Yaml.read text).mapError (documentFailure p.toString)
        parseEntries data p.toString) := by
  show (content m p.toString >>= _) = _
  rw [h]
  rfl

theorem read_of_error (h : content m p.toString = .error f) : read m p = .error f := by
  show (content m p.toString >>= _) = _
  rw [h]
  rfl

/-- **A manifest is not read for one of seven reasons**, of which four are passed on as they are. -/
theorem read_error_iff : read m p = .error f ↔ Strays m p.toString f ∨ Misread m p.toString f := by
  constructor
  · intro h
    cases hcontent : content m p.toString with
    | error f' =>
      rw [read_of_error hcontent] at h
      cases h
      exact content_error hcontent
    | ok text =>
      rw [read_of_content hcontent] at h
      cases hyaml : Yaml.read text with
      | error fault =>
        rw [hyaml] at h
        cases h
        cases fault with
        | malformed => exact Or.inr (.malformed hcontent hyaml)
        | scalar cause => exact Or.inl (.scalar hcontent hyaml)
      | ok data =>
        simp only [hyaml, mapError_ok, bind, Except.bind, parseEntries] at h
        cases hentries : readEntries data with
        | ok entries =>
          rw [hentries] at h
          cases h
        | error fault =>
          rw [hentries] at h
          cases h
          exact Or.inr (.misshapen hcontent hyaml hentries)
  · intro h
    rcases h with hstrays | hmisread
    · cases hstrays with
      | @unsearchable e named refused other =>
        have hsearch : m.leadsSomewhere p.toString = .error (.system e named) :=
          leadsSomewhere_error_iff.mpr ⟨e, named, rfl, refused, other⟩
        refine read_of_error ?_
        unfold content
        rw [hsearch]
        rfl
      | unreadable there refused =>
        refine read_of_error ?_
        rw [content_of_stat there, refused]
        rfl
      | undecodable there opened noText =>
        refine read_of_error ?_
        simp only [content_of_stat there, opened, mapError_ok, bind, Except.bind, noText,
          mapError_error]
      | scalar decoded noValue =>
        rw [read_of_content decoded, noValue]
        rfl
    · cases hmisread with
      | missing nowhere => exact read_of_missing nowhere
      | malformed decoded noDocument =>
        rw [read_of_content decoded, noDocument]
        rfl
      | misshapen decoded document noEntries =>
        simp only [read_of_content decoded, document, mapError_ok, bind, Except.bind, parseEntries,
          noEntries, mapError_error]

/-! ## §4. Loading as a whole. -/

/-- A failure that is said in a line: the manifest is not read, or one of its entries is refused while
    those before it come to resources. -/
inductive Reported (m : Machine) (p : Path) : Failure → Prop where
  | misread {f : Failure} (misread : Misread m p.toString f) : Reported m p f
  | refused {before later : List ManifestEntry} {e : ManifestEntry} {built : List FileResource}
      {f : Failure} (entries : read m p = .ok (before ++ e :: later))
      (earlier : List.Forall₂ (Comes m) before built) (refused : EntryRefused m e f) :
      Reported m p f

theorem Reported.isAboutInput (h : Reported m p f) : f.isAboutInput = true := by
  cases h with
  | misread misread => exact misread.isAboutInput
  | refused _ _ refused => exact refused.isAboutInput

/-- **A manifest is loaded** if it is read and each of its entries comes to a resource. -/
theorem load_ok_iff : load .standard m p = .ok resources ↔
    ∃ entries, read m p = .ok entries ∧ List.Forall₂ (Comes m) entries resources := by
  unfold load
  simp only [← build_ok_iff]
  cases read m p with
  | error f => simp [bind, Except.bind]
  | ok entries => simp [bind, Except.bind]

/-- **A manifest is not loaded** for a failure that strays or one that is reported. -/
theorem load_error_iff : load .standard m p = .error f ↔ Strays m p.toString f ∨ Reported m p f := by
  constructor
  · intro h
    unfold load at h
    cases hread : read m p with
    | error f' =>
      rw [hread] at h
      cases h
      exact (read_error_iff.mp hread).imp id .misread
    | ok entries =>
      rw [hread] at h
      obtain ⟨before, e, later, built, rfl, hbuilt, hrefused⟩ := build_error_iff.mp h
      exact Or.inr (.refused hread hbuilt hrefused)
  · intro h
    unfold load
    rcases h with hstrays | hreported
    · rw [read_error_iff.mpr (Or.inl hstrays)]
      rfl
    · cases hreported with
      | misread misread =>
        rw [read_error_iff.mpr (Or.inr misread)]
        rfl
      | refused entries earlier refused =>
        rw [entries]
        exact build_error_iff.mpr ⟨_, _, _, _, rfl, earlier, refused⟩

end Manifest

/-! ## §5. What the program makes of it. -/

namespace CommandLine

open Act

variable {m : Machine} {p : Path} {f : Failure}

/-- The manifest that a request is about. -/
def manifest? : Request → Option Path
  | .plan manifest _ => some manifest
  | .apply manifest _ _ => some manifest
  | _ => none

/-- A failure of a load that is about the input is said in a line; any other one is passed on. -/
theorem perform_loadResources {r : Registry} (h : Manifest.load r m p = .error f)
    (said : Transcript) : perform (loadResources r p) ⟨m, said⟩ =
      if f.isAboutInput then (.ok none, ⟨m, said ++ [.notLoaded f.message]⟩)
      else (.error f, ⟨m, said⟩) := by
  unfold loadResources
  rw [perform_tryCatch, perform_bind, perform_observe]
  simp only [h]
  split
  · rw [perform_bind, perform_say]
    rfl
  · rfl

/-- **A request about a manifest that is not loaded** ends with the exit code for failures and a line, or
    in the failure itself. -/
theorem perform_run_of_error {r : Registry} (h : Manifest.load r m p = .error f) {request : Request}
    (hrequest : manifest? request = some p) (said : Transcript) :
    perform (run r request) ⟨m, said⟩ =
      if f.isAboutInput then (.ok failure, ⟨m, said ++ [.notLoaded f.message]⟩)
      else (.error f, ⟨m, said⟩) := by
  have hrun : ∀ mode dry site title, perform (runManifest r mode p dry site title) ⟨m, said⟩ =
      if f.isAboutInput then (.ok failure, ⟨m, said ++ [.notLoaded f.message]⟩)
      else (.error f, ⟨m, said⟩) := by
    intro mode dry site title
    unfold runManifest
    rw [perform_bind, perform_loadResources h]
    by_cases habout : f.isAboutInput = true
    · rw [if_pos habout, if_pos habout]
      rfl
    · rw [if_neg habout, if_neg habout]
  cases request with
  | plan manifest site =>
    cases hrequest
    exact hrun ..
  | apply manifest dry site =>
    cases hrequest
    exact hrun ..
  | kinds => cases hrequest
  | version => cases hrequest

end CommandLine

namespace Manifest

open Act CommandLine

/-- **A manifest is loaded, or a line says why it is not, exactly if** nothing about it strays.  What
    strays ends every request about the manifest, and nothing is printed. -/
theorem load_reported_iff_not_strays (m : Machine) (p : Path) :
    ((∃ entries resources, read m p = .ok entries ∧ List.Forall₂ (Comes m) entries resources ∧
        load .standard m p = .ok resources) ∨
      (∃ f, Reported m p f ∧ load .standard m p = .error f ∧
        ∀ request, manifest? request = some p → ∀ said, perform (run .standard request) ⟨m, said⟩ =
          (.ok failure, ⟨m, said ++ [.notLoaded f.message]⟩)) ↔
      ∀ f, ¬ Strays m p.toString f) ∧
    ∀ f, Strays m p.toString f → load .standard m p = .error f ∧ f.isAboutInput = false ∧
      ∀ request, manifest? request = some p → ∀ said,
        perform (run .standard request) ⟨m, said⟩ = (.error f, ⟨m, said⟩) := by
  refine ⟨⟨?_, ?_⟩, ?_⟩
  · intro hends f hstrays
    have hfails := load_error_iff.mpr (Or.inl hstrays)
    rcases hends with ⟨entries, resources, -, -, hloaded⟩ | ⟨f', hreported, hfails', -⟩
    · rw [hfails] at hloaded
      cases hloaded
    · -- a failure is not of both kinds
      rw [hfails] at hfails'
      cases hfails'
      have habout := hreported.isAboutInput
      rw [hstrays.not_isAboutInput] at habout
      cases habout
  · intro hnone
    cases hload : load .standard m p with
    | ok resources =>
      obtain ⟨entries, hread, hcomes⟩ := load_ok_iff.mp hload
      exact Or.inl ⟨entries, resources, hread, hcomes, rfl⟩
    | error f =>
      rcases load_error_iff.mp hload with hstrays | hreported
      · exact absurd hstrays (hnone f)
      · refine Or.inr ⟨f, hreported, rfl, ?_⟩
        intro request hrequest said
        rw [perform_run_of_error hload hrequest, if_pos hreported.isAboutInput]
  · intro f hstrays
    have hload := load_error_iff.mpr (Or.inl hstrays)
    refine ⟨hload, hstrays.not_isAboutInput, ?_⟩
    intro request hrequest said
    rw [perform_run_of_error hload hrequest, if_neg (by simp [hstrays.not_isAboutInput])]

/-- A machine with a manifest of one byte, with which no text starts. -/
def garbled : Machine := bare.put ["m.yaml"] ⟨.file [0xff], 0o644, 0, 0⟩

theorem strays_garbled :
    Strays garbled (Path.ofString "/m.yaml").toString (.undecodable ⟨0xff, 0, 1, .invalidStart⟩) := by
  have hpath : (Path.ofString "/m.yaml").toString = "/m.yaml" := by decide
  have harrive : garbled.arrive "/m.yaml" =
      .ok (.present ["m.yaml"] ⟨.file [0xff], 0o644, 0, 0⟩) :=
    arrive_put_vacant (arrive_bare (by decide) (by decide) (by decide) (by decide) (by decide)) rfl
  have hstat : garbled.stat "/m.yaml" = .ok ⟨.file [0xff], 0o644, 0, 0⟩ :=
    stat_ok_iff.mpr ⟨rfl, _, harrive⟩
  have hread : garbled.read "/m.yaml" = .ok [0xff] := by
    unfold Machine.read
    rw [existing_ok_iff.mpr ⟨rfl, harrive⟩]
    rfl
  rw [hpath]
  exact .undecodable hstat hread rfl

/-- **A manifest of bytes that are no text ends the program**, and no line says so. -/
theorem garbled_ends_program : ∃ f, load .standard garbled (Path.ofString "/m.yaml") = .error f ∧
    f.isAboutInput = false ∧
    perform (run .standard (.plan (Path.ofString "/m.yaml") none)) ⟨garbled, []⟩ =
      (.error f, ⟨garbled, []⟩) := by
  have hload := load_error_iff.mpr (Or.inl strays_garbled)
  refine ⟨_, hload, rfl, ?_⟩
  rw [perform_run_of_error hload rfl]
  rfl

end Manifest

end Converge
