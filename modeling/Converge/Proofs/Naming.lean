/-
  Converge.Proofs.Naming
  ──────────────────────
  **WHAT THE LINE ABOUT A FAILURE SAYS.**

  The name of a resource is put before what is said of its failure in one of two places: by the failure itself,
  if it is one of resources, and else by the run.  A missing site is no failure of resources, but what is said
  of it starts with the name all the same, so its line has the name twice.  And a path is said of what is no
  file, so its line has the name twice if the path starts as the name does.  Every other line has it once.

  Main results:
    * `step_error` — the failures that are noted are the expected ones;
    * `said_starts_iff` — when what is said starts with the name;
    * `perform_run_noted` — a failure is told in one line, and the run goes on;
    * `line_names_iff` — what is in that line, and when it is printed as it is;
    * `site_named_twice` — the line about a missing site.
-/
import Converge.Proofs.Anatomy
import Converge.Proofs.Diagnosis
import Converge.Proofs.Lines
import Converge.Proofs.Refusal
import Converge.Proofs.Runs

namespace Converge.FileResource

open Converge.Machine Act

variable {r : FileResource} {o : Options} {f : Failure} {m : Machine} {s s' : Session}

/-! ## §1. Failures that are noted. -/

/-- What a run notes and goes on: what a comparison is meant to fail with, or a refusal of the system. -/
inductive Expected (r : FileResource) (o : Options) : Failure → Prop where
  | foreseen {f : Failure} (h : r.Foreseen o f) : Expected r o f
  | refused (errno : Errno) (path : String) : Expected r o (.call (.system errno path))

/-- Every failure of the action is expected, or ends the run. -/
def Fails (r : FileResource) (o : Options) {α : Type} (act : Act α) : Prop :=
  Triple (fun _ => True) act (fun _ _ => True) fun f _ => ¬ Uncontained f → r.Expected o f

theorem fails_look {α : Type} {look : Machine → Except Failure α}
    (h : ∀ m f, look m = .error f → ¬ Uncontained f → r.Expected o f) : r.Fails o (observe look) :=
  Triple.observe (fun _ _ _ _ => trivial) fun m f _ hf => h m f hf

theorem expected_call {e : CallFailure} (h : ¬ Uncontained (.call e)) : r.Expected o (.call e) := by
  cases e with
  | nulInPath => exact absurd (uncontained_call.mpr rfl) h
  | system errno path => exact .refused errno path

theorem expected_lookup {cause : LookupFailure} (h : ¬ Uncontained (lookupFailure r.id cause)) :
    r.Expected o (lookupFailure r.id cause) := by
  cases cause with
  | nulInName => exact absurd (uncontained_lookupFailure.mpr rfl) h
  | _ => exact .foreseen (.identity _)

theorem fails_regularFile : r.Fails o (observe r.regularFile) := by
  refine fails_look fun m f hf hnot => ?_
  unfold regularFile at hf
  cases hstat : m.stat r.path with
  | error e =>
    rw [hstat] at hf
    cases hf
    exact expected_call hnot
  | ok n =>
    rw [hstat] at hf
    dsimp only at hf
    split at hf
    · cases hf
    · cases hf
      exact .foreseen (.notAFile none)

theorem fails_evaluate : r.Fails o (observe (r.evaluate o)) := by
  refine fails_look fun m f hf hnot => ?_
  rcases evaluate_error_iff.mp hf with
    ⟨e, -, -, rfl⟩ | ⟨n, -, ⟨-, rfl⟩ | ⟨-, howner | ⟨gap, -, hcontent⟩⟩⟩
  · exact expected_call hnot
  · exact .foreseen (.notAFile _)
  · exact .foreseen (foreseen_of_attributes hnot (.inl howner))
  · exact .foreseen (foreseen_of_attributes (n := n) hnot (.inr hcontent))

/-- **Whatever is done about a resource, what goes wrong is expected**, or ends the run. -/
theorem covers_fails (r : FileResource) (o : Options) : r.Covers o fun _ => r.Fails o where
  pure _ := Triple.pure fun _ _ => trivial
  bind := Triple.bind
  ids := fails_look fun _ _ hf hnot => by
    obtain ⟨cause, rfl⟩ := ownerIds_error hf
    exact expected_lookup hnot
  node := fails_regularFile
  owner _ := fails_look fun _ _ hf hnot => .foreseen (foreseen_of_attributes hnot (.inl hf))
  content := fails_look fun m _ hf hnot =>
    .foreseen (foreseen_of_attributes (n := .plainDirectory) hnot (.inr hf))
  there := fails_look fun _ _ hf _ => by cases hf
  state := fails_evaluate
  step _ := by
    refine Triple.bind (triple_progress _) fun _ => ?_
    unfold take
    split
    · exact Triple.pure fun _ _ => trivial
    · exact Triple.change (fun _ _ _ _ => trivial) fun _ _ _ _ => expected_call
  word _ := triple_progress _

/-- **A step fails as expected**, or ends the run. -/
theorem step_error {mode : Mode} (h : perform (Runner.step mode o r) s = (.error f, s'))
    (hcontained : Runner.isContained f = true) : r.Expected o f := by
  have hfails : r.Fails o (Runner.step mode o r) := by
    cases mode with
    | plan => exact (covers_fails r o).state
    | apply => exact (covers_fails r o).reconcile
  have hend := hfails s trivial
  rw [h] at hend
  refine hend fun hbad => ?_
  rw [Uncontained, hcontained] at hbad
  cases hbad

end Converge.FileResource

namespace Converge.Runner

open Converge.Machine Converge.Markup Converge.Text Act FileResource

variable {r : FileResource} {o : Options} {f : Failure} {s s₁ s₂ : Session} {mode : Mode}

/-! ## §2. What is said. -/

/-- What is said of a failure behind the name of its resource. -/
def said : Failure → String
  | .resource _ fault => fault.message
  | f => f.message

/-- The text starts with the name, as it stands in front of what is said. -/
def StartsWith (id text : String) : Prop := (id ++ ": ").toList <+: text.toList

instance (id text : String) : Decidable (StartsWith id text) :=
  inferInstanceAs (Decidable ((id ++ ": ").toList <+: text.toList))

/-- The line names the resource once: behind the sign of a failure it has the name, and what comes behind
    the name does not start with it again. -/
def NamesOnce (id line : String) : Prop :=
  ∃ text, line = "✘ " ++ (id ++ ": " ++ text) ∧ ¬ StartsWith id text

/-- What is said starts with the name of the resource itself. -/
inductive NamedTwice (r : FileResource) : Failure → Prop where
  /-- What is said of a missing site is about the resource by name. -/
  | noSite (source : String) : NamedTwice r (.config (.noSite r.id source))
  /-- What is said of something that is no file starts with the path. -/
  | path {state : Option State} (starts : StartsWith r.id (r.path ++ " ")) :
      NamedTwice r (.resource r.id (.notAFile r.path state))

theorem messageFor_eq (h : r.Expected o f) : f.messageFor r.id = r.id ++ ": " ++ said f := by
  cases h with
  | foreseen h => cases h <;> rfl
  | refused errno path => rfl

/-- A text with another first letter does not start with the name of a resource. -/
theorem not_starts (front : String) (hfront : front.toList.head?.any (· ≠ 'f') = true) (rest : String) :
    ¬ StartsWith r.id (front ++ rest) := by
  rintro ⟨more, heq⟩
  -- a name starts with its kind
  have hid : ((r.id ++ ": ").toList ++ more).head? = some 'f' := by
    simp [FileResource.id, FileResource.idOf, FileResource.kind, String.toList_append]
  rw [heq, String.toList_append, List.head?_append] at hid
  cases hhead : front.toList.head? with
  | none =>
    rw [hhead] at hfront
    cases hfront
  | some c =>
    rw [hhead] at hfront hid
    cases hid
    exact absurd hfront (by decide)

theorem toList_id_colon (r : FileResource) : (r.id ++ ": ").toList = r.id.toList ++ [':', ' '] := by
  simp [String.toList_append]

/-- A name with a colon and a blank starts a path and what is said of it only if it starts the path with one
    blank behind it, where there is no colon in what is said. -/
theorem colon_prefix_iff {name path behind : List Char} (hbehind : ':' ∉ behind) :
    name ++ [':', ' '] <+: path ++ ' ' :: behind ↔ name ++ [':', ' '] <+: path ++ [' '] := by
  have hblank : path ++ [' '] <+: path ++ ' ' :: behind := ⟨behind, by simp⟩
  refine ⟨fun h => ?_, fun h => h.trans hblank⟩
  by_cases hshort : (name ++ [':', ' ']).length ≤ (path ++ [' ']).length
  · exact List.prefix_of_prefix_length_le h hblank hshort
  · -- the colon would be in what is said
    exfalso
    simp only [List.length_append, List.length_cons, List.length_nil] at hshort
    obtain ⟨rest, heq⟩ := h
    have hcolon : (path ++ ' ' :: behind)[name.length]? = some ':' := by
      rw [← heq]
      simp
    rw [List.getElem?_append_right (by omega)] at hcolon
    rcases List.mem_cons.mp (List.mem_of_getElem? hcolon) with hsame | hmem
    · exact absurd hsame (by decide)
    · exact hbehind hmem

theorem notAFile_starts_iff (state : Option State) :
    StartsWith r.id (said (.resource r.id (.notAFile r.path state))) ↔
      StartsWith r.id (r.path ++ " ") := by
  have hsaid : (said (.resource r.id (.notAFile r.path state))).toList =
      r.path.toList ++ ' ' :: "existe, pero no es un archivo".toList := by
    have hwords : " existe, pero no es un archivo".toList = ' ' :: "existe, pero no es un archivo".toList := by
      decide
    change (r.path ++ " existe, pero no es un archivo").toList = _
    rw [String.toList_append, hwords]
  have hpath : (r.path ++ " ").toList = r.path.toList ++ [' '] := by simp [String.toList_append]
  unfold StartsWith
  rw [hsaid, hpath, toList_id_colon]
  exact colon_prefix_iff (by decide)

theorem not_starts_lookup (cause : LookupFailure) : ¬ StartsWith r.id cause.message := by
  cases cause with
  | unknownUser name => exact not_starts "usuario desconocido: " (by decide) _
  | unknownGroup name => exact not_starts "grupo desconocido: " (by decide) _
  | namelessUser uid => exact not_starts "uid sin usuario: " (by decide) _
  | namelessGroup gid => exact not_starts "gid sin grupo: " (by decide) _
  | noAccount uid => exact not_starts "getpwuid(): uid not found: " (by decide) _
  | nulInName => exact not_starts "embedded " (by decide) "null byte"

theorem not_starts_refused (errno : Errno) (path : String) :
    ¬ StartsWith r.id (CallFailure.system errno path).message := by
  unfold CallFailure.message
  simp only [String.append_assoc]
  exact not_starts _ (by decide) _

/-- **What is said starts with the name** of the resource in two cases. -/
theorem said_starts_iff (h : r.Expected o f) :
    StartsWith r.id (said f) ↔ NamedTwice r f := by
  cases h with
  | foreseen h =>
    cases h with
    | notAFile state =>
      rw [notAFile_starts_iff]
      constructor
      · exact .path
      · rintro (_ | starts)
        exact starts
    | identity cause => exact iff_of_false (not_starts_lookup cause) nofun
    | checksum errno path => exact iff_of_false (not_starts _ (by decide) _) nofun
    | @noSite source declared given unknown =>
      refine iff_of_true ?_ (.noSite _)
      -- the name is the first thing that is said
      have hsource : ": source=".toList = ": ".toList ++ "source=".toList := by decide
      unfold StartsWith said Failure.message ConfigFault.message
      simp only [String.toList_append, hsource, List.append_assoc]
      exact (List.prefix_append_right_inj _).mpr (List.prefix_append _ _)
  | refused errno path => exact iff_of_false (not_starts_refused errno path) nofun

/-- **The line names the resource once** unless what is said starts with the name. -/
theorem namesOnce_iff (id text : String) :
    NamesOnce id ("✘ " ++ (id ++ ": " ++ text)) ↔ ¬ StartsWith id text := by
  refine ⟨?_, fun h => ⟨text, rfl, h⟩⟩
  rintro ⟨other, heq, h⟩
  have hchars := congrArg String.toList heq
  simp only [String.toList_append, List.append_cancel_left_eq] at hchars
  rw [StartsWith, hchars]
  exact h

/-! ## §3. How it ends. -/

/-- The text ends in something other than a backslash. -/
def EndsOpen (cs : List Char) : Prop := ∃ c, cs.getLast? = some c ∧ c ≠ '\\'

theorem EndsOpen.append {cs : List Char} (h : EndsOpen cs) (front : List Char) : EndsOpen (front ++ cs) := by
  obtain ⟨c, hlast, hc⟩ := h
  exact ⟨c, by rw [List.getLast?_append, hlast, Option.some_or], hc⟩

theorem EndsOpen.ends {cs : List Char} (h : EndsOpen cs) : Ends cs := by
  obtain ⟨c, hlast, hc⟩ := h
  rintro ⟨front, rfl⟩
  rw [List.getLast?_concat] at hlast
  exact hc (Option.some.inj hlast).symm

theorem endsOpen_quote (s : String) : EndsOpen (quote s).toList := by
  have hquote : quoteFor s.toList ≠ '\\' := by
    unfold quoteFor
    split <;> decide
  refine ⟨quoteFor s.toList, ?_, hquote⟩
  rw [quote, String.toList_ofList, quoteChars]
  exact List.getLast?_concat

theorem endsOpen_nat (n : Nat) : EndsOpen n.repr.toList := by
  rw [Nat.repr, String.toList_ofList]
  cases hlast : (Nat.toDigits 10 n).getLast? with
  | none => exact absurd (List.getLast?_eq_none_iff.mp hlast) Nat.toDigits_ne_nil
  | some c =>
    have hdigit := Nat.isDigit_of_mem_toDigits (by decide) (by decide) (List.mem_of_getLast? hlast)
    refine ⟨c, hlast, ?_⟩
    rintro rfl
    exact absurd hdigit (by decide)

theorem endsOpen_int (i : Int) : EndsOpen (toString i).toList := by
  cases i with
  | ofNat n => exact endsOpen_nat n
  | negSucc n =>
    have hchars : (toString (Int.negSucc n)).toList = ['-'] ++ (n + 1).repr.toList := by
      show ("-" ++ (n + 1).repr).toList = _
      simp [String.toList_append]
    rw [hchars]
    exact (endsOpen_nat (n + 1)).append _

theorem endsOpen_refused (errno : Errno) (path : String) :
    EndsOpen (CallFailure.system errno path).message.toList := by
  unfold CallFailure.message
  rw [String.toList_append]
  exact (endsOpen_quote path).append _

theorem endsOpen_lookup (cause : LookupFailure) : EndsOpen cause.message.toList := by
  cases cause with
  | unknownUser name | unknownGroup name =>
    unfold LookupFailure.message
    rw [String.toList_append]
    exact (endsOpen_quote name).append _
  | namelessUser i | namelessGroup i | noAccount i =>
    unfold LookupFailure.message
    rw [String.toList_append]
    exact (endsOpen_int i).append _
  | nulInName => exact ⟨'e', by decide, by decide⟩

/-- What is said ends in a quotation mark, a number, or the end of a sentence. -/
theorem endsOpen_said (h : r.Expected o f) : EndsOpen (said f).toList := by
  cases h with
  | foreseen h =>
    cases h with
    | notAFile state =>
      unfold said ResourceFault.message
      rw [String.toList_append]
      exact EndsOpen.append ⟨'o', by decide, by decide⟩ _
    | identity cause => exact endsOpen_lookup cause
    | checksum errno path =>
      unfold said ResourceFault.message
      rw [String.toList_append]
      exact (endsOpen_refused errno path).append _
    | noSite =>
      unfold said Failure.message ConfigFault.message
      rw [String.toList_append]
      exact EndsOpen.append ⟨')', by decide, by decide⟩ _
  | refused errno path => exact endsOpen_refused errno path

/-! ## §4. The line. -/

/-- **A failure that is noted is told in one line**, and the run goes on behind it. -/
theorem perform_run_noted {front : List FileResource} {outcomes : List Outcome}
    (hfront : perform (run mode o front) s = (.ok outcomes, s₁))
    (hstep : perform (step mode o r) s₁ = (.error f, s₂)) (hcontained : isContained f = true)
    (rest : List FileResource) :
    perform (run mode o (front ++ r :: rest)) s =
      perform (do return outcomes ++ fault r f :: (← run mode o rest))
        { s₂ with transcript := s₂.transcript ++ [.failed (f.messageFor r.id)] } := by
  have hone : perform (runOne mode o r) s₁ =
      (.ok (fault r f),
        { s₂ with transcript := s₂.transcript ++ [.failed (f.messageFor r.id)] }) := by
    rw [perform_runOne, hstep]
    exact if_pos hcontained
  rw [run_append, perform_bind, hfront]
  dsimp only
  rw [run_cons, bind_assoc, perform_bind, hone]
  simp only [bind_assoc, pure_bind]

/-- **The line about a failure**: it has the name of the resource and behind it what is said, it has the
    name once unless what is said starts with it, and it is printed as it is exactly if the message
    stands. -/
theorem line_names_iff {front : List FileResource} {outcomes : List Outcome}
    (hfront : perform (run mode o front) s = (.ok outcomes, s₁))
    (hstep : perform (step mode o r) s₁ = (.error f, s₂)) (hcontained : isContained f = true)
    (rest : List FileResource) :
    perform (run mode o (front ++ r :: rest)) s =
        perform (do return outcomes ++ fault r f :: (← run mode o rest))
          { s₂ with transcript := s₂.transcript ++ [.failed (f.messageFor r.id)] } ∧
      f.messageFor r.id = r.id ++ ": " ++ said f ∧
      (NamesOnce r.id ("✘ " ++ f.messageFor r.id) ↔ ¬ NamedTwice r f) ∧
      (Printable (f.messageFor r.id) →
        ((Entry.failed (f.messageFor r.id)).printed = .line ("✘ " ++ f.messageFor r.id) ↔
          Stands (f.messageFor r.id).toList)) := by
  have hexpected := step_error hstep hcontained
  -- by whichever of the two the name is put in front, it is put there
  have hmessage := messageFor_eq hexpected
  refine ⟨perform_run_noted hfront hstep hcontained rest, hmessage, ?_, fun hprint => ?_⟩
  · rw [hmessage, namesOnce_iff, said_starts_iff hexpected]
  · refine Entry.printed_failed_iff hprint ?_
    rw [hmessage, String.toList_append]
    exact ((endsOpen_said hexpected).append _).ends

/-- To plan is to compare. -/
theorem perform_step_plan (h : r.evaluate o s.machine = .error f) :
    perform (step .plan o r) s = (.error f, s) := by
  refine (perform_observe _ _).trans ?_
  rw [h]

/-- A directory in the place of the message of the day is told of by name once. -/
theorem directory_named_once :
    perform (step .plan {} plainMotd) ⟨inPlace .directory, []⟩ =
      (.error (.resource "file[/motd]" (.notAFile "/motd" (some ⟨.present, .present, false, []⟩))),
        ⟨inPlace .directory, []⟩) ∧
    (perform (run .plan {} [plainMotd]) ⟨inPlace .directory, []⟩).2.transcript =
      [.failed "file[/motd]: /motd existe, pero no es un archivo"] ∧
    NamesOnce "file[/motd]" "✘ file[/motd]: /motd existe, pero no es un archivo" := by
  have heval : plainMotd.evaluate {} (inPlace .directory) =
      .error (.resource "file[/motd]" (.notAFile "/motd" (some ⟨.present, .present, false, []⟩))) :=
    evaluate_error_iff.mpr (.inr ⟨_, stat_directory, .inl ⟨rfl, rfl⟩⟩)
  have hstep : perform (step .plan {} plainMotd) ⟨inPlace .directory, []⟩ =
      (.error (.resource "file[/motd]" (.notAFile "/motd" (some ⟨.present, .present, false, []⟩))),
        ⟨inPlace .directory, []⟩) := perform_step_plan heval
  have hfront : perform (run .plan {} []) ⟨inPlace .directory, []⟩ =
      (.ok [], ⟨inPlace .directory, []⟩) := rfl
  obtain ⟨hrun, -, honce, -⟩ := line_names_iff hfront hstep rfl []
  have hmessage : (Failure.resource "file[/motd]"
      (.notAFile "/motd" (some ⟨.present, .present, false, []⟩))).messageFor plainMotd.id =
      "file[/motd]: /motd existe, pero no es un archivo" := by decide
  rw [hmessage] at hrun honce
  refine ⟨hstep, ?_, honce.mpr ?_⟩
  · rw [List.nil_append] at hrun
    rw [hrun]
    rfl
  · rintro (_ | starts)
    exact absurd starts (by decide)

/-- What is said of a message of the day without its site, name and all. -/
def unsitedMessage : String :=
  "file[/motd]: file[/motd]: source='motd' requiere un directorio de sitio (--site-dir o FORJA_SITE_DIR)"

/-- **A missing site is told of by name twice.** -/
theorem site_named_twice :
    build (inPlace (.file [])) "/motd" (.mapping [(.text "source", .text "motd")]) = .ok sourced ∧
    (perform (run .plan {} [sourced]) ⟨inPlace (.file []), []⟩).2.transcript = [.failed unsitedMessage] ∧
    (Entry.failed unsitedMessage).printed = .line ("✘ " ++ unsitedMessage) ∧
    ¬ NamesOnce "file[/motd]" ("✘ " ++ unsitedMessage) := by
  have hfree : bare.arrive sourced.path = .ok (.vacant [] "motd") :=
    arrive_bare (by decide) (by decide) (by decide) (by decide) (by decide)
  have hstat : (inPlace (.file [])).stat sourced.path = .ok ⟨.file [], 0o755, 0, 0⟩ :=
    stat_ok_iff.mpr ⟨rfl, _, arrive_put_vacant hfree rfl⟩
  have heval : sourced.evaluate {} (inPlace (.file [])) =
      .error (.config (.noSite "file[/motd]" "motd")) :=
    evaluate_error_iff.mpr (.inr ⟨_, hstat, .inr ⟨rfl, .inr ⟨none, rfl, rfl⟩⟩⟩)
  have hstep : perform (step .plan {} sourced) ⟨inPlace (.file []), []⟩ =
      (.error (.config (.noSite "file[/motd]" "motd")), ⟨inPlace (.file []), []⟩) :=
    perform_step_plan heval
  have hmessage : (Failure.config (.noSite "file[/motd]" "motd")).messageFor sourced.id =
      unsitedMessage := by decide +kernel
  have hfront : perform (run .plan {} []) ⟨inPlace (.file []), []⟩ =
      (.ok [], ⟨inPlace (.file []), []⟩) := rfl
  have hrun := perform_run_noted hfront hstep rfl []
  rw [hmessage, List.nil_append] at hrun
  have htext : unsitedMessage = "file[/motd]" ++ ": " ++
      "file[/motd]: source='motd' requiere un directorio de sitio (--site-dir o FORJA_SITE_DIR)" := by
    decide +kernel
  have hslash : '\\' ∉ unsitedMessage.toList := by decide
  refine ⟨rfl, ?_, ?_, ?_⟩
  · rw [hrun]
    rfl
  · exact (Entry.printed_failed_iff (by decide) fun h => hslash (h.mem (by simp))).mpr
      (stands_of_not_mem hslash)
  · rw [htext, namesOnce_iff, not_not]
    decide +kernel

end Converge.Runner
