/-
  Converge.Proofs.Existence
  ─────────────────────────
  **WHETHER A FILE EXISTS, AND WHAT IS MADE OF IT.**

  A comparison calls a file absent if its path leads nowhere, final links followed; a deletion looks for
  the entry that the path names, be it a link.  The two agree except about a link that leads nowhere:
  the comparison says that nothing is there, and the deletion removes it.

  Attributes are compared of every file that is found, whatever is wanted.  That something about a file
  differs is therefore independent of whether the file should exist: of one that should, it asks for
  mending, and one that should not is deleted all the same.

  Main results:
    * `namesLink_of_unresolved` — what is named by a path that leads nowhere is a link;
    * `absent_idle_iff_no_link` — when deleting what is absent does nothing;
    * `evaluate_wanting` — what is wanted changes nothing about a comparison but the wish itself;
    * `update_settled_iff` — what it means that attributes differ, and when the file exists as it should.
-/
import Converge.Proofs.Anatomy
import Converge.Proofs.Creation
import Converge.Proofs.Diagnosis
import Converge.Proofs.Exactness
import Converge.Proofs.Removal

namespace Converge.Machine

variable {m : Machine} {path : String} {place : Place} {n link : Node}

/-! ## §1. Links that lead nowhere. -/

/-- A walk that has no name left ends alike whether final links are followed or not. -/
theorem walk_nil (d : Disk) (f g : Bool) (b : Nat) (place : Place) :
    walk d f b place [] = walk d g b place [] := by
  cases hp : d.node? place with
  | none => rw [walk_missing hp, walk_missing hp]
  | some here => rw [walk_arrived hp, walk_arrived hp]

/-- A name in a directory where a walk arrives only if it does not follow links is the name of a
    link. -/
theorem link_of_unresolved {d : Disk} {b : Nat} {up p : Place} {here : Node} {name : String}
    (hup : d.node? up = some here) (hdir : here.isDirectory = true)
    (hends : walk d false b up [name] = .ok (.present p link))
    (hlost : ∀ q k, walk d true b up [name] ≠ .ok (.present q k)) :
    p = up ++ [name] ∧ link.isLink = true ∧ d.node? p = some link ∧
      name ≠ "." ∧ name ≠ ".." ∧ name.utf8ByteSize ≤ maxName := by
  -- where both walks go on alike they arrive together, and then the path would not be lost
  have htogether : ∀ q, turn d false b up name true = .go b q [] →
      turn d true b up name true ≠ .go b q [] := by
    intro q hfalse htrue
    rw [walk_go hup hdir hfalse, List.append_nil, walk_nil d false true] at hends
    apply hlost p link
    rw [walk_go hup hdir htrue, List.append_nil, hends]
  by_cases hlong : maxName < name.utf8ByteSize
  · rw [walk_stop hup hdir (turn_tooLong hlong)] at hends
    cases hends
  have hshort : name.utf8ByteSize ≤ maxName := Nat.le_of_not_lt hlong
  by_cases hdot : name = "."
  · subst hdot
    exact absurd rfl (htogether up rfl)
  by_cases hdots : name = ".."
  · subst hdots
    exact absurd rfl (htogether up.dropLast rfl)
  cases hentry : d.node? (up ++ [name]) with
  | none =>
    rw [walk_stop hup hdir (turn_free hshort hdot hdots hentry)] at hends
    cases hends
  | some entry =>
    cases hlink : entry.isLink with
    | false =>
      have hturn := fun f => (turn_at hshort hdot hdots hentry b f true).2 hlink
      exact absurd (hturn true) (htogether _ (hturn false))
    | true =>
      have hturn := (turn_at hshort hdot hdots hentry b false true).1 hlink rfl
      rw [walk_stop hup hdir hturn] at hends
      cases hends
      exact ⟨rfl, hlink, hentry, hdot, hdots, hshort⟩

/-- A path ends with the name of a link in a directory. -/
structure NamesLink (m : Machine) (path : String) (up : Place) (name : String) (link : Node) :
    Prop where
  slash : endsWithSlash path = false
  last : (namesOf path).getLast? = some name
  parent : m.parentOf path = .ok up
  short : name.utf8ByteSize ≤ maxName
  plain : name ≠ "." ∧ name ≠ ".."
  entry : m.disk.node? (up ++ [name]) = some link
  isLink : link.isLink = true

/-- **What is named by a path that leads nowhere is a link**, and the directory that it lies in can be
    reached. -/
theorem namesLink_of_unresolved (hentry : m.entryOf path = .ok (.present place link))
    (hlost : ∀ q k, m.arrive path ≠ .ok (.present q k)) :
    ∃ up name, m.NamesLink path up name link ∧ place = up ++ [name] := by
  unfold entryOf at hentry
  unfold arrive at hlost
  rcases List.eq_nil_or_concat (steps path) with hnone | ⟨front, name, hsteps⟩
  · -- a path without names leads where it starts
    rw [hnone, walk_nil m.disk false true] at hentry
    rw [hnone] at hlost
    exact absurd hentry (hlost place link)
  rw [List.concat_eq_append] at hsteps
  rw [hsteps] at hentry hlost
  rcases walk_append m.disk linkBudget (m.start path) front with
    ⟨e, he⟩ | ⟨b, up, here, hup, hdir, hgo⟩
  · rw [he false [name] (by simp)] at hentry
    cases hentry
  rw [hgo false [name] (by simp)] at hentry
  rw [hgo true [name] (by simp)] at hlost
  obtain ⟨rfl, hlink, hthere, hdot, hdots, hshort⟩ := link_of_unresolved hup hdir hentry hlost
  -- a slash at the end would have made the last name a dot
  have hslash : endsWithSlash path = false := by
    rw [← Bool.not_eq_true]
    intro hslash
    by_cases hnames : namesOf path = []
    · simp [steps, hnames] at hsteps
    · have hdotted : namesOf path ++ ["."] = front ++ [name] := by
        rw [← hsteps]
        simp [steps, hslash, hnames]
      obtain ⟨-, hname⟩ := List.append_inj' hdotted rfl
      cases hname
      exact hdot rfl
  have hnames : namesOf path = front ++ [name] := (steps_of_noSlash hslash).symm.trans hsteps
  have hlast : (namesOf path).getLast? = some name := by
    rw [hnames, List.getLast?_concat]
  have hparent : m.parentOf path = .ok up := by
    unfold parentOf walkFrom
    rw [hnames, List.dropLast_concat, hgo true ["."] (by simp), walk_dot hup hdir]
    rfl
  exact ⟨up, name, ⟨hslash, hlast, hparent, hshort, ⟨hdot, hdots⟩, hthere, hlink⟩, rfl⟩

/-- A link is removed like any other entry. -/
theorem NamesLink.remove {up : Place} {name : String} (h : m.NamesLink path up name link)
    (hc : m.precheck .remove path = .ok ()) : m.remove path = .ok (m.without (up ++ [name])) :=
  remove_of_entry hc h.parent h.last h.plain.1 h.plain.2 h.short h.entry
    (Node.isDirectory_of_isLink h.isLink) h.slash

theorem lstat_ok_iff : m.lstat path = .ok n ↔
    m.precheck .lstat path = .ok () ∧ ∃ place, m.entryOf path = .ok (.present place n) := by
  unfold lstat existing walkFrom entryOf
  cases hc : m.precheck .lstat path with
  | error e => simp [bind, Except.bind, Except.map]
  | ok u =>
    match hwalk : walk m.disk false linkBudget (m.start path) (steps path) with
    | .error e => simp [bind, Except.bind, Except.map]
    | .ok (.vacant parent name) => simp [bind, Except.bind, Except.map, throw_eq]
    | .ok (.present place node) =>
      simp [bind, Except.bind, Except.map, pure, Except.pure]

end Converge.Machine

namespace Converge.FileResource

open Converge.Machine Act

variable {r : FileResource} {o : Options} {m m' : Machine} {n link : Node} {s : Session} {st : State}

/-! ## §2. Deleting what is absent. -/

/-- A state that says absent has found that the path leads nowhere. -/
theorem stat_of_absent (heval : r.evaluate o m = .ok st) (habsent : st.current = .absent) :
    ∃ e, m.stat r.path = .error e := by
  rcases evaluate_ok heval with ⟨e, hstat, -, -⟩ | ⟨n, owner, content, -, -, -, -, rfl⟩
  · exact ⟨e, hstat⟩
  · cases habsent

/-- Where a path leads nowhere and has an entry, deleting removes the entry, which is a link. -/
theorem deletes_link (hcalm : s.machine.faults = []) {e : CallFailure}
    (hstat : s.machine.stat r.path = .error e) (hlstat : s.machine.lstat r.path = .ok link) :
    link.isLink = true ∧ ∃ place, s.machine.entryOf r.path = .ok (.present place link) ∧
      perform (r.delete o) s =
        (.ok (), ⟨if o.dryRun then s.machine else s.machine.without place,
          s.transcript ++ [.progress o.dryRun r.id "eliminando archivo"]⟩) := by
  obtain ⟨hcheck, place, hentry⟩ := lstat_ok_iff.mp hlstat
  have hfit := fit_of_precheck hcheck
  have hlost : ∀ q k, s.machine.arrive r.path ≠ .ok (.present q k) := by
    intro q k ha
    rw [stat_ok_iff.mpr ⟨precheck_of_calm hcalm hfit .stat, q, ha⟩] at hstat
    cases hstat
  obtain ⟨up, name, hnames, rfl⟩ := namesLink_of_unresolved hentry hlost
  have hremove := hnames.remove (precheck_of_calm hcalm hfit .remove)
  have hthere : s.machine.isThere r.path = true := by
    unfold isThere
    rw [hlstat]
  refine ⟨hnames.isLink, up ++ [name], hentry, ?_⟩
  rw [delete_eq, perform_bind, perform_observe, hthere]
  dsimp only
  rw [if_pos rfl, perform_enact, hremove]
  cases o.dryRun <;> rfl

/-- **Deleting what a comparison calls absent does nothing exactly if no link is there.**  A link that
    leads nowhere is removed, and a line says so. -/
theorem absent_idle_iff_no_link (hcalm : s.machine.faults = [])
    (heval : r.evaluate o s.machine = .ok st) (habsent : st.current = .absent) :
    (perform (r.delete o) s = (.ok (), s) ↔
      ¬ ∃ link, s.machine.lstat r.path = .ok link ∧ link.isLink = true) ∧
    ∀ link, s.machine.lstat r.path = .ok link →
      link.isLink = true ∧ ∃ place, s.machine.entryOf r.path = .ok (.present place link) ∧
        perform (r.delete o) s =
          (.ok (), ⟨if o.dryRun then s.machine else s.machine.without place,
            s.transcript ++ [.progress o.dryRun r.id "eliminando archivo"]⟩) := by
  obtain ⟨e, hstat⟩ := stat_of_absent heval habsent
  refine ⟨⟨?_, ?_⟩, fun link hlstat => deletes_link hcalm hstat hlstat⟩
  · intro hidle hlink
    obtain ⟨link, hlstat, -⟩ := hlink
    obtain ⟨-, place, -, hdeleted⟩ := deletes_link (o := o) hcalm hstat hlstat
    -- the line that is printed is no part of the transcript before
    rw [hidle, Prod.mk.injEq] at hdeleted
    have htranscript := congrArg Session.transcript hdeleted.2
    simp at htranscript
  · intro hnone
    have hgone : s.machine.isThere r.path = false := by
      unfold isThere
      cases hlstat : s.machine.lstat r.path with
      | error e' => rfl
      | ok link => exact absurd ⟨link, hlstat, (deletes_link (o := o) hcalm hstat hlstat).1⟩ hnone
    rw [delete_eq, perform_bind, perform_observe, hgone]
    rfl

/-- On a bare machine there is nothing to delete. -/
theorem bare_idle : unwanted.evaluate {} bare = .ok (.ofAbsent .absent) ∧
    perform (unwanted.delete {}) ⟨bare, []⟩ = (.ok (), ⟨bare, []⟩) := by
  have hfree : bare.arrive unwanted.path = .ok (.vacant [] "motd") :=
    arrive_bare (by decide) (by decide) (by decide) (by decide) (by decide)
  have heval : unwanted.evaluate {} bare = .ok (.ofAbsent .absent) :=
    evaluate_of_missing (stat_of_nowhere rfl (by rw [hfree]; trivial))
  refine ⟨heval, ?_⟩
  refine (absent_idle_iff_no_link (s := ⟨bare, []⟩) rfl heval rfl).1.mpr ?_
  intro hlink
  obtain ⟨link, hlstat, -⟩ := hlink
  obtain ⟨-, place, hentry⟩ := lstat_ok_iff.mp hlstat
  -- the name is free, whether links are followed or not
  have hroot : bare.disk.node? [] = some .plainDirectory := rfl
  have hturn : turn bare.disk false linkBudget [] "motd" true = .stop (.ok (.vacant [] "motd")) := rfl
  unfold entryOf at hentry
  rw [show steps unwanted.path = ["motd"] by decide] at hentry
  cases (walk_stop hroot rfl hturn).symm.trans hentry

/-- **A link that leads nowhere is called absent, and is deleted.** -/
theorem dangling_deleted :
    build dangling "/motd" (.mapping [(.text "state", .text "absent")]) = .ok unwanted ∧
    dangling.faults = [] ∧ hasNul unwanted.path = false ∧
    unwanted.evaluate {} dangling = .ok (.ofAbsent .absent) ∧
    perform (unwanted.delete {}) ⟨dangling, []⟩ =
      (.ok (), ⟨dangling.without ["motd"], [.progress false "file[/motd]" "eliminando archivo"]⟩) := by
  have hmissing : ∃ e, dangling.stat unwanted.path = .error e ∧ meansAbsent e = true :=
    stat_of_nowhere rfl (by rw [show unwanted.path = "/motd" from rfl, arrive_dangling]; trivial)
  have heval : unwanted.evaluate {} dangling = .ok (.ofAbsent .absent) := evaluate_of_missing hmissing
  obtain ⟨e, hstat, -⟩ := hmissing
  have hroot : dangling.disk.node? [] = some .plainDirectory := rfl
  have hturn : turn dangling.disk false linkBudget [] "motd" true =
      .stop (.ok (.present ["motd"] ⟨.link "issue", 0o777, 0, 0⟩)) := rfl
  have hentry : dangling.entryOf unwanted.path =
      .ok (.present ["motd"] ⟨.link "issue", 0o777, 0, 0⟩) := by
    unfold entryOf
    rw [show steps unwanted.path = ["motd"] by decide]
    exact walk_stop hroot rfl hturn
  obtain ⟨-, place, hplace, hdeleted⟩ := deletes_link (o := {}) (s := ⟨dangling, []⟩) rfl hstat
    (lstat_ok_iff.mpr ⟨rfl, ["motd"], hentry⟩)
  cases hentry.symm.trans hplace
  exact ⟨rfl, rfl, by decide, heval, hdeleted⟩

/-! ## §3. Attributes of what exists. -/

/-- The file should not exist, it could be compared, and something about it is not as declared. -/
def UnwantedDeviates (r : FileResource) (o : Options) (m : Machine) : Prop :=
  r.want = .absent ∧ r.Comparable o m ∧
    ∃ n a, m.stat r.path = .ok n ∧ r.Deviates o m n a

/-- **A comparison does not ask what is wanted.**  With another wish it finds the same existence and the
    same differences. -/
theorem evaluate_wanting (heval : r.evaluate o m = .ok st) (want : Existence) :
    { r with want := want }.evaluate o m = .ok { st with want := want } := by
  rcases evaluate_ok heval with
    ⟨e, hstat, habsent, rfl⟩ | ⟨n, owner, content, hstat, hfile, howner, hcontent, rfl⟩
  · exact evaluate_of_missing ⟨e, hstat, habsent⟩
  · -- neither owner nor content is compared by looking at the wish
    have howner' : { r with want := want }.ownerDifference n m = .ok owner := howner
    have hcontent' : { r with want := want }.contentDifference o m = .ok content := hcontent
    have hcompared := evaluate_of_ownerDifference (r := { r with want := want }) (o := o)
      hstat hfile howner'
    rw [hcompared, hcontent']
    rfl

/-- A state says that attributes differ if it lists some, and then it is about a file that exists. -/
theorem update_of_evaluate (heval : r.evaluate o m = .ok st) :
    (st.update = true ↔ st.differences ≠ []) ∧ (st.update = true → st.current = .present) := by
  rcases evaluate_ok heval with ⟨e, -, -, rfl⟩ | ⟨n, owner, content, -, -, -, -, rfl⟩
  · simp [State.ofAbsent]
  · refine ⟨?_, fun _ => rfl⟩
    unfold State.ofPresent
    simp only [Bool.not_eq_true', List.isEmpty_eq_false_iff]

/-- Of a file that exists and differs, the wish decides: one that should exist is to be mended, and one
    that should not is to be deleted. -/
theorem action_of_update (hupdate : st.update = true) (hpresent : st.current = .present)
    (hknown : st.want ≠ .unknown) :
    (st.needsUpdate = true ↔ st.current = st.want) ∧
    (st.needsDelete = true ↔ st.current ≠ st.want) ∧ st.needsCreate = false := by
  obtain ⟨current, want, update, differences⟩ := st
  cases hpresent
  cases hupdate
  cases want with
  | unknown => exact absurd rfl hknown
  | present => simp [State.needsUpdate, State.needsDelete, State.needsCreate]
  | absent => simp [State.needsUpdate, State.needsDelete, State.needsCreate]

theorem present_of_stat (hstat : m.stat r.path = .ok n) (heval : r.evaluate o m = .ok st) :
    st.current = .present := by
  rcases evaluate_ok heval with ⟨e, hgone, -, -⟩ | ⟨n', owner, content, -, -, -, -, rfl⟩
  · rw [hstat] at hgone
    cases hgone
  · rfl

/-- Attributes are listed exactly if one deviates. -/
theorem Lists.ne_nil_iff {ds : List Difference} (h : r.Lists o m n ds) :
    ds ≠ [] ↔ ∃ a, r.Deviates o m n a := by
  rw [Ne, h.nil_iff, Classical.not_forall_not]

/-- If something about an unwanted file deviates, a comparison says so. -/
theorem UnwantedDeviates.evaluate (h : r.UnwantedDeviates o m) :
    ∃ st, r.evaluate o m = .ok st ∧ st.update = true ∧ st.current = .present ∧ st.want = .absent := by
  obtain ⟨hwant, hcomparable, n, a, hstat, hdeviates⟩ := h
  obtain ⟨st, heval⟩ := hcomparable.evaluate
  have hpresent := present_of_stat hstat heval
  obtain ⟨n', hstat', -, hlists⟩ := lists_of_evaluate heval hpresent
  rw [hstat] at hstat'
  cases hstat'
  have hupdate := (update_of_evaluate heval).1.mpr (hlists.ne_nil_iff.mpr ⟨a, hdeviates⟩)
  exact ⟨st, heval, hupdate, hpresent, (want_of_evaluate heval).trans hwant⟩

/-- If a comparison of an unwanted file lists something, that deviates. -/
theorem unwantedDeviates_of_update (hwant : r.want = .absent) (heval : r.evaluate o m = .ok st)
    (hupdate : st.update = true) : r.UnwantedDeviates o m := by
  have hpresent := (update_of_evaluate heval).2 hupdate
  obtain ⟨n, hstat, hfile, hlists⟩ := lists_of_evaluate heval hpresent
  obtain ⟨a, hdeviates⟩ := hlists.ne_nil_iff.mp ((update_of_evaluate heval).1.mp hupdate)
  exact ⟨hwant, (evaluate_ok_iff hstat hfile).mp ⟨st, heval⟩, n, a, hstat, hdeviates⟩

/-- **That attributes differ is said of what exists, whatever is wanted.**  A state says so exactly if it
    lists a difference, and then the file exists.  With another wish the comparison finds the same.  The
    wish decides what is done: a file that exists as it should is mended, and one that should not exist is
    deleted.  So the file exists as it should wherever attributes differ, unless it is declared absent,
    could be compared and deviates. -/
theorem update_settled_iff {w : Machine} {title : String} {data : Value}
    (hbuild : build w title data = .ok r) :
    (∀ st, r.evaluate o m = .ok st →
      (st.update = true ↔ st.differences ≠ []) ∧
      (st.update = true → st.current = .present ∧
        (st.needsUpdate = true ↔ st.current = st.want) ∧
        (st.needsDelete = true ↔ st.current ≠ st.want) ∧ st.needsCreate = false) ∧
      ∀ want, { r with want := want }.evaluate o m = .ok { st with want := want }) ∧
    ((∀ st, r.evaluate o m = .ok st → st.update = true → st.current = st.want) ↔
      ¬ r.UnwantedDeviates o m) := by
  have hknown : r.want ≠ .unknown := (build_ok hbuild).2.2
  refine ⟨?reported, ?deviating, ?settled⟩
  case reported =>
    intro st heval
    obtain ⟨hlisted, hexists⟩ := update_of_evaluate heval
    refine ⟨hlisted, fun hupdate => ⟨hexists hupdate, ?_⟩, evaluate_wanting heval⟩
    exact action_of_update hupdate (hexists hupdate) ((want_of_evaluate heval).trans_ne hknown)
  case deviating =>
    intro hsettled hdeviates
    obtain ⟨st, heval, hupdate, hpresent, hwant⟩ := hdeviates.evaluate
    have hsame := hsettled st heval hupdate
    rw [hpresent, hwant] at hsame
    cases hsame
  case settled =>
    intro hnot st heval hupdate
    rw [(update_of_evaluate heval).2 hupdate, want_of_evaluate heval]
    cases hwant : r.want with
    | present => rfl
    | unknown => exact absurd hwant hknown
    | absent => exact absurd (unwantedDeviates_of_update hwant heval hupdate) hnot

/-- The guest's message of the day is to be mended, and exists as it should; were it to be absent, the same
    would be found of it. -/
theorem guest_settled :
    build (messageOf 1000) "/motd" (.mapping [(.text "mode", .text "4755")]) = .ok motd ∧
    ∃ st, motd.evaluate {} (messageOf 1000) = .ok st ∧ st.update = true ∧ st.current = st.want ∧
      st.needsUpdate = true ∧
      { motd with want := .absent }.evaluate {} (messageOf 1000) = .ok { st with want := .absent } := by
  have hbuild : build (messageOf 1000) "/motd" (.mapping [(.text "mode", .text "4755")]) = .ok motd :=
    rfl
  obtain ⟨st, heval, -, hupdate, -⟩ := evaluate_guest
  obtain ⟨hreported, hsettled⟩ := update_settled_iff (o := {}) (m := messageOf 1000) hbuild
  obtain ⟨-, hacts, hwanting⟩ := hreported st heval
  have hsame : st.current = st.want := by
    refine hsettled.mpr ?_ st heval hupdate
    -- it is not declared absent
    intro hdeviates
    cases hdeviates.1
  exact ⟨hbuild, st, heval, hupdate, hsame, (hacts hupdate).2.1.mpr hsame, hwanting .absent⟩

/-- **A file that is to be deleted is compared all the same**, and its mode is not the default. -/
theorem unwanted_compared :
    build (inPlace (.file [])) "/motd" (.mapping [(.text "state", .text "absent")]) = .ok unwanted ∧
    ∃ st, unwanted.evaluate {} (inPlace (.file [])) = .ok st ∧ st.update = true ∧
      st.current = .present ∧ st.want = .absent ∧ st.current ≠ st.want ∧
      st.differences.map (·.field) = ["mode"] := by
  have hfree : bare.arrive unwanted.path = .ok (.vacant [] "motd") :=
    arrive_bare (by decide) (by decide) (by decide) (by decide) (by decide)
  have hstat : (inPlace (.file [])).stat unwanted.path = .ok ⟨.file [], 0o755, 0, 0⟩ :=
    stat_ok_iff.mpr ⟨rfl, _, arrive_put_vacant hfree rfl⟩
  have howner : unwanted.ownerDifference ⟨.file [], 0o755, 0, 0⟩ (inPlace (.file [])) = .ok none := rfl
  exact ⟨rfl, _, evaluate_of_owner rfl hstat rfl howner {}, rfl, rfl, rfl, by decide, rfl⟩

end Converge.FileResource
