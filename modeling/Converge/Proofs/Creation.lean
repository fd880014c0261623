/-
  Converge.Proofs.Creation
  ────────────────────────
  **WHAT A FILE IS ONCE IT HAS BEEN CREATED.**

  Creating opens the path, gives the file to its owner and sets its mode, and each of the three calls
  walks the path anew.  All come to one place: opening leaves a file there, and a file is put back by
  the other two.  The owner is set before the mode, which therefore loses no bits; nothing is left of
  the bits and the owner that the file had before, or was born with.

  Main results:
    * `made_iff` — the machine after a creation, as one node put at one place;
    * `perform_create_iff` — when creating ends well;
    * `create_establishes` — one pass sets every declared attribute and leaves all else alone.
-/
import Converge.Proofs.Calm

namespace Converge.FileResource

open Converge.Machine Act

variable {r : FileResource} {o : Options} {s s' : Session} {m m' : Machine} {uid gid : Int}

/-! ## §1. The three calls. -/

/-- The file was opened, given to the declared owner and given its mode. -/
inductive Made (r : FileResource) (m m' : Machine) : Prop where
  | intro {uid gid : Int} {m₁ m₂ : Machine} (known : r.ownerIds m = .ok (uid, gid))
      (opened : m.create r.path = .ok m₁) (given : m₁.chown r.path uid gid = .ok m₂)
      (set : m₂.chmod r.path r.mode.toNat = .ok m')

/-- Creating makes the file, or fails; for its input it fails before anything is changed. -/
theorem triple_made (hwet : o.dryRun = false) (m : Machine) :
    Triple (fun m₀ => m₀ = m) (r.create o) (fun _ => r.Made m)
      fun f m' => f.isAboutInput = true → m' = m := by
  refine Triple.bind (Q := fun ids m₀ => m₀ = m ∧ r.ownerIds m = .ok ids) (Triple.observe ?_ ?_)
    fun ids => ?_
  · intro m₀ ids heq hids
    subst heq
    exact ⟨rfl, hids⟩
  · exact fun _ _ heq _ _ => heq
  obtain ⟨uid, gid⟩ := ids
  -- a refused call is a failure of the system
  have htake : ∀ {P Q : Machine → Prop} {call : Machine → Except CallFailure Machine},
      (∀ m₀ m', P m₀ → call m₀ = .ok m' → Q m') →
      Triple P (take o call) (fun _ => Q) fun f m' => f.isAboutInput = true → m' = m := by
    intro P Q call hcall
    unfold take
    rw [hwet]
    exact Triple.change hcall fun _ _ _ _ habout => by cases habout
  -- what is known after each call tells all calls before it
  refine Triple.bind (triple_progress _) fun _ => ?_
  refine Triple.bind (Q := fun _ m₁ => r.ownerIds m = .ok (uid, gid) ∧ m.create r.path = .ok m₁)
    (htake ?_) fun _ => ?_
  · intro m₀ m₁ hm hopened
    obtain ⟨rfl, hids⟩ := hm
    exact ⟨hids, hopened⟩
  refine Triple.bind (triple_progress _) fun _ => ?_
  refine Triple.bind (Q := fun _ m₂ => ∃ m₁, r.ownerIds m = .ok (uid, gid) ∧
    m.create r.path = .ok m₁ ∧ m₁.chown r.path uid gid = .ok m₂) (htake ?_) fun _ => ?_
  · intro m₁ m₂ hm hgiven
    exact ⟨m₁, hm.1, hm.2, hgiven⟩
  refine Triple.bind (triple_progress _) fun _ => htake ?_
  intro m₂ m' hm hset
  obtain ⟨m₁, hids, hopened, hgiven⟩ := hm
  exact .intro hids hopened hgiven hset

/-- What was created was made. -/
theorem made_of_create (hwet : o.dryRun = false) (h : perform (r.create o) s = (.ok (), s')) :
    r.Made s.machine s'.machine := by
  have hend := triple_made (r := r) hwet s.machine s rfl
  rw [h] at hend
  exact hend

/-- What can be made is made by creating it. -/
theorem Made.perform (hwet : o.dryRun = false) (h : r.Made s.machine m') :
    ∃ s', Act.perform (r.create o) s = (.ok (), s') ∧ s'.machine = m' := by
  obtain @⟨uid, gid, m₁, m₂, hids, hopened, hgiven, hset⟩ := h
  unfold create progress take
  simp only [hwet, Bool.false_eq_true, if_false, perform_bind, perform_observe, hids, perform_say,
    perform_change, hopened, hgiven, hset]
  exact ⟨_, rfl, rfl⟩

/-! ## §2. One node at one place. -/

/-- A file that was given to an owner, and then was given the declared mode. -/
def finish (r : FileResource) (uid gid : Int) (file : Node) : Node :=
  { file.giveTo uid gid with mode := r.mode.toNat % 0o10000 }

/-- Of a file nothing is left but its content. -/
theorem finish_eq (hmode : 0 ≤ r.mode ∧ r.mode ≤ Field.maxMode) {file : Node} {content : List UInt8}
    (h : file.kind = .file content) :
    r.finish uid gid file = ⟨.file content, r.mode.toNat, uid, gid⟩ := by
  have hrange : r.mode.toNat % 0o10000 = r.mode.toNat := by
    obtain ⟨hlow, hhigh⟩ := hmode
    unfold Field.maxMode at hhigh
    omega
  unfold finish Node.giveTo
  rw [hrange, h]

/-- **The machine after a creation.**  The finished file is where the path was opened, and the three
    calls were all let through. -/
theorem made_iff : r.Made m m' ↔
    (∀ call ∈ [Call.create, .chown, .chmod], m.precheck call r.path = .ok ()) ∧
      endsWithSlash r.path = false ∧
      ∃ uid gid place file, r.ownerIds m = .ok (uid, gid) ∧ m.Opens r.path place file ∧
        m' = m.put place (r.finish uid gid file) := by
  constructor
  · intro h
    obtain @⟨uid, gid, m₁, m₂, hids, hopened, hgiven, hset⟩ := h
    obtain ⟨hcreate, hslash, place, file, hopens, rfl⟩ := create_ok_iff.mp hopened
    -- each call finds the file where the one before has left it
    have hfile : (file.giveTo uid gid).isFile = true := hopens.isFile
    obtain ⟨hchown, rfl⟩ := (chown_of_arrive (hopens.arrive_put hopens.isFile)).mp hgiven
    rw [put_put] at hset
    obtain ⟨hchmod, rfl⟩ := (chmod_of_arrive (hopens.arrive_put hfile)).mp hset
    refine ⟨?_, hslash, uid, gid, place, file, hids, hopens, put_put ..⟩
    intro call hcall
    simp only [List.mem_cons, List.not_mem_nil, or_false] at hcall
    rcases hcall with rfl | rfl | rfl
    · exact hcreate
    · exact hchown
    · exact hchmod
  · intro h
    obtain ⟨hchecks, hslash, uid, gid, place, file, hids, hopens, rfl⟩ := h
    have hfile : (file.giveTo uid gid).isFile = true := hopens.isFile
    have hopened : m.create r.path = .ok (m.put place file) :=
      create_ok_iff.mpr ⟨hchecks .create (by simp), hslash, place, file, hopens, rfl⟩
    have hgiven : (m.put place file).chown r.path uid gid =
        .ok (m.put place (file.giveTo uid gid)) :=
      (chown_of_arrive (hopens.arrive_put hopens.isFile)).mpr
        ⟨hchecks .chown (by simp), (put_put ..).symm⟩
    have hset : (m.put place (file.giveTo uid gid)).chmod r.path r.mode.toNat =
        .ok (m.put place (r.finish uid gid file)) :=
      (chmod_of_arrive (hopens.arrive_put hfile)).mpr
        ⟨hchecks .chmod (by simp), (put_put ..).symm⟩
    exact .intro hids hopened hgiven hset

namespace Made

theorem onDisk (h : r.Made m m') : ∃ d, m' = { m with disk := d } := by
  obtain ⟨-, -, uid, gid, place, file, -, -, rfl⟩ := made_iff.mp h
  exact ⟨_, rfl⟩

theorem fit (h : r.Made m m') : Fit r.path :=
  fit_of_precheck ((made_iff.mp h).1 .create (by simp))

/-- The path leads to a file that was given to the declared owner, and then was given its mode. -/
theorem leads (h : r.Made m m') : ∃ uid gid place file, r.ownerIds m = .ok (uid, gid) ∧
    file.isFile = true ∧ m'.arrive r.path = .ok (.present place (r.finish uid gid file)) := by
  obtain ⟨-, -, uid, gid, place, file, hids, hopens, rfl⟩ := made_iff.mp h
  exact ⟨uid, gid, place, file, hids, hopens.isFile, hopens.arrive_put hopens.isFile⟩

end Made

/-- **When creating ends well** on a machine without faults: the path can be opened, and the declared
    names have numbers. -/
theorem perform_create_iff (hcalm : s.machine.faults = []) (hwet : o.dryRun = false) :
    (∃ s', perform (r.create o) s = (.ok (), s')) ↔
      Fit r.path ∧ endsWithSlash r.path = false ∧ (∃ ids, r.ownerIds s.machine = .ok ids) ∧
        ∃ place file, s.machine.Opens r.path place file := by
  constructor
  · intro hends
    obtain ⟨s', hdone⟩ := hends
    have hmade := made_of_create hwet hdone
    obtain ⟨-, hslash, uid, gid, place, file, hids, hopens, -⟩ := made_iff.mp hmade
    exact ⟨hmade.fit, hslash, ⟨_, hids⟩, place, file, hopens⟩
  · intro hcan
    obtain ⟨hfit, hslash, ⟨⟨uid, gid⟩, hids⟩, place, file, hopens⟩ := hcan
    have hmade : r.Made s.machine (s.machine.put place (r.finish uid gid file)) :=
      made_iff.mpr ⟨fun call _ => precheck_of_calm hcalm hfit call, hslash, uid, gid, place, file,
        hids, hopens, rfl⟩
    obtain ⟨s', hdone, -⟩ := hmade.perform hwet
    exact ⟨s', hdone⟩

/-- The finished file stands where the path was opened. -/
theorem Made.stands (hcalm : m.faults = []) (h : r.Canonical m.accounts uid gid)
    (hmade : r.Made m m') : ∃ place file, m.Opens r.path place file ∧
      m' = m.put place (r.finish uid gid file) ∧
      Stands m.accounts r.path (r.finish uid gid file) m' ∧
      r.Owned m.accounts (r.finish uid gid file) := by
  obtain ⟨-, -, uid', gid', place, file, hids, hopens, rfl⟩ := made_iff.mp hmade
  rw [h.ownerIds rfl] at hids
  cases hids
  have hfile : (r.finish uid gid file).isFile = true := hopens.isFile
  exact ⟨place, file, hopens, rfl, ⟨hcalm, rfl, ⟨place, hopens.arrive_put hfile⟩, hfile⟩,
    (fileOwner_congr rfl rfl).trans (h.owned file)⟩

theorem permissions_finish (hmode : 0 ≤ r.mode ∧ r.mode ≤ Field.maxMode) (file : Node) :
    ((r.finish uid gid file).permissions : Int) = r.mode :=
  permissions_set hmode (file.giveTo uid gid)

/-- **Creating where a name is free gives a file the declared owner and mode.** -/
theorem triple_create {a : Accounts} (h : r.Canonical a uid gid)
    (hmode : 0 ≤ r.mode ∧ r.mode ≤ Field.maxMode)
    (hfit : Fit r.path) (hslash : endsWithSlash r.path = false) (hdry : o.dryRun = false) :
    Triple (fun m => m.faults = [] ∧ m.accounts = a ∧
        ∃ parent name, m.arrive r.path = .ok (.vacant parent name)) (r.create o)
      (fun _ m => ∃ n, Stands a r.path n m ∧ r.Owned a n ∧ (n.permissions : Int) = r.mode)
      fun _ _ => False := by
  intro s hs
  obtain ⟨hcalm, rfl, parent, name, hfree⟩ := hs
  obtain ⟨s', hdone⟩ := (perform_create_iff (r := r) hcalm hdry).mpr
    ⟨hfit, hslash, ⟨_, h.ownerIds rfl⟩, _, _, .new hfree⟩
  rw [hdone]
  obtain ⟨place, file, -, -, hstands, howned⟩ := (made_of_create hdry hdone).stands hcalm h
  exact ⟨_, hstands, howned, permissions_finish hmode file⟩

/-! ## §3. Every attribute in one pass. -/

/-- Every declared attribute is established on `m'`, which was `m` before, and all else is as it was. -/
structure Established (r : FileResource) (uid gid : Int) (m m' : Machine) : Prop where
  /-- The path leads to a file of the declared mode and owner; what was there keeps its content, and
      what is new is empty. -/
  file : ∃ content, m'.stat r.path = .ok ⟨.file content, r.mode.toNat, uid, gid⟩ ∧
    (∀ old, m.stat r.path = .ok old → old.kind = .file content) ∧
    ((∀ old, m.stat r.path ≠ .ok old) → content = [])
  /-- No comparison finds a difference. -/
  compared : ∀ o, r.evaluate o m' = .ok ⟨.present, r.want, false, []⟩
  /-- Links are where they were. -/
  links : ∀ place link, link.isLink = true →
    (m'.disk.node? place = some link ↔ m.disk.node? place = some link)
  /-- Nothing else has changed. -/
  elsewhere : ∃ place n, m'.arrive r.path = .ok (.present place n) ∧ m' = m.put place n

/-- A file put where the path was opened moves no link. -/
theorem links_put {path : String} {place : Place} {file other : Node} (h : m.Opens path place file)
    (hother : other.isFile = true) (q : Place) {link : Node} (hlink : link.isLink = true) :
    (m.put place other).disk.node? q = some link ↔ m.disk.node? q = some link := by
  by_cases hq : q = place
  · -- at the place itself there is a file now, and at most a file before
    subst hq
    have hnone : ∀ n : Node, n.isFile = true → n ≠ link := by
      intro n hn heq
      subst heq
      obtain ⟨content, hkind⟩ := kind_of_isFile hn
      simp [Node.isLink, hkind] at hlink
    unfold put
    rw [Disk.node?_set_self, Option.some.injEq]
    constructor
    · intro heq
      exact absurd heq (hnone other hother)
    · intro heq
      exact absurd rfl (hnone link (h.node? heq))
  · unfold put
    rw [Disk.node?_set_of_ne _ hq]

/-- On a machine without faults a path that can be opened has a status exactly if it leads to a file
    already. -/
theorem stat_of_opens (hcalm : m.faults = []) {path : String} (hfit : Fit path) {place : Place}
    {file : Node} (h : m.Opens path place file) :
    m.stat path = .ok file ∨ (file.kind = .file [] ∧ ∀ old, m.stat path ≠ .ok old) := by
  have hstat := stat_eq (precheck_of_calm hcalm hfit .stat)
  cases h with
  | there leads isFile =>
    rw [leads] at hstat
    exact Or.inl hstat
  | new free =>
    rw [free] at hstat
    refine Or.inr ⟨rfl, fun old hold => ?_⟩
    rw [hstat] at hold
    cases hold

theorem Made.established (hcalm : m.faults = []) (hmode : 0 ≤ r.mode ∧ r.mode ≤ Field.maxMode)
    (h : r.Canonical m.accounts uid gid) (hsource : r.source.getD "" = "") (hmade : r.Made m m') :
    r.Established uid gid m m' := by
  have hfit := hmade.fit
  obtain ⟨place, file, hopens, rfl, hstands, howned⟩ := hmade.stands hcalm h
  constructor
  case file =>
    obtain ⟨content, hcontent⟩ := kind_of_isFile hopens.isFile
    refine ⟨content, ?_, ?_, ?_⟩
    · rw [hstands.stat hfit, finish_eq hmode hcontent]
    · intro old hold
      rcases stat_of_opens hcalm hfit hopens with hthere | ⟨-, hnone⟩
      · rw [hthere] at hold
        cases hold
        exact hcontent
      · exact absurd hold (hnone old)
    · intro hnone
      rcases stat_of_opens hcalm hfit hopens with hthere | ⟨hempty, -⟩
      · exact absurd hthere (hnone file)
      · rw [hcontent] at hempty
        cases hempty
        rfl
  case compared =>
    intro o
    have hsame : r.modeDifference (r.finish uid gid file) = none :=
      modeDifference_eq_none.mpr (permissions_finish hmode file)
    obtain ⟨gap, -, hgap, heval⟩ := evaluate_stands h hsource hfit hstands ⟨_, _, howned⟩ o
    rw [heval, hgap.mpr howned, hsame]
    rfl
  case links => exact fun q link hlink => links_put hopens hstands.file q hlink
  case elsewhere => exact ⟨place, _, hopens.arrive_put hstands.file, rfl⟩

/-- **Creating establishes every declared attribute in one pass.**  On a machine without faults, with
    whatever mask and owner it gives to new files, a resource with a mode in range, the names of its
    owners' numbers and no source is created exactly if its path can be opened; and then its file has
    the declared mode and owner, through whichever links the path leads, keeps the content that it had,
    and no difference is found. -/
theorem create_establishes (hcalm : s.machine.faults = [])
    (hmode : 0 ≤ r.mode ∧ r.mode ≤ Field.maxMode) (h : r.Canonical s.machine.accounts uid gid)
    (hsource : r.source.getD "" = "") (hwet : o.dryRun = false) :
    ((∃ s', perform (r.create o) s = (.ok (), s')) ↔ Fit r.path ∧ endsWithSlash r.path = false ∧
      ∃ place file, s.machine.Opens r.path place file) ∧
    ∀ s', perform (r.create o) s = (.ok (), s') → r.Established uid gid s.machine s'.machine := by
  refine ⟨?_, ?_⟩
  · rw [perform_create_iff hcalm hwet]
    have hknown : ∃ ids, r.ownerIds s.machine = .ok ids := ⟨_, h.ownerIds rfl⟩
    simp only [hknown, true_and]
  · intro s' hdone
    exact (made_of_create hwet hdone).established hcalm hmode h hsource

/-- A machine with a link that leads nowhere yet. -/
def dangling : Machine := bare.put ["motd"] ⟨.link "issue", 0o777, 0, 0⟩

theorem arrive_dangling : dangling.arrive "/motd" = .ok (.vacant [] "issue") := by
  have hroot : dangling.disk.node? [] = some .plainDirectory := rfl
  have hlink : turn dangling.disk true linkBudget [] "motd" true = .go 39 [] ["issue"] := rfl
  have hfree : turn dangling.disk true 39 [] "issue" true = .stop (.ok (.vacant [] "issue")) := rfl
  unfold arrive
  rw [show steps "/motd" = ["motd"] by decide]
  exact (walk_go hroot rfl hlink).trans (walk_stop hroot rfl hfree)

/-- The path is opened at the free name behind the link. -/
theorem opens_dangling : dangling.Opens "/motd" ["issue"] dangling.newFile :=
  .new arrive_dangling

/-- The message of the day is created with its set-user-id bit behind a link. -/
theorem dangling_established : ∃ s', perform (motd.create {}) ⟨dangling, []⟩ = (.ok (), s') ∧
    motd.Established 0 0 dangling s'.machine := by
  have hcanonical : motd.Canonical dangling.accounts 0 0 := ⟨rfl, rfl, rfl, rfl⟩
  obtain ⟨hends, hestablished⟩ := create_establishes (o := {}) (s := ⟨dangling, []⟩) rfl (by decide)
    hcanonical rfl rfl
  obtain ⟨s', hdone⟩ := hends.mpr
    ⟨⟨by decide, by decide, by decide⟩, by decide, _, _, opens_dangling⟩
  exact ⟨s', hdone, hestablished s' hdone⟩

end Converge.FileResource
