/-
  Converge.Proofs.Mending
  ───────────────────────
  **WHAT A FILE IS ONCE IT HAS BEEN MENDED.**

  Mending looks at the file once, sets the mode if it differed, and then gives the file away if its
  owner differed.  So the owner is always mended.  But giving a file away takes set-user-id from its
  mode, and set-group-id where the group may execute, and nothing sets the mode after that.

  Main results:
    * `permissions_giveTo_eq_iff` — which modes a change of owner leaves as they are;
    * `triple_mends` — the machine after mending, as one node put at one place;
    * `mode_mended_iff` — when mending leaves the declared mode.
-/
import Converge.Proofs.Calm
import Mathlib.Data.Nat.Bitwise

namespace Converge.Machine

/-! ## §1. What a change of owner takes from a mode. -/

/-- The mode has bits that a file does not keep when it is given away: set-user-id, or set-group-id
    where the group may execute. -/
def losesBits (mode : Nat) : Bool := mode.testBit 11 || (mode.testBit 10 && mode.testBit 3)

variable {n : Node}

/-- A file that was given away has the lower eleven bits of its mode, or the lower ten. -/
theorem permissions_giveTo (hfile : n.isFile = true) (uid gid : Int) :
    (n.giveTo uid gid).permissions =
      if n.permissions.testBit 3 then n.permissions % 0o2000 else n.permissions % 0o4000 := by
  have huser : n.mode &&& (0o7777 ^^^ 0o4000) = n.mode % 0o4000 := by
    rw [show 0o7777 ^^^ 0o4000 = 2 ^ 11 - 1 by decide, Nat.and_two_pow_sub_one_eq_mod]
  have hgroup : (n.mode &&& (0o7777 ^^^ 0o4000)) &&& (0o7777 ^^^ 0o2000) = n.mode % 0o2000 := by
    rw [Nat.and_assoc, show (0o7777 ^^^ 0o4000) &&& (0o7777 ^^^ 0o2000) = 2 ^ 10 - 1 by decide,
      Nat.and_two_pow_sub_one_eq_mod]
  -- the bit for execution by the group is below those that are taken away
  have hexecute : ((n.mode &&& (0o7777 ^^^ 0o4000)) &&& 0o10 != 0) = n.permissions.testBit 3 := by
    have hbit : (n.mode % 0o4000).testBit 3 = n.permissions.testBit 3 := by
      unfold Node.permissions
      rw [show 0o4000 = 2 ^ 11 by decide, show 0o10000 = 2 ^ 12 by decide,
        Nat.testBit_mod_two_pow, Nat.testBit_mod_two_pow]
      rfl
    rw [huser, show 0o10 = 2 ^ 3 by decide, Nat.and_two_pow, hbit]
    cases n.permissions.testBit 3 <;> rfl
  unfold Node.giveTo
  simp only [hfile, if_true, hexecute]
  split
  · rw [hgroup]
    unfold Node.permissions
    dsimp only
    omega
  · rw [huser]
    unfold Node.permissions
    dsimp only
    omega

/-- **A change of owner leaves the mode of a file as it is** exactly if it has no bits to lose. -/
theorem permissions_giveTo_eq_iff (hfile : n.isFile = true) (uid gid : Int) :
    (n.giveTo uid gid).permissions = n.permissions ↔ losesBits n.permissions = false := by
  have hsmall : n.permissions < 0o10000 := Nat.mod_lt _ (by decide)
  have huser : n.permissions.testBit 11 = false ↔ n.permissions < 0o4000 := by
    rw [Nat.testBit_eq_decide_div_mod_eq, decide_eq_false_iff_not]
    omega
  have hgroup : n.permissions.testBit 10 = false ↔ n.permissions % 0o4000 < 0o2000 := by
    rw [Nat.testBit_eq_decide_div_mod_eq, decide_eq_false_iff_not]
    omega
  rw [permissions_giveTo hfile, losesBits, Bool.or_eq_false_iff, Bool.and_eq_false_iff, huser, hgroup]
  cases hexecute : n.permissions.testBit 3 with
  | true =>
    simp only [if_true, Bool.true_eq_false, or_false]
    omega
  | false =>
    simp only [Bool.false_eq_true, if_false, or_true, and_true]
    omega

end Converge.Machine

namespace Converge.FileResource

open Converge.Machine Act

variable {r : FileResource} {o : Options} {a : Accounts} {uid gid : Int} {m : Machine} {place : Place}
  {n n' : Node} {s s' : Session}

/-! ## §2. Attribute by attribute. -/

/-- The file with the declared mode, which is set only if it differs. -/
def withMode (r : FileResource) (n : Node) : Node :=
  if (r.modeDifference n).isSome then { n with mode := r.mode.toNat % 0o10000 } else n

/-- What mending makes of a file: the declared mode, and after that the declared owner. -/
inductive Mends (r : FileResource) (a : Accounts) (uid gid : Int) (n : Node) : Node → Prop where
  | kept (owned : r.Owned a n) : Mends r a uid gid n (r.withMode n)
  | given (foreign : ¬ r.Owned a n) : Mends r a uid gid n ((r.withMode n).giveTo uid gid)

theorem withMode_kind (r : FileResource) (n : Node) : (r.withMode n).kind = n.kind := by
  unfold withMode
  split <;> rfl

theorem withMode_isFile (r : FileResource) (n : Node) : (r.withMode n).isFile = n.isFile :=
  isFile_of_kind (r.withMode_kind n)

theorem withMode_owner (r : FileResource) (n : Node) :
    (r.withMode n).uid = n.uid ∧ (r.withMode n).gid = n.gid := by
  unfold withMode
  split <;> exact ⟨rfl, rfl⟩

theorem withMode_permissions (hmode : 0 ≤ r.mode ∧ r.mode ≤ Field.maxMode) (n : Node) :
    ((r.withMode n).permissions : Int) = r.mode := by
  unfold withMode
  split
  · exact permissions_set hmode n
  · rename_i hgap
    exact modeDifference_eq_none.mp (by simpa using hgap)

namespace Mends

theorem kind (h : r.Mends a uid gid n n') : n'.kind = n.kind := by
  cases h with
  | kept => exact r.withMode_kind n
  | given => exact r.withMode_kind n

theorem isFile (h : r.Mends a uid gid n n') : n'.isFile = n.isFile := isFile_of_kind h.kind

/-- A file that was mended has the declared owner. -/
theorem owned (hnames : r.Canonical a uid gid) (h : r.Mends a uid gid n n') : r.Owned a n' := by
  cases h with
  | kept owned => exact (fileOwner_congr (r.withMode_owner n).1 (r.withMode_owner n).2).trans owned
  | given => exact hnames.owned _

/-- **A file that was mended has the declared mode** exactly if it had the declared owner before, or
    the mode has no bits to lose. -/
theorem mode_iff (hmode : 0 ≤ r.mode ∧ r.mode ≤ Field.maxMode) (hfile : n.isFile = true)
    (h : r.Mends a uid gid n n') :
    (n'.permissions : Int) = r.mode ↔ r.Owned a n ∨ losesBits r.mode.toNat = false := by
  have hset := withMode_permissions hmode n
  cases h with
  | kept owned => simp only [hset, owned, true_or]
  | given foreign =>
    have hdeclared : r.mode.toNat = (r.withMode n).permissions := by omega
    rw [hdeclared, ← permissions_giveTo_eq_iff ((r.withMode_isFile n).trans hfile) uid gid, ← hset,
      Int.natCast_inj]
    simp only [foreign, false_or]

end Mends

/-! ## §3. The machine after mending. -/

/-- A call on the path is refused before the path is walked. -/
def Barred (r : FileResource) (m : Machine) : Prop := ∃ call, m.precheck call r.path ≠ .ok ()

/-- A step on a file is taken, or it is refused before the path is walked. -/
theorem triple_take_put (hwet : o.dryRun = false) (call : Call) {n₁ : Node} (n₂ : Node)
    {f : Machine → Except CallFailure Machine}
    (hf : ∀ m', f (m.put place n₁) = .ok m' ↔
      m.precheck call r.path = .ok () ∧ m' = m.put place n₂) :
    Triple (fun m' => m' = m.put place n₁) (take o f) (fun _ m' => m' = m.put place n₂)
      fun _ _ => r.Barred m := by
  unfold take
  rw [hwet]
  refine Triple.change ?_ ?_
  · intro m₁ m₂ heq hdone
    subst heq
    exact ((hf m₂).mp hdone).2
  · intro m₁ e heq hfails
    subst heq
    refine ⟨call, fun hcheck => ?_⟩
    rw [(hf _).mpr ⟨hcheck, rfl⟩] at hfails
    cases hfails

section Steps

variable (hwet : o.dryRun = false) (ha : m.arrive r.path = .ok (.present place n))
  (hfile : n.isFile = true)

include hwet ha hfile

theorem triple_mendMode : Triple (fun m' => m' = m) (r.mendMode o n)
    (fun _ m' => m' = m.put place (r.withMode n)) fun _ _ => r.Barred m := by
  unfold mendMode withMode
  by_cases hgap : (r.modeDifference n).isSome = true
  · rw [if_pos hgap, if_pos hgap]
    refine Triple.bind (Q := fun _ m' => m' = m.put place n)
      (Triple.say fun m' heq => heq.trans (put_of_arrive ha hfile).symm) fun _ => ?_
    refine triple_take_put hwet .chmod _ ?_
    intro m'
    rw [put_of_arrive ha hfile]
    exact chmod_of_arrive ha
  · rw [if_neg hgap, if_neg hgap]
    exact Triple.pure fun m' heq => heq.trans (put_of_arrive ha hfile).symm

theorem triple_mendOwner (h : r.Canonical m.accounts uid gid) :
    Triple (fun m' => m' = m.put place (r.withMode n)) (r.mendOwner o n)
      (fun _ m' => ∃ n', r.Mends m.accounts uid gid n n' ∧ m' = m.put place n')
      fun _ _ => r.Barred m ∨ ¬ Named m.accounts n := by
  unfold mendOwner
  refine Triple.bind (Q := fun gap m' => (gap = none ↔ r.Owned m.accounts n) ∧
    m' = m.put place (r.withMode n)) (Triple.observe ?_ ?_) fun gap => ?_
  · intro m' gap heq hgap
    subst heq
    have hnamed := (ownerDifference_ok_iff.mp ⟨gap, hgap⟩).2
    obtain ⟨gap', hgap', hiff⟩ := ownerDifference_named h rfl hnamed
    rw [show r.ownerDifference n (m.put place (r.withMode n)) = r.ownerDifference n m from rfl,
      hgap'] at hgap
    cases hgap
    exact ⟨hiff, rfl⟩
  · intro m' f heq hfails
    subst heq
    refine Or.inr fun hnamed => ?_
    obtain ⟨gap, hgap⟩ := ownerDifference_ok_iff.mpr ⟨⟨_, h.ownerIds rfl⟩, hnamed⟩
    rw [show r.ownerDifference n (m.put place (r.withMode n)) = r.ownerDifference n m from rfl,
      hgap] at hfails
    cases hfails
  refine Triple.pre fun hiff => ?_
  by_cases hgap : gap.isSome = true
  · rw [if_pos hgap]
    have hforeign : ¬ r.Owned m.accounts n := by
      intro howned
      rw [hiff.mpr howned] at hgap
      cases hgap
    have hset : (m.put place (r.withMode n)).arrive r.path = .ok (.present place (r.withMode n)) :=
      arrive_put ha hfile ((r.withMode_isFile n).trans hfile)
    unfold giveAway
    refine Triple.bind (Q := fun ids m' => ids = (uid, gid) ∧ m' = m.put place (r.withMode n))
      (Triple.observe_ok ?_) fun ids => Triple.pre fun hids => ?_
    · intro m' heq
      subst heq
      exact ⟨(uid, gid), h.ownerIds rfl, rfl, rfl⟩
    subst hids
    refine Triple.bind (triple_progress _) fun _ => ?_
    refine (triple_take_put hwet .chown ((r.withMode n).giveTo uid gid) ?_).weaken
      (fun _ heq => heq) (fun _ m' heq => ⟨_, .given hforeign, heq⟩) fun _ _ hbarred => Or.inl hbarred
    intro m'
    rw [chown_of_arrive hset, put_put]
    rfl
  · rw [if_neg hgap]
    have howned : r.Owned m.accounts n := hiff.mp (by simpa using hgap)
    exact Triple.pure fun m' heq => ⟨_, .kept howned, heq⟩

/-- **The machine after mending.**  The mended file is where the path led.  Mending fails only where a
    call is refused before its path is walked, where the owner of the file has no name, or where the
    content cannot be compared. -/
theorem triple_mends (h : r.Canonical m.accounts uid gid) :
    Triple (fun m' => m' = m) (r.update o)
      (fun _ m' => ∃ n', r.Mends m.accounts uid gid n n' ∧ m' = m.put place n')
      fun f m' => (r.Barred m ∨ ¬ Named m.accounts n) ∨ r.contentDifference o m' = .error f := by
  rw [update_eq]
  refine Triple.bind (Q := fun node m' => node = n ∧ m' = m) (Triple.observe ?_ ?_) fun node =>
    Triple.pre fun hnode => ?_
  · intro m' node heq hnode
    subst heq
    obtain ⟨-, p, ha'⟩ := stat_ok_iff.mp (regularFile_ok hnode).1
    rw [ha] at ha'
    cases ha'
    exact ⟨rfl, rfl⟩
  · intro m' f heq hfails
    subst heq
    refine Or.inl (Or.inl ⟨.stat, fun hcheck => ?_⟩)
    rw [regularFile, stat_ok_iff.mpr ⟨hcheck, place, ha⟩] at hfails
    simp only [hfile, if_true, reduceCtorEq] at hfails
  subst hnode
  refine Triple.bind ((triple_mendMode hwet ha hfile).weaken (fun _ heq => heq) (fun _ _ hset => hset)
    fun _ _ hbarred => Or.inl (Or.inl hbarred)) fun _ => ?_
  refine Triple.bind ((triple_mendOwner hwet ha hfile h).weaken (fun _ heq => heq)
    (fun _ _ hgiven => hgiven) fun _ _ hfails => Or.inl hfails) fun _ => ?_
  -- a word about the content changes nothing
  unfold noteContent
  refine Triple.bind (Q := fun _ m' => ∃ n', r.Mends m.accounts uid gid node n' ∧
    m' = m.put place n') (Triple.observe (fun _ _ hm _ => hm) fun _ _ _ hfails => Or.inr hfails)
    fun content => ?_
  cases content with
  | none => exact Triple.pure fun _ hm => hm
  | some d => exact triple_progress _

end Steps

/-- The path leads to a file with the declared owner, and with the declared mode if `n` had that
    owner. -/
def Mended (r : FileResource) (a : Accounts) (n : Node) (m : Machine) : Prop :=
  ∃ n', Stands a r.path n' m ∧ r.Owned a n' ∧ (r.Owned a n → (n'.permissions : Int) = r.mode)

/-- **Mending gives a file the declared owner**, and the declared mode if the owner stays as it was. -/
theorem triple_update (h : r.Canonical a uid gid) (hsource : r.source.getD "" = "")
    (hmode : 0 ≤ r.mode ∧ r.mode ≤ Field.maxMode) (hfit : Fit r.path) (hdry : o.dryRun = false)
    {n : Node} (hn : Named a n) :
    Triple (Stands a r.path n) (r.update o) (fun _ => r.Mended a n) fun _ _ => False := by
  intro s hs
  obtain ⟨place, ha⟩ := hs.leads
  obtain rfl := hs.accounts
  have hend : Triple (fun m => m = s.machine) (r.update o)
      (fun _ => r.Mended s.machine.accounts n) fun _ _ => False := by
    refine (triple_mends hdry ha hs.file h).weaken (fun _ heq => heq) ?_ ?_
    · intro _ m' hput
      obtain ⟨n', hmends, rfl⟩ := hput
      exact ⟨n', hs.put ha (hmends.isFile.trans hs.file), hmends.owned h,
        fun howned => (hmends.mode_iff hmode hs.file).mpr (Or.inl howned)⟩
    · -- nothing refuses a call, the owner has a name, and there is no source
      intro f m' hfails
      rcases hfails with (⟨call, hbarred⟩ | hunnamed) | hcontent
      · exact hbarred (precheck_of_calm hs.calm hfit call)
      · exact hunnamed hn
      · rw [contentDifference_none hsource] at hcontent
        cases hcontent
  exact hend s rfl

/-- What was mended is a file that the path led to. -/
theorem mends_of_update (h : r.Canonical s.machine.accounts uid gid) (hwet : o.dryRun = false)
    (hdone : perform (r.update o) s = (.ok (), s')) :
    ∃ place n n', s.machine.stat r.path = .ok n ∧ n.isFile = true ∧
      s.machine.arrive r.path = .ok (.present place n) ∧
      r.Mends s.machine.accounts uid gid n n' ∧ s'.machine = s.machine.put place n' := by
  have hlook : ∃ n, r.regularFile s.machine = .ok n := by
    rw [update_eq] at hdone
    obtain ⟨n, s₁, hlook, -⟩ := perform_bind_ok hdone
    rw [perform_observe, Prod.mk.injEq] at hlook
    exact ⟨n, hlook.1⟩
  obtain ⟨n, hlook⟩ := hlook
  obtain ⟨hstat, hfile⟩ := regularFile_ok hlook
  obtain ⟨-, place, ha⟩ := stat_ok_iff.mp hstat
  have hend := triple_mends hwet ha hfile h s rfl
  rw [hdone] at hend
  obtain ⟨n', hmends, hput⟩ := hend
  exact ⟨place, n, n', hstat, hfile, ha, hmends, hput⟩

/-! ## §4. Owner and mode together. -/

/-- **Mending sets the declared owner, and the declared mode exactly if** the file had that owner before
    or the mode has no bits to lose.  Its content stays, and nothing else changes. -/
theorem mode_mended_iff (hcalm : s.machine.faults = [])
    (hmode : 0 ≤ r.mode ∧ r.mode ≤ Field.maxMode) (h : r.Canonical s.machine.accounts uid gid)
    (hwet : o.dryRun = false) (hdone : perform (r.update o) s = (.ok (), s')) :
    ∃ place n n', s.machine.stat r.path = .ok n ∧ n.isFile = true ∧
      s'.machine.stat r.path = .ok n' ∧ n'.kind = n.kind ∧ s'.machine = s.machine.put place n' ∧
      fileOwner s'.machine.accounts n' = .ok (r.owner, r.group) ∧
      ((n'.permissions : Int) = r.mode ↔
        fileOwner s.machine.accounts n = .ok (r.owner, r.group) ∨ losesBits r.mode.toNat = false) := by
  obtain ⟨place, n, n', hstat, hfile, ha, hmends, hput⟩ := mends_of_update h hwet hdone
  have hstands : Stands s.machine.accounts r.path n s.machine := ⟨hcalm, rfl, ⟨place, ha⟩, hfile⟩
  have hafter := hstands.put ha (hmends.isFile.trans hfile)
  have hfit : Fit r.path := fit_of_precheck (stat_ok_iff.mp hstat).1
  refine ⟨place, n, n', hstat, hfile, ?_, hmends.kind, hput, ?_, hmends.mode_iff hmode hfile⟩
  · rw [hput]
    exact hafter.stat hfit
  · rw [hput]
    exact hmends.owned h

/-- A machine with a message of the day that belongs to a given user, the superuser or a guest. -/
def messageOf (uid : Int) : Machine :=
  { bare.put ["motd"] ⟨.file [], 0o644, uid, 0⟩ with
    accounts := ⟨[⟨"root", 0, 0, "/root"⟩, ⟨"guest", 1000, 0, "/home/guest"⟩], [⟨"root", 0⟩]⟩ }

theorem fit_motd : Fit motd.path := ⟨by decide, by decide, by decide⟩

theorem stands_messageOf (uid : Int) :
    Stands (messageOf uid).accounts motd.path ⟨.file [], 0o644, uid, 0⟩ (messageOf uid) where
  calm := rfl
  accounts := rfl
  leads := ⟨["motd"], arrive_put_vacant
    (arrive_bare (by decide) (by decide) (by decide) (by decide) (by decide)) rfl⟩
  file := rfl

theorem canonical_messageOf (uid : Int) : motd.Canonical (messageOf uid).accounts 0 0 :=
  ⟨rfl, rfl, rfl, rfl⟩

/-- The message of the day is mended, whether it belongs to the superuser or to the guest. -/
theorem perform_update_messageOf (uid : Int)
    (hnamed : Named (messageOf uid).accounts ⟨.file [], 0o644, uid, 0⟩) :
    ∃ s', perform (motd.update {}) ⟨messageOf uid, []⟩ = (.ok (), s') := by
  obtain ⟨u, s', hdone, -⟩ := (triple_update (o := {}) (canonical_messageOf uid) rfl (by decide)
    fit_motd rfl hnamed).ok (s := ⟨messageOf uid, []⟩) (stands_messageOf uid)
  exact ⟨s', hdone⟩

/-- Of the guest's message of the day mode and owner differ. -/
theorem evaluate_guest : ∃ st, motd.evaluate {} (messageOf 1000) = .ok st ∧ st.current = .present ∧
    st.update = true ∧ st.differences.map (·.field) = ["mode", "owner"] := by
  have howner : ∃ d, motd.ownerDifference ⟨.file [], 0o644, 1000, 0⟩ (messageOf 1000) = .ok (some d) ∧
      d.field = "owner" := ⟨_, rfl, rfl⟩
  obtain ⟨d, hgap, hfield⟩ := howner
  refine ⟨_, evaluate_of_owner rfl ((stands_messageOf 1000).stat fit_motd) rfl hgap {}, rfl, rfl, ?_⟩
  show ["mode", d.field] = _
  rw [hfield]

/-- The superuser's message of the day gets its set-user-id bit. -/
theorem motd_mode_mended : ∃ s' n', perform (motd.update {}) ⟨messageOf 0, []⟩ = (.ok (), s') ∧
    s'.machine.stat motd.path = .ok n' ∧ (n'.permissions : Int) = motd.mode := by
  obtain ⟨s', hdone⟩ := perform_update_messageOf 0 ⟨"root", "root", rfl⟩
  obtain ⟨place, n, n', hstat, -, hstat', -, -, -, hiff⟩ :=
    mode_mended_iff (s := ⟨messageOf 0, []⟩) rfl (by decide) (canonical_messageOf 0) rfl hdone
  refine ⟨s', n', hdone, hstat', hiff.mpr (Or.inl ?_)⟩
  rw [(stands_messageOf 0).stat fit_motd] at hstat
  cases hstat
  rfl

/-- **The guest's message of the day loses its set-user-id bit while it is mended.**  Its mode and its
    owner differ from what is declared; both are set, and the owner takes the bit away again. -/
theorem guest_mode_not_mended :
    build (messageOf 1000) "/motd" (.mapping [(.text "mode", .text "4755")]) = .ok motd ∧
    (messageOf 1000).faults = [] ∧ motd.Canonical (messageOf 1000).accounts 0 0 ∧
    ∃ s' n', perform (motd.update {}) ⟨messageOf 1000, []⟩ = (.ok (), s') ∧
      s'.machine.stat motd.path = .ok n' ∧ (n'.permissions : Int) ≠ motd.mode := by
  refine ⟨rfl, rfl, canonical_messageOf 1000, ?_⟩
  obtain ⟨s', hdone⟩ := perform_update_messageOf 1000 ⟨"guest", "root", rfl⟩
  obtain ⟨place, n, n', hstat, hfile, ha, hmends, hput⟩ :=
    mends_of_update (canonical_messageOf 1000) rfl hdone
  have hstands := stands_messageOf 1000
  rw [hstands.stat fit_motd] at hstat
  cases hstat
  refine ⟨s', n', hdone, ?_, ?_⟩
  · rw [hput]
    exact (hstands.put ha (hmends.isFile.trans hfile)).stat fit_motd
  · rw [Ne, hmends.mode_iff (by decide) hfile]
    intro hkept
    rcases hkept with howned | hbits
    · have hguest : fileOwner (messageOf 1000).accounts ⟨.file [], 0o644, 1000, 0⟩ =
          .ok ("guest", "root") := rfl
      rw [Owned, hguest, Except.ok.injEq, Prod.mk.injEq] at howned
      exact absurd howned.1 (by decide)
    · cases hbits

end Converge.FileResource
