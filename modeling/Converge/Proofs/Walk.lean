/-
  Converge.Proofs.Walk
  ────────────────────
  **WHAT A WALK DEPENDS ON.**

  A walk is cut into its turns: at each name it ends, or goes on somewhere with names put in front of
  the rest.  A turn does not see the rest, only whether there is one, so the walk along a path is the
  walk to its parent followed by the last name.

  Main results:
    * `walk_append` — the walk to a directory, and the walk from there;
    * `walk_set` — a file put where no directory or link is leaves each successful walk as it was,
      but for what is seen at its place;
    * `walk_erase` — without a node a walk ends as before or finds nothing;
    * `walk_congr` — without links a walk reads the nodes along its names only.
-/
import Converge.Machine.Lookup

namespace Converge.Machine

/-! ## §1. Turns. -/

/-- What one name does to a walk. -/
inductive Turn where
  | stop (outcome : Except Errno Found)
  /-- The walk goes on from a place, with names before the rest. -/
  | go (budget : Nat) (place : Place) (ahead : List String)

/-- The turn at a name in a directory; `last` says whether no name follows. -/
def turn (disk : Disk) (follow : Bool) (budget : Nat) (place : Place) (name : String)
    (last : Bool) : Turn :=
  if maxName < name.utf8ByteSize then .stop (.error .nameTooLong)
  else if name = "." then .go budget place []
  else if name = ".." then .go budget place.dropLast []
  else
    match disk.node? (place ++ [name]) with
    | none => .stop (if last then .ok (.vacant place name) else .error .noEntry)
    | some node =>
      match node.kind with
      | .link target =>
        if last && !follow then .stop (.ok (.present (place ++ [name]) node))
        else
          match budget with
          | 0 => .stop (.error .tooManyLinks)
          | budget + 1 =>
            if target = "" then .stop (.error .noEntry)
            else .go budget (if isAbsolute target then [] else place) (steps target)
      | _ => .go budget (place ++ [name]) []

section Equations

variable {d : Disk} {f : Bool} {b : Nat} {place : Place} {here : Node} {name : String}
  {rest : List String}

/-- Nothing can be looked up from where nothing is. -/
theorem walk_missing (hp : d.node? place = none) (todo : List String) :
    walk d f b place todo = .error .noEntry := by
  rw [walk.eq_def, hp]

/-- A walk that has arrived. -/
theorem walk_arrived (hp : d.node? place = some here) :
    walk d f b place [] = .ok (.present place here) := by
  rw [walk.eq_def, hp]

/-- Nothing can be looked up in what is no directory. -/
theorem walk_blocked (hp : d.node? place = some here) (hd : here.isDirectory = false) :
    walk d f b place (name :: rest) = .error .notDirectory := by
  rw [walk.eq_def, hp]
  simp [hd]

/-- In a directory a walk takes one turn, then goes on. -/
theorem walk_turn (hp : d.node? place = some here) (hd : here.isDirectory = true) :
    walk d f b place (name :: rest) =
      match turn d f b place name rest.isEmpty with
      | .stop outcome => outcome
      | .go b' p' ahead => walk d f b' p' (ahead ++ rest) := by
  rw [walk.eq_def, hp]
  simp only [turn, hd]
  repeat' split
  all_goals first
    | rfl
    | simp_all

theorem walk_stop (hp : d.node? place = some here) (hd : here.isDirectory = true)
    {outcome : Except Errno Found} (ht : turn d f b place name rest.isEmpty = .stop outcome) :
    walk d f b place (name :: rest) = outcome := by
  rw [walk_turn hp hd, ht]

theorem walk_go (hp : d.node? place = some here) (hd : here.isDirectory = true) {b' : Nat}
    {p' : Place} {ahead : List String}
    (ht : turn d f b place name rest.isEmpty = .go b' p' ahead) :
    walk d f b place (name :: rest) = walk d f b' p' (ahead ++ rest) := by
  rw [walk_turn hp hd, ht]

end Equations

/-- A turn shortens the way or spends a link. -/
theorem turn_go {d : Disk} {f last : Bool} {b b' : Nat} {place p' : Place} {name : String}
    {ahead : List String} (h : turn d f b place name last = .go b' p' ahead) :
    b' < b ∨ (b' = b ∧ ahead = []) := by
  unfold turn at h
  repeat' split at h
  all_goals first
    | cases h; exact Or.inr ⟨rfl, rfl⟩
    | cases h; exact Or.inl (Nat.lt_succ_self _)
    | cases h

/-- Induction along a walk: it stands nowhere, has arrived, stands at what is no directory, ends at a
    name, or goes on. -/
theorem walk_induction (d : Disk) (f : Bool) {motive : Nat → Place → List String → Prop}
    (missing : ∀ b place todo, d.node? place = none → motive b place todo)
    (arrived : ∀ b place here, d.node? place = some here → motive b place [])
    (blocked : ∀ b place here name rest, d.node? place = some here → here.isDirectory = false →
      motive b place (name :: rest))
    (stop : ∀ b place here name rest outcome, d.node? place = some here →
      here.isDirectory = true → turn d f b place name rest.isEmpty = .stop outcome →
      motive b place (name :: rest))
    (go : ∀ b place here name rest b' p' ahead, d.node? place = some here →
      here.isDirectory = true → turn d f b place name rest.isEmpty = .go b' p' ahead →
      motive b' p' (ahead ++ rest) → motive b place (name :: rest)) :
    ∀ b place todo, motive b place todo
  | b, place, todo => by
      cases hp : d.node? place with
      | none => exact missing b place todo hp
      | some here =>
        match todo with
        | [] => exact arrived b place here hp
        | name :: rest =>
          cases hd : here.isDirectory with
          | false => exact blocked b place here name rest hp hd
          | true =>
            match ht : turn d f b place name rest.isEmpty with
            | .stop outcome => exact stop b place here name rest outcome hp hd ht
            | .go b' p' ahead =>
              have hgo := turn_go ht
              exact go b place here name rest b' p' ahead hp hd ht
                (walk_induction d f missing arrived blocked stop go b' p' (ahead ++ rest))
termination_by b _ todo => (b, todo.length)
decreasing_by
  rcases hgo with hlt | ⟨rfl, rfl⟩
  · exact Prod.Lex.left _ _ hlt
  · exact Prod.Lex.right _ (by simp)

/-! ## §2. Through a directory. -/

/-- Before the last name it makes no difference whether final links are followed. -/
theorem turn_inner (d : Disk) (f g : Bool) (b : Nat) (place : Place) (name : String) :
    turn d f b place name false = turn d g b place name false := by
  simp only [turn, Bool.false_and]

/-- Before the last name a walk can only end in an error. -/
theorem turn_inner_stop {d : Disk} {f : Bool} {b : Nat} {place : Place} {name : String}
    {outcome : Except Errno Found} (h : turn d f b place name false = .stop outcome) :
    ∃ e, outcome = .error e := by
  unfold turn at h
  repeat' split at h
  all_goals first
    | cases h; exact ⟨_, rfl⟩
    | simp_all

/-- **The walk along a path is the walk to a directory and the walk from there**: either no walk gets
    through the first names, and all fail alike, or all go on from one directory. -/
theorem walk_append (d : Disk) : ∀ (b : Nat) (place : Place) (front : List String),
    (∃ e, ∀ f back, back ≠ [] → walk d f b place (front ++ back) = .error e)
    ∨ (∃ b' p n, d.node? p = some n ∧ n.isDirectory = true ∧
        ∀ f back, back ≠ [] → walk d f b place (front ++ back) = walk d f b' p back)
  | b, place, front => by
      have hcons : ∀ back : List String, back ≠ [] → ∃ name rest, front ++ back = name :: rest :=
        fun back hback => List.exists_cons_of_ne_nil
          (List.append_ne_nil_of_right_ne_nil front hback)
      cases hp : d.node? place with
      | none => exact Or.inl ⟨.noEntry, fun f back _ => walk_missing hp _⟩
      | some here =>
        cases hd : here.isDirectory with
        | false =>
          refine Or.inl ⟨.notDirectory, fun f back hback => ?_⟩
          obtain ⟨name, rest, hnr⟩ := hcons back hback
          rw [hnr, walk_blocked hp hd]
        | true =>
          match front with
          | [] => exact Or.inr ⟨b, place, here, hp, hd, fun f back _ => rfl⟩
          | name :: rest =>
            -- what follows the name is not empty, so the turn is the same for all walks
            have hturn : ∀ f back, back ≠ [] →
                turn d f b place name (rest ++ back).isEmpty = turn d true b place name false := by
              intro f back hback
              have hmore : (rest ++ back).isEmpty = false := by simp [hback]
              rw [hmore]
              exact turn_inner d f true b place name
            match ht : turn d true b place name false with
            | .stop outcome =>
              -- a name that is not the last one ends a walk only in an error
              obtain ⟨e, rfl⟩ := turn_inner_stop ht
              exact Or.inl ⟨e, fun f back hback => walk_stop hp hd ((hturn f back hback).trans ht)⟩
            | .go b' p' ahead =>
              have hgo := turn_go ht
              have hwalk : ∀ f back, back ≠ [] → walk d f b place (name :: rest ++ back) =
                  walk d f b' p' (ahead ++ rest ++ back) := by
                intro f back hback
                rw [List.cons_append, walk_go hp hd ((hturn f back hback).trans ht),
                  List.append_assoc]
              rcases walk_append d b' p' (ahead ++ rest) with ⟨e, he⟩ | ⟨b'', p, n, hn, hdir, hback⟩
              · refine Or.inl ⟨e, fun f back hne => ?_⟩
                rw [hwalk f back hne, he f back hne]
              · refine Or.inr ⟨b'', p, n, hn, hdir, fun f back hne => ?_⟩
                rw [hwalk f back hne, hback f back hne]
termination_by b _ front => (b, front.length)
decreasing_by
  rcases hgo with hlt | ⟨rfl, rfl⟩
  · exact Prod.Lex.left _ _ hlt
  · exact Prod.Lex.right _ (by simp)

/-! ## §3. What a walk has seen. -/

/-- What is free is not there. -/
theorem turn_vacant {d : Disk} {f last : Bool} {b : Nat} {place p : Place} {name free : String}
    (h : turn d f b place name last = .stop (.ok (.vacant p free))) :
    p = place ∧ free = name ∧ d.node? (place ++ [name]) = none := by
  unfold turn at h
  repeat' split at h
  all_goals first
    | cases h; exact ⟨rfl, rfl, by assumption⟩
    | cases h

/-- A link that is not followed is there. -/
theorem turn_present {d : Disk} {f last : Bool} {b : Nat} {place p : Place} {name : String}
    {n : Node} (h : turn d f b place name last = .stop (.ok (.present p n))) :
    d.node? p = some n := by
  unfold turn at h
  repeat' split at h
  all_goals first
    | cases h; assumption
    | cases h

/-- What a walk arrives at is there, and what it finds free is free. -/
theorem walk_ok (d : Disk) (f : Bool) : ∀ b place todo found, walk d f b place todo = .ok found →
    (∀ p n, found = .present p n → d.node? p = some n) ∧
    (∀ p name, found = .vacant p name → d.node? (p ++ [name]) = none) := by
  refine walk_induction d f ?missing ?arrived ?blocked ?stop ?go
  case missing =>
    intro b place todo hp found h
    rw [walk_missing hp] at h
    cases h
  case arrived =>
    intro b place here hp found h
    rw [walk_arrived hp] at h
    cases h
    exact ⟨fun p n e => by cases e; exact hp, fun p name e => by cases e⟩
  case blocked =>
    intro b place here name rest hp hd found h
    rw [walk_blocked hp hd] at h
    cases h
  case stop =>
    intro b place here name rest outcome hp hd ht found h
    rw [walk_stop hp hd ht] at h
    subst h
    refine ⟨fun p n e => ?_, fun p free e => ?_⟩
    · subst e
      exact turn_present ht
    · subst e
      obtain ⟨rfl, rfl, hnone⟩ := turn_vacant ht
      exact hnone
  case go =>
    intro b place here name rest b' p' ahead hp hd ht ih found h
    rw [walk_go hp hd ht] at h
    exact ih found h

/-- A turn that follows links does not end at a node. -/
theorem turn_follow_stop {d : Disk} {last : Bool} {b : Nat} {place p : Place} {name : String}
    {n : Node} : turn d true b place name last ≠ .stop (.ok (.present p n)) := by
  intro h
  unfold turn at h
  repeat' split at h
  all_goals simp_all

/-- Without following, a turn that would go on goes on alike, or ends at a link. -/
theorem turn_nofollow {d : Disk} {last : Bool} {b b' : Nat} {place p' : Place} {name : String}
    {ahead : List String} (h : turn d true b place name last = .go b' p' ahead) :
    turn d false b place name last = .go b' p' ahead ∨
      ∃ p n, turn d false b place name last = .stop (.ok (.present p n)) := by
  cases last with
  | false =>
    left
    rw [turn_inner d false true, h]
  | true =>
    unfold turn at h ⊢
    by_cases hlong : maxName < name.utf8ByteSize
    · rw [if_pos hlong] at h
      cases h
    rw [if_neg hlong] at h ⊢
    by_cases hdot : name = "."
    · rw [if_pos hdot] at h ⊢
      exact Or.inl h
    rw [if_neg hdot] at h ⊢
    by_cases hup : name = ".."
    · rw [if_pos hup] at h ⊢
      exact Or.inl h
    rw [if_neg hup] at h ⊢
    cases hn : d.node? (place ++ [name]) with
    | none =>
      rw [hn] at h
      cases h
    | some node =>
      rw [hn] at h
      obtain ⟨kind, mode, uid, gid⟩ := node
      cases kind <;> simp_all

/-- **Where a walk that follows a final link arrives, one that does not follow it arrives too**, at the
    same node or at a link. -/
theorem walk_nofollow (d : Disk) : ∀ b place todo p n,
    walk d true b place todo = .ok (.present p n) →
    ∃ p' n', walk d false b place todo = .ok (.present p' n') := by
  refine walk_induction d true ?missing ?arrived ?blocked ?stop ?go
  case missing =>
    intro b place todo hp p n h
    rw [walk_missing hp] at h
    cases h
  case arrived =>
    intro b place here hp p n h
    exact ⟨place, here, walk_arrived hp⟩
  case blocked =>
    intro b place here name rest hp hd p n h
    rw [walk_blocked hp hd] at h
    cases h
  case stop =>
    intro b place here name rest outcome hp hd ht p n h
    rw [walk_stop hp hd ht] at h
    subst h
    exact absurd ht turn_follow_stop
  case go =>
    intro b place here name rest b' p' ahead hp hd ht ih p n h
    rw [walk_go hp hd ht] at h
    rcases turn_nofollow ht with hsame | ⟨q, link, hstop⟩
    · rw [walk_go hp hd hsame]
      exact ih p n h
    · -- a final link, which is where the walk ends
      exact ⟨q, link, walk_stop hp hd hstop⟩

/-! ## §4. A file put at a place. -/

theorem Node.isDirectory_of_isFile {n : Node} (h : n.isFile = true) : n.isDirectory = false := by
  unfold Node.isFile at h
  unfold Node.isDirectory
  cases hk : n.kind <;> simp_all

/-- What a walk finds once a file has been put at `q`. -/
def Found.put (q : Place) (node : Node) : Found → Found
  | .present p n => if p = q then .present q node else .present p n
  | .vacant p name => if p ++ [name] = q then .present q node else .vacant p name

/-- A file put where no directory or link is changes at most the turn that finds its place free. -/
theorem turn_set {d : Disk} {q : Place} {node : Node}
    (hq : ∀ n, d.node? q = some n → n.isFile = true) (hnode : node.isFile = true) (f last : Bool)
    (b : Nat) (place : Place) (name : String) :
    turn (d.set q node) f b place name last = turn d f b place name last
    ∨ (place ++ [name] = q ∧ turn (d.set q node) f b place name last = .go b q [] ∧
        turn d f b place name last =
          .stop (if last then .ok (.vacant place name) else .error .noEntry)) := by
  by_cases hc : place ++ [name] = q
  · -- the turn looks at `q`, unless the name is too long or a dot
    unfold turn
    split
    · exact Or.inl rfl
    split
    · exact Or.inl rfl
    split
    · exact Or.inl rfl
    subst hc
    rw [Disk.node?_set_self]
    unfold Node.isFile at hnode
    cases hn : d.node? (place ++ [name]) with
    | none =>
      refine Or.inr ⟨rfl, ?_, rfl⟩
      cases hk : node.kind <;> simp_all
    | some n =>
      have hfile := hq n hn
      unfold Node.isFile at hfile
      left
      cases hk : node.kind <;> cases hk' : n.kind <;> simp_all
  · left
    simp only [turn, Disk.node?_set_of_ne d hc]

/-- **A file put at `q` is found by every walk that found `q` free or found the file there, and other
    successful walks stay as they were.** -/
theorem walk_set {d : Disk} {q : Place} {node : Node}
    (hq : ∀ n, d.node? q = some n → n.isFile = true) (hnode : node.isFile = true) (f : Bool) :
    ∀ b place todo found, walk d f b place todo = .ok found →
      walk (d.set q node) f b place todo = .ok (found.put q node) := by
  -- a directory on the way is not at `q`
  have hway : ∀ place here, d.node? place = some here → here.isDirectory = true →
      (d.set q node).node? place = some here := by
    intro place here hp hd
    have hne : place ≠ q := by
      intro heq
      subst heq
      rw [Node.isDirectory_of_isFile (hq here hp)] at hd
      cases hd
    rw [Disk.node?_set_of_ne d hne, hp]
  refine walk_induction d f ?missing ?arrived ?blocked ?stop ?go
  case missing =>
    intro b place todo hp found h
    rw [walk_missing hp] at h
    cases h
  case arrived =>
    intro b place here hp found h
    rw [walk_arrived hp] at h
    cases h
    by_cases hpq : place = q
    · subst hpq
      rw [walk_arrived (Disk.node?_set_self d place node)]
      simp [Found.put]
    · rw [walk_arrived ((Disk.node?_set_of_ne d hpq node).trans hp)]
      simp [Found.put, hpq]
  case blocked =>
    intro b place here name rest hp hd found h
    rw [walk_blocked hp hd] at h
    cases h
  case stop =>
    intro b place here name rest outcome hp hd ht found h
    rw [walk_stop hp hd ht] at h
    subst h
    have hp' := hway place here hp hd
    rcases turn_set hq hnode f rest.isEmpty b place name with hsame | ⟨hat, hgo, hstop⟩
    · -- the walk ends here as before; what it found may be the file that was at `q`
      rw [walk_stop hp' hd (hsame.trans ht), Except.ok.injEq]
      cases found with
      | present p n =>
        have hthere := turn_present (hsame.trans ht)
        by_cases hpq : p = q
        · rw [hpq, Disk.node?_set_self, Option.some.injEq] at hthere
          simp [Found.put, hpq, hthere]
        · simp [Found.put, hpq]
      | vacant p free =>
        obtain ⟨rfl, rfl, hnone⟩ := turn_vacant (hsame.trans ht)
        have hne : p ++ [free] ≠ q := by
          intro heq
          subst heq
          rw [Disk.node?_set_self] at hnone
          cases hnone
        simp [Found.put, hne]
    · -- the walk found `q` free, and now goes on to the file there
      rw [ht, Turn.stop.injEq] at hstop
      cases rest with
      | nil =>
        simp only [List.isEmpty_nil, if_true, Except.ok.injEq] at hstop
        rw [walk_go hp' hd hgo, List.append_nil, walk_arrived (Disk.node?_set_self d q node), hstop]
        simp [Found.put, hat]
      | cons next rest => simp at hstop
  case go =>
    intro b place here name rest b' p' ahead hp hd ht ih found h
    rw [walk_go hp hd ht] at h
    rcases turn_set hq hnode f rest.isEmpty b place name with hsame | ⟨-, -, hstop⟩
    · rw [walk_go (hway place here hp hd) hd (hsame.trans ht)]
      exact ih found h
    · rw [ht] at hstop
      cases hstop

/-! ## §5. A node taken away. -/

/-- Ways of finding nothing: a free name, or no such entry. -/
def LeadsNowhere : Except Errno Found → Prop
  | .error e => e = .noEntry
  | .ok (.vacant ..) => True
  | .ok (.present ..) => False

/-- A turn without a node is the turn with it, or it finds nothing. -/
theorem turn_erase (d : Disk) {q : Place} (hq : q ≠ []) (f last : Bool) (b : Nat) (place : Place)
    (name : String) :
    turn (d.erase q) f b place name last = turn d f b place name last
    ∨ ∃ outcome, turn (d.erase q) f b place name last = .stop outcome ∧ LeadsNowhere outcome := by
  by_cases hc : place ++ [name] = q
  · -- the turn looks at `q`, unless the name is too long or a dot
    unfold turn
    split
    · exact Or.inl rfl
    split
    · exact Or.inl rfl
    split
    · exact Or.inl rfl
    subst hc
    rw [Disk.node?_erase_self d hq]
    refine Or.inr ⟨_, rfl, ?_⟩
    cases last
    · exact rfl
    · exact trivial
  · left
    simp only [turn, Disk.node?_erase_of_ne d hc]

/-- **Without a node a walk ends as before, or it finds nothing.** -/
theorem walk_erase (d : Disk) {q : Place} (hq : q ≠ []) (f : Bool) : ∀ b place todo,
    walk (d.erase q) f b place todo = walk d f b place todo
    ∨ LeadsNowhere (walk (d.erase q) f b place todo) := by
  -- a walk that stands at `q` itself finds no entry any more
  have hat : ∀ b todo, LeadsNowhere (walk (d.erase q) f b q todo) := by
    intro b todo
    rw [walk_missing (Disk.node?_erase_self d hq)]
    exact rfl
  refine walk_induction d f ?missing ?arrived ?blocked ?stop ?go
  case missing =>
    intro b place todo hp
    by_cases hpq : place = q
    · exact Or.inr (hpq ▸ hat b todo)
    · left
      rw [walk_missing hp, walk_missing ((Disk.node?_erase_of_ne d hpq).trans hp)]
  case arrived =>
    intro b place here hp
    by_cases hpq : place = q
    · exact Or.inr (hpq ▸ hat b [])
    · left
      rw [walk_arrived hp, walk_arrived ((Disk.node?_erase_of_ne d hpq).trans hp)]
  case blocked =>
    intro b place here name rest hp hd
    by_cases hpq : place = q
    · exact Or.inr (hpq ▸ hat b (name :: rest))
    · left
      rw [walk_blocked hp hd, walk_blocked ((Disk.node?_erase_of_ne d hpq).trans hp) hd]
  case stop =>
    intro b place here name rest outcome hp hd ht
    by_cases hpq : place = q
    · exact Or.inr (hpq ▸ hat b (name :: rest))
    · have hp' := (Disk.node?_erase_of_ne d hpq).trans hp
      rcases turn_erase d hq f rest.isEmpty b place name with hsame | ⟨o, ho, hnowhere⟩
      · left
        rw [walk_stop hp hd ht, walk_stop hp' hd (hsame.trans ht)]
      · right
        rw [walk_stop hp' hd ho]
        exact hnowhere
  case go =>
    intro b place here name rest b' p' ahead hp hd ht ih
    by_cases hpq : place = q
    · exact Or.inr (hpq ▸ hat b (name :: rest))
    · have hp' := (Disk.node?_erase_of_ne d hpq).trans hp
      rcases turn_erase d hq f rest.isEmpty b place name with hsame | ⟨o, ho, hnowhere⟩
      · rw [walk_go hp hd ht, walk_go hp' hd (hsame.trans ht)]
        exact ih
      · right
        rw [walk_stop hp' hd ho]
        exact hnowhere

/-! ## §6. Without links. -/

/-- Whether a node is a link. -/
def Node.isLink (n : Node) : Bool :=
  match n.kind with
  | .link _ => true
  | _ => false

theorem Node.isDirectory_of_isLink {n : Node} (h : n.isLink = true) : n.isDirectory = false := by
  unfold Node.isLink at h
  unfold Node.isDirectory
  cases hk : n.kind <;> simp_all

/-- The place that names lead to from a place where there is no link; `.` leads nowhere. -/
def below (place : Place) (names : List String) : Place := place ++ names.filter (· ≠ ".")

@[simp] theorem below_nil (place : Place) : below place [] = place := by simp [below]

@[simp] theorem below_dot (place : Place) (rest : List String) :
    below place ("." :: rest) = below place rest := by
  simp [below]

theorem below_cons (place : Place) {name : String} (h : name ≠ ".") (rest : List String) :
    below place (name :: rest) = below (place ++ [name]) rest := by
  simp [below, h]

theorem prefix_below (place : Place) (names : List String) : place <+: below place names :=
  List.prefix_append _ _

/-- On the way along names from a place there is no link. -/
def ClearWay (d : Disk) (place : Place) (names : List String) : Prop :=
  (∀ name ∈ names, name ≠ "..") ∧
  ∀ p n, p <+: below place names → d.node? p = some n → n.isLink = false

namespace ClearWay

variable {d : Disk} {place : Place} {name : String} {rest : List String}

theorem dot (h : ClearWay d place ("." :: rest)) : ClearWay d place rest :=
  ⟨fun n hn => h.1 n (List.mem_cons_of_mem _ hn), fun p n hp => h.2 p n (by simpa using hp)⟩

theorem step (h : ClearWay d place (name :: rest)) (hdot : name ≠ ".") :
    ClearWay d (place ++ [name]) rest :=
  ⟨fun n hn => h.1 n (List.mem_cons_of_mem _ hn),
    fun p n hp => h.2 p n (by rw [below_cons place hdot]; exact hp)⟩

/-- On a clear way a walk goes down name by name, if the name is short enough and something is there. -/
theorem turn_eq (h : ClearWay d place (name :: rest)) (hdot : name ≠ ".") (f last : Bool) (b : Nat) :
    turn d f b place name last =
      if maxName < name.utf8ByteSize then .stop (.error .nameTooLong)
      else if d.node? (place ++ [name]) = none then
        .stop (if last then .ok (.vacant place name) else .error .noEntry)
      else .go b (place ++ [name]) [] := by
  have hlink := h.2 (place ++ [name])
  rw [below_cons place hdot] at hlink
  unfold turn
  rw [if_neg hdot, if_neg (h.1 name List.mem_cons_self)]
  cases hn : d.node? (place ++ [name]) with
  | none => simp
  | some n =>
    have hnl := hlink n (prefix_below _ _) hn
    unfold Node.isLink at hnl
    cases hk : n.kind <;> simp_all

end ClearWay

/-- **On a clear way a walk depends on nothing but the nodes along it.** -/
theorem walk_congr {d d' : Disk} (f : Bool) (b : Nat) (names : List String) (place : Place)
    (hclear : ClearWay d place names)
    (hd : ∀ p, p <+: below place names → d'.node? p = d.node? p) :
    walk d' f b place names = walk d f b place names := by
  induction names generalizing place with
  | nil =>
    have hplace := hd place (prefix_below _ _)
    cases hp : d.node? place with
    | none => rw [walk_missing hp, walk_missing (hplace.trans hp)]
    | some here => rw [walk_arrived hp, walk_arrived (hplace.trans hp)]
  | cons name rest ih =>
    have hplace := hd place (prefix_below _ _)
    have hclear' : ClearWay d' place (name :: rest) :=
      ⟨hclear.1, fun p n hp hn => hclear.2 p n hp ((hd p hp).symm.trans hn)⟩
    cases hp : d.node? place with
    | none => rw [walk_missing hp, walk_missing (hplace.trans hp)]
    | some here =>
      have hp' := hplace.trans hp
      cases hdir : here.isDirectory with
      | false => rw [walk_blocked hp hdir, walk_blocked hp' hdir]
      | true =>
        by_cases hdot : name = "."
        · -- both walks stay where they are
          subst hdot
          have hturn : ∀ e : Disk, turn e f b place "." rest.isEmpty = .go b place [] := by
            intro e
            rfl
          rw [walk_go hp hdir (hturn d), walk_go hp' hdir (hturn d')]
          exact ih place hclear.dot (fun p hpre => hd p (by simpa using hpre))
        · -- both walks look at the same node
          have hdown : ∀ p, p <+: below (place ++ [name]) rest → d'.node? p = d.node? p := by
            intro p hpre
            exact hd p (by rw [below_cons place hdot]; exact hpre)
          have hturn : turn d' f b place name rest.isEmpty = turn d f b place name rest.isEmpty := by
            rw [hclear.turn_eq hdot, hclear'.turn_eq hdot, hdown _ (prefix_below _ _)]
          match ht : turn d f b place name rest.isEmpty with
          | .stop outcome => rw [walk_stop hp hdir ht, walk_stop hp' hdir (hturn.trans ht)]
          | .go b' p' ahead =>
            have hgo := (hclear.turn_eq hdot f rest.isEmpty b).symm.trans ht
            split at hgo
            · cases hgo
            split at hgo
            · cases hgo
            cases hgo
            rw [walk_go hp hdir ht, walk_go hp' hdir (hturn.trans ht)]
            exact ih (place ++ [name]) (hclear.step hdot) hdown

/-- On a clear way a walk arrives at the place that its names spell. -/
theorem walk_place {d : Disk} (f : Bool) (b : Nat) (names : List String) (place : Place)
    (found : Found) (hclear : ClearWay d place names) (h : walk d f b place names = .ok found) :
    (∀ p n, found = .present p n → p = below place names) ∧
    (∀ p name, found = .vacant p name → p ++ [name] = below place names) := by
  induction names generalizing place with
  | nil =>
    cases hp : d.node? place with
    | none => rw [walk_missing hp] at h; cases h
    | some here =>
      rw [walk_arrived hp] at h
      cases h
      exact ⟨fun p n e => by cases e; simp, fun p name e => by cases e⟩
  | cons name rest ih =>
    cases hp : d.node? place with
    | none => rw [walk_missing hp] at h; cases h
    | some here =>
      cases hdir : here.isDirectory with
      | false => rw [walk_blocked hp hdir] at h; cases h
      | true =>
        by_cases hdot : name = "."
        · subst hdot
          have hturn : turn d f b place "." rest.isEmpty = .go b place [] := rfl
          rw [walk_go hp hdir hturn] at h
          rw [below_dot]
          exact ih place hclear.dot h
        · have hturn := hclear.turn_eq hdot f rest.isEmpty b
          rw [below_cons place hdot]
          by_cases hlong : maxName < name.utf8ByteSize
          · rw [if_pos hlong] at hturn
            rw [walk_stop hp hdir hturn] at h
            cases h
          rw [if_neg hlong] at hturn
          by_cases hnone : d.node? (place ++ [name]) = none
          · -- a free name ends the walk, well if it is the last one
            rw [if_pos hnone] at hturn
            rw [walk_stop hp hdir hturn] at h
            cases rest with
            | nil =>
              cases h
              exact ⟨fun p n e => (by cases e), fun p free e => (by cases e; simp)⟩
            | cons next rest => simp at h
          · rw [if_neg hnone] at hturn
            rw [walk_go hp hdir hturn] at h
            exact ih (place ++ [name]) (hclear.step hdot) h

end Converge.Machine
