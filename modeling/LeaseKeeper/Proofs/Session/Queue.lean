import LeaseKeeper.Proofs.Session.Turns

/-!
# The login lock

The lock of a session is held by the operation at the head of its queue. `Orderly` says that
the operations in the queue are just those that wait for the lock or are logging in, that an
operation that is logging in is the head, and that no grant is installed meanwhile. So at
most one login is under way (`Orderly.login_unique`), and whoever finds the lock with a
credential installed has waited for nobody's login. Every run is orderly (`orderly_of_run`).
-/

namespace LeaseKeeper.Session

namespace Point

/-- Whether the operation performs a login: it holds the lock. -/
def isLogin : Point → Bool
  | loggingIn _ _ => true
  | lookingUp _ _ => true
  | discarding _ _ => true
  | _ => false

/-- Whether the operation has a place in the queue for the lock. -/
def wantsLock : Point → Bool
  | queued _ _ => true
  | p => p.isLogin

theorem wantsLock_of_isLogin {p : Point} (h : p.isLogin = true) : p.wantsLock = true := by
  cases p <;> first | rfl | exact h

end Point

/-- The queue for the lock, the operations and the installed grant go together. -/
structure Orderly (ops : List (Nat × Point)) (lock : List Nat) (next : Nat)
    (current : Option Grant) : Prop where
  fresh : ∀ x ∈ ops, x.1 < next
  nodup : lock.Nodup
  mem_lock : ∀ op, op ∈ lock ↔ ∃ p, ops.lookup op = some p ∧ p.wantsLock = true
  head : ∀ op p, ops.lookup op = some p → p.isLogin = true → lock.head? = some op
  bare : ∀ op p, ops.lookup op = some p → p.isLogin = true → current = none

/-- A session with an orderly queue. -/
abbrev World.IsOrderly (w : World) : Prop :=
  Orderly w.operations w.lock w.nextOperation w.current

namespace Orderly

variable {ops : List (Nat × Point)} {lock : List Nat} {next : Nat} {current : Option Grant}

/-! ## What an orderly queue tells -/

theorem lt_next (h : Orderly ops lock next current) {op : Nat} {p : Point}
    (hp : ops.lookup op = some p) : op < next :=
  h.fresh _ (lookup_mem hp)

/-- A number that was not given out stands nowhere. -/
theorem lookup_next (h : Orderly ops lock next current) : ops.lookup next = none := by
  cases hp : ops.lookup next with
  | none => rfl
  | some p => exact absurd (h.lt_next hp) (Nat.lt_irrefl _)

theorem not_mem_lock (h : Orderly ops lock next current) {op : Nat}
    (hp : ∀ p, ops.lookup op = some p → p.wantsLock = false) : op ∉ lock := by
  intro hm
  obtain ⟨p, hl, hw⟩ := (h.mem_lock op).mp hm
  exact absurd hw (by simp [hp p hl])

theorem next_not_mem (h : Orderly ops lock next current) : next ∉ lock :=
  h.not_mem_lock fun p hp => by rw [h.lookup_next] at hp; cases hp

/-- Only one operation performs a login. -/
theorem login_unique (h : Orderly ops lock next current) {a b : Nat} {p q : Point}
    (ha : ops.lookup a = some p) (hp : p.isLogin = true) (hb : ops.lookup b = some q)
    (hq : q.isLogin = true) : a = b := by
  simpa using (h.head a p ha hp).symm.trans (h.head b q hb hq)

/-- While a grant is installed, nobody performs a login. -/
theorem no_login (h : Orderly ops lock next current) {g : Grant} (hc : current = some g) {op : Nat}
    {p : Point} (hp : ops.lookup op = some p) : p.isLogin = false := by
  by_contra hl
  rw [Bool.not_eq_false] at hl
  exact absurd ((h.bare op p hp hl).symm.trans hc) (by simp)

/-! ## What keeps it -/

theorem advance (h : Orderly ops lock next current) : Orderly ops lock (next + 1) current :=
  { h with fresh := fun x hx => Nat.lt_succ_of_lt (h.fresh x hx) }

theorem install (h : Orderly ops lock next current) (current' : Option Grant)
    (hc : ∀ op p, ops.lookup op = some p → p.isLogin = true → current' = none) :
    Orderly ops lock next current' :=
  { h with bare := hc }

/-- An operation ends and gives up its place in the queue. -/
theorem leave (h : Orderly ops lock next current) (op : Nat) {current' : Option Grant}
    (hc : ∀ q p, q ≠ op → ops.lookup q = some p → p.isLogin = true → current' = none) :
    Orderly (ops.filter (·.1 != op)) (lock.filter (· != op)) next current' where
  fresh x hx := h.fresh x (List.mem_filter.mp hx).1
  nodup := h.nodup.filter _
  mem_lock q := by
    rw [List.mem_filter, h.mem_lock, lookup_filter]
    by_cases hq : q = op <;> simp [hq]
  head q p hp hl := by
    rw [lookup_filter] at hp
    split at hp
    · cases hp
    rename_i hq
    have hh := h.head q p hp hl
    cases lock with
    | nil => cases hh
    | cons a as =>
      simp only [List.head?_cons, Option.some.injEq] at hh
      subst hh
      rw [List.filter_cons_of_pos (by simpa using hq), List.head?_cons]
  bare q p hp hl := by
    rw [lookup_filter] at hp
    split at hp
    · cases hp
    · exact hc q p ‹_› hp hl

/-- An operation ends that has no place in the queue. -/
theorem finish (h : Orderly ops lock next current) {op : Nat} (hop : op ∉ lock) :
    Orderly (ops.filter (·.1 != op)) lock next current := by
  have hl : lock.filter (· != op) = lock :=
    List.filter_eq_self.mpr fun a ha => bne_iff_ne.mpr fun (e : a = op) => hop (e ▸ ha)
  exact hl ▸ h.leave op fun q p _ hp hq => h.bare q p hp hq

theorem fresh_cons (h : Orderly ops lock next current) {op : Nat} (hop : op < next) (p : Point) :
    ∀ x ∈ (op, p) :: ops.filter (·.1 != op), x.1 < next := by
  intro x hx
  rcases List.mem_cons.mp hx with rfl | hx
  · exact hop
  · exact h.fresh x (List.mem_filter.mp hx).1

/-- An operation moves to another point and keeps its place in the queue, or its having
none. -/
theorem move (h : Orderly ops lock next current) {op : Nat} {p : Point} (hop : op < next)
    (hw : p.wantsLock = true ↔ op ∈ lock)
    (hl : p.isLogin = true → lock.head? = some op ∧ current = none) :
    Orderly ((op, p) :: ops.filter (·.1 != op)) lock next current where
  fresh := h.fresh_cons hop p
  nodup := h.nodup
  mem_lock q := by
    rw [lookup_move]
    by_cases hq : q = op
    · simp [hq, hw]
    · simp [hq, h.mem_lock]
  head q r hr hq := by
    rw [lookup_move] at hr
    split at hr
    · cases hr; exact ‹q = op› ▸ (hl hq).1
    · exact h.head q r hr hq
  bare q r hr hq := by
    rw [lookup_move] at hr
    split at hr
    · cases hr; exact (hl hq).2
    · exact h.bare q r hr hq

/-- An operation joins the queue; if the lock is free it may log in at once. -/
theorem enqueue (h : Orderly ops lock next current) {op : Nat} {p : Point} (hop : op < next)
    (hn : op ∉ lock) (hw : p.wantsLock = true) (hl : p.isLogin = true → lock = [] ∧ current = none) :
    Orderly ((op, p) :: ops.filter (·.1 != op)) (lock ++ [op]) next current where
  fresh := h.fresh_cons hop p
  nodup := by
    refine List.nodup_append.mpr ⟨h.nodup, List.nodup_singleton _, fun a ha b hb e => hn ?_⟩
    rw [List.mem_singleton] at hb
    exact hb ▸ e ▸ ha
  mem_lock q := by
    rw [lookup_move, List.mem_append, h.mem_lock]
    by_cases hq : q = op
    · simp [hq, hw]
    · simp [hq]
  head q r hr hq := by
    rw [lookup_move] at hr
    split at hr
    · cases hr
      rw [(hl hq).1, ‹q = op›]; rfl
    · rw [List.head?_append, h.head q r hr hq]; rfl
  bare q r hr hq := by
    rw [lookup_move] at hr
    split at hr
    · cases hr; exact (hl hq).2
    · exact h.bare q r hr hq

end Orderly

/-! ## Every turn keeps it -/

namespace World

theorem orderly_acquires {u w' : World} {op : Nat} {purpose : Purpose} (h : u.IsOrderly)
    (hop : op < u.nextOperation) (hn : op ∉ u.lock) (ha : Acquires u op purpose w') :
    w'.IsOrderly := by
  cases ha with
  | shut _ => simpa [IsOrderly] using h.finish hn
  | found _ _ => simpa [IsOrderly] using h.finish hn
  | starts _ hu hl =>
    have hb := h.install none fun _ _ _ _ => rfl
    have ho := hb.enqueue (p := .loggingIn purpose u.now) hop hn rfl fun _ => ⟨hl, rfl⟩
    rw [hl, List.nil_append] at ho
    have hc : ({ u with lock := [op] } : World).dropExpired.current = none := current_dropExpired hu
    simpa [IsOrderly, call, note, setPoint, hc] using ho
  | waits _ _ _ => exact h.enqueue hop hn rfl fun hl => by cases hl

theorem orderly_enters {w w' : World} {op observed : Nat} {purpose : Purpose} (h : w.IsOrderly)
    (hl : w.lock.head? = some op) (hp : w.point? op = some (.queued observed purpose))
    (he : Enters w op observed purpose w') : w'.IsOrderly := by
  have hleave := h.leave op fun q p _ hp hq => h.bare q p hp hq
  cases he with
  | shut _ => simpa [IsOrderly, unlock] using hleave
  | found _ _ => simpa [IsOrderly, unlock] using hleave
  | shared _ _ _ _ => simpa [IsOrderly, unlock] using hleave
  | starts _ hu _ =>
    have hb := h.install none fun _ _ _ _ => rfl
    have ho := hb.move (p := .loggingIn purpose w.now) (h.lt_next hp)
      ⟨fun _ => List.mem_of_mem_head? hl, fun _ => rfl⟩ fun _ => ⟨hl, rfl⟩
    simpa [IsOrderly, call, note, setPoint, current_dropExpired hu] using ho

/-- The operation that logs in ends, and with it every login. -/
theorem orderly_endLogin {w : World} {op : Nat} {p : Point} (h : w.IsOrderly)
    (hp : w.point? op = some p) (hl : p.isLogin = true) (current : Option Grant) :
    Orderly (w.operations.filter (·.1 != op)) (w.lock.filter (· != op)) w.nextOperation current :=
  h.leave op fun _ _ hq hr hs => absurd (h.login_unique hr hs hp hl) hq

theorem orderly_welcomes {w w' : World} {op : Nat} {purpose : Purpose} {c : Credential} {p : Point}
    (h : w.IsOrderly) (hp : w.point? op = some p) (hl : p.isLogin = true)
    (hw : Welcomes w op purpose c w') : w'.IsOrderly := by
  cases hw with
  | late _ _ =>
    have hm : op ∈ w.lock := (h.mem_lock op).mpr ⟨p, hp, Point.wantsLock_of_isLogin hl⟩
    exact h.move (h.lt_next hp) ⟨fun _ => hm, fun _ => rfl⟩
      fun _ => ⟨h.head op p hp hl, h.bare op p hp hl⟩
  | dropped _ _ => simpa [IsOrderly, endLogin_eq, unlock] using orderly_endLogin h hp hl w.current
  | installed _ =>
    simpa [IsOrderly, endLogin_eq, unlock] using orderly_endLogin h hp hl (some ⟨w.nextGrant, c⟩)

theorem orderly_takes {u w' : World} {op : Nat} (h : u.IsOrderly) (hop : op < u.nextOperation)
    (hn : op ∉ u.lock) (ht : Takes u op w') : w'.IsOrderly := by
  have hb := h.install none fun _ _ _ _ => rfl
  cases ht with
  | quiet _ => simpa [IsOrderly, cancelTask, World.install] using hb.finish hn
  | sends _ _ =>
    exact hb.move hop ⟨fun hw => (by cases hw), fun hm => absurd hm hn⟩ fun hl => by cases hl

theorem orderly_loses {u w' : World} {op : Nat} {g : Grant} (h : u.IsOrderly)
    (hop : op < u.nextOperation) (hn : op ∉ u.lock) (hl : Loses u op g w') : w'.IsOrderly := by
  have hb := h.install none fun _ _ _ _ => rfl
  cases hl with
  | superseded _ => simpa [IsOrderly] using h.finish hn
  | again _ _ ha => exact orderly_acquires (u := (u.install none).cancelTask) hb hop hn ha
  | ended _ _ => simpa [IsOrderly, cancelTask, World.install, publish, note] using hb.finish hn

/-- What renewing asks of the queue: that the operation has no place in it, and that no login
is under way if the grant is installed. -/
theorem orderly_renews {w w' : World} {op : Nat} {g : Grant} {since : Instant}
    {r : Except Fault Credential} (h : w.IsOrderly) (hp : w.point? op = some (.renewing g since))
    (hr : Renews w op g r w') : w'.IsOrderly := by
  have hn : op ∉ w.lock := h.not_mem_lock fun p hp' => by
    cases hp.symm.trans hp'; rfl
  have hop : op < w.nextOperation := h.lt_next hp
  have hb := h.install none fun _ _ _ _ => rfl
  cases hr with
  | discarded _ => simpa [IsOrderly] using h.finish hn
  | superseded _ _ => simpa [IsOrderly] using h.finish hn
  | brief _ _ _ => simpa [IsOrderly, cancelTask, World.install, publish, note] using hb.finish hn
  | @renewed c _ hc _ =>
    obtain ⟨g', hg', -⟩ := Option.any_eq_true .. |>.mp hc
    have hi := h.install (some ⟨w.nextGrant, c⟩) fun _ _ hq hs =>
      absurd hs (by simp [h.no_login hg' hq])
    simpa [IsOrderly] using hi.finish hn
  | retried _ _ _ => simpa [IsOrderly] using h.finish hn
  | tooLate _ _ _ hl =>
    obtain ⟨t, n, hd⟩ := (w.told g _).snd_renewalDelay g.credential
    rw [hd] at hl
    exact orderly_loses (u := { w.told g _ with trigger := t, drawn := n }) h hop hn hl
  | failed _ _ hl => exact orderly_loses (u := w.told g _) h hop hn hl

end World

open World in
/-- Every turn keeps the queue orderly. -/
theorem orderly_turn {w w' : World} {m : Move} (h : w.IsOrderly) (ht : Turn w m w') :
    w'.IsOrderly := by
  have hnew : Orderly w.operations w.lock (w.nextOperation + 1) w.current := h.advance
  have hend := hnew.finish h.next_not_mem
  cases ht with
  | token _ ha => exact orderly_acquires (u := w.enrolled) hnew (Nat.lt_succ_self _) h.next_not_mem ha
  | revoke _ hk => exact orderly_takes (u := w.enrolled) hnew (Nat.lt_succ_self _) h.next_not_mem hk
  | destroyAgain _ _ => simpa [IsOrderly] using hend
  | destroy _ _ hk =>
    exact orderly_takes (u := { w.enrolled with destroyed := true }) hnew (Nat.lt_succ_self _)
      h.next_not_mem hk
  | orphan _ _ => exact h
  | stale _ _ _ => simpa [IsOrderly] using hend
  | renew _ _ _ _ _ =>
    exact hnew.move (Nat.lt_succ_self _) ⟨fun hw => (by cases hw), fun hm => absurd hm h.next_not_mem⟩
      fun hl => by cases hl
  | expire _ _ _ _ _ =>
    simpa [IsOrderly, World.install, publish, note] using
      hend.install none fun _ _ _ _ => rfl
  | enter hl hp he => exact orderly_enters h hl hp he
  | loginFailed hp =>
    simpa [IsOrderly, endLogin_eq, unlock, publish, note] using
      orderly_endLogin h hp rfl w.current
  | @looksUp op purpose _ c hp _ =>
    have hm : op ∈ w.lock := (h.mem_lock op).mpr ⟨_, hp, rfl⟩
    exact h.move (p := .lookingUp purpose c) (h.lt_next hp) ⟨fun _ => hm, fun _ => rfl⟩
      fun _ => ⟨h.head op _ hp rfl, h.bare op _ hp rfl⟩
  | @welcome op purpose since c w' hp _ hw =>
    exact orderly_welcomes (w := w.timed true since) (p := .loggingIn purpose since) h hp rfl hw
  | lookedUp hp hw | notLookedUp hp hw => exact orderly_welcomes h hp rfl hw
  | @discarded op purpose g r hp =>
    have ho := orderly_endLogin h hp rfl w.current
    cases r <;> simpa [IsOrderly, endLogin_eq, unlock, tellRevocation, publish, note] using ho
  | renewed hp hr => exact orderly_renews h hp hr
  | @revoked op g r hp =>
    have hop : op ∉ w.lock := h.not_mem_lock fun p hp' => by cases hp.symm.trans hp'; rfl
    have ho := h.finish hop
    cases r <;> simpa [IsOrderly, tellRevocation, publish, note] using ho
  | @abandon op p hp =>
    simpa [IsOrderly, unlock] using h.leave op fun q p _ hp hq => h.bare q p hp hq
  | elapse _ _ => exact h
  | release => simpa [IsOrderly, release] using h
  | stop | listen | unlisten => exact h

theorem orderly_initial (settings : Settings) (d : Discipline) (draws : Nat → Nat) :
    (World.initial settings d draws).IsOrderly :=
  ⟨by simp [World.initial], List.nodup_nil,
    by simp [World.initial], by simp [World.initial], by simp [World.initial]⟩

/-- Every run is orderly. -/
theorem orderly_of_run {settings : Settings} {d : Discipline} {draws : Nat → Nat} {w : World}
    {ms : List Move} (h : run? (World.initial settings d draws) ms = some w) : w.IsOrderly :=
  run?_keeps orderly_turn (orderly_initial settings d draws) h

end LeaseKeeper.Session
