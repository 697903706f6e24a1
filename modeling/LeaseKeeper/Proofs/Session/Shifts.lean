import LeaseKeeper.Proofs.Session.Queue

/-!
# What a step does to the login lock

A login finishes when the operation that performs it has its result (`finishes?`): the server
has refused, or the credential has been installed, or the token of a session that was shut
down meanwhile has been given back. `Shift` sorts the steps by what becomes of the queue for
the lock: one operation joins it, begins a login, ends one, or leaves, and all others stay where
they are; every step is one of these (`shift_of_turn`).
-/

namespace LeaseKeeper.Session

/-- For whom an operation that has a place in the queue goes after a credential. -/
def Point.purpose? : Point → Option Purpose
  | .queued _ p => some p
  | .loggingIn p _ => some p
  | .lookingUp p _ => some p
  | .discarding p _ => some p
  | _ => none

namespace World

/-- What a login has come to that brought that credential; a token that has to be given back
first has not come to anything yet. -/
def delivers? (w : World) (op : Nat) (c : Credential) : Option (Nat × Except Fault Grant) :=
  if w.destroyed then if c.isLogin then none else some (op, .error .destroyed)
  else some (op, .ok ⟨w.nextGrant, c⟩)

/-- The login that a move finishes: who performs it, and what it has come to. -/
def finishes? (w : World) : Move → Option (Nat × Except Fault Grant)
  | .answer op r =>
    match w.point? op, r with
    | some (.loggingIn _ _), .login (.error f) => some (op, .error f)
    | some (.loggingIn _ _), .login (.ok c) => if w.wantsLookup c then none else w.delivers? op c
    | some (.lookingUp _ c), .lookup (.ok found) =>
      w.delivers? op (c.withLease w.now found.ttl found.renewable)
    | some (.lookingUp _ c), .lookup (.error _) => w.delivers? op c
    | some (.discarding _ _), .revocation _ => some (op, .error .destroyed)
    | _, _ => none
  | _ => none

/-- Every operation but `op` stays where it is. -/
structure Beside (w w' : World) (op : Nat) : Prop where
  points : ∀ a, a ≠ op → w'.point? a = w.point? a
  next : w.nextOperation ≤ w'.nextOperation

/-- No login finishes. -/
structure Unfinished (w : World) (m : Move) (w' : World) : Prop where
  finishes : w.finishes? m = none
  done : w'.loginsDone = w.loginsDone
  fault : w'.lastFault = w.lastFault

/-- What becomes of the queue for the lock. -/
inductive Shift (w : World) (m : Move) (w' : World) : Prop
  /-- An operation without a place in the queue goes on or ends, or nothing happens. -/
  | aside {op : Nat} : w.Beside w' op → w.Unfinished m w' → op ∉ w.lock → w'.lock = w.lock →
    (w.point? op = none → w.nextOperation ≤ op) →
    (∀ p, w'.point? op = some p → p.wantsLock = false) →
    (w.current = none → w'.current = none) → Shift w m w'
  /-- An operation joins the queue. -/
  | joins {op : Nat} {purpose : Purpose} : w.Beside w' op → w.Unfinished m w' → op ∉ w.lock →
    w.lock ≠ [] → w'.lock = w.lock ++ [op] → (w.point? op = none → w.nextOperation ≤ op) →
    w'.point? op = some (.queued w.loginsDone purpose) →
    (w.current = none → w'.current = none) → Shift w m w'
  /-- An operation finds the lock free and begins a login. A grant that it finds is the one whose
  renewal it has just failed in. -/
  | begins {op : Nat} {purpose : Purpose} {since : Instant} : w.Beside w' op → w.Unfinished m w' →
    op ∉ w.lock → w.lock = [] → w'.lock = [op] → (w.point? op = none → w.nextOperation ≤ op) →
    w'.point? op = some (.loggingIn purpose since) → w.destroyed = false →
    (∀ g, w.usable? = some g → ∃ h s, w.point? op = some (.renewing h s) ∧ h.serial = g.serial) →
    w'.current = none → Shift w m w'
  /-- The operation at the head of the queue leaves it without a login. -/
  | leaves {op observed : Nat} {purpose : Purpose} : w.Beside w' op → w.Unfinished m w' →
    w.lock.head? = some op → w'.lock = w.lock.filter (· != op) →
    w.point? op = some (.queued observed purpose) → w'.point? op = none →
    (w.current = none → w'.current = none) → Shift w m w'
  /-- The operation at the head of the queue begins a login. -/
  | enters {op observed : Nat} {purpose : Purpose} {since : Instant} : w.Beside w' op →
    w.Unfinished m w' → w.lock.head? = some op → w'.lock = w.lock →
    w.point? op = some (.queued observed purpose) →
    w'.point? op = some (.loggingIn purpose since) → w.destroyed = false → w.usable? = none →
    (observed < w.loginsDone → w.lastFault = none) → w'.current = none → Shift w m w'
  /-- A login goes on. -/
  | continues {op : Nat} {p p' : Point} : w.Beside w' op → w.Unfinished m w' →
    w'.lock = w.lock → w.point? op = some p → p.isLogin = true → w'.point? op = some p' →
    p'.isLogin = true → (∀ purpose since, p' ≠ .loggingIn purpose since) → Shift w m w'
  /-- A login finishes. -/
  | finishes {op : Nat} {p : Point} {purpose : Purpose} {r : Except Fault Grant} : w.Beside w' op →
    w.finishes? m = some (op, r) → w'.loginsDone = w.loginsDone + 1 → w'.lastFault = faultOf r →
    w'.lock = w.lock.filter (· != op) → w.point? op = some p → p.isLogin = true →
    p.purpose? = some purpose → w'.point? op = none → w'.outcome? op = some (purpose.outcome r) →
    (∀ f, r = .error f → w'.current = none) → Shift w m w'
  /-- An operation is given up. -/
  | abandoned {op : Nat} {p : Point} : w.Beside w' op → w.Unfinished m w' →
    w'.lock = w.lock.filter (· != op) → w.point? op = some p → w'.point? op = none →
    w'.current = w.current → Shift w m w'

/-! ## Every turn is a shift -/

/-- In all that concerns the lock, `u` is as `w`. -/
structure Alike (w u : World) : Prop where
  points : ∀ a, u.point? a = w.point? a
  next : w.nextOperation ≤ u.nextOperation
  lock : u.lock = w.lock
  done : u.loginsDone = w.loginsDone
  fault : u.lastFault = w.lastFault

variable {w u w' : World} {m : Move} {op : Nat}

theorem Alike.same (hp : u.operations = w.operations) (hn : w.nextOperation ≤ u.nextOperation)
    (hl : u.lock = w.lock) (hd : u.loginsDone = w.loginsDone) (hf : u.lastFault = w.lastFault) :
    Alike w u :=
  ⟨fun _ => by rw [point?, hp, point?], hn, hl, hd, hf⟩

theorem Alike.installs (h : Alike w u) (c : Credential) (e : Grant → SessionEvent) :
    Alike w (u.installs c e) :=
  ⟨fun a => (point?_installs u c e a).trans (h.points a),
    Nat.le_trans h.next (Nat.le_of_eq (nextOperation_installs u c e).symm),
    (lock_installs u c e).trans h.lock, (loginsDone_installs u c e).trans h.done,
    (lastFault_installs u c e).trans h.fault⟩

theorem Alike.finish (h : Alike w u) (o : Outcome) :
    Beside w (u.finish op o) op ∧ (u.finish op o).point? op = none :=
  ⟨⟨fun a ha => by rw [point?_finish, if_neg ha, h.points], by rw [nextOperation_finish]; exact h.next⟩,
    by rw [point?_finish, if_pos rfl]⟩

theorem Alike.call (h : Alike w u) (c : Call) (p : Point) :
    Beside w (u.call op c p) op ∧ (u.call op c p).point? op = some p :=
  ⟨⟨fun a ha => by rw [point?_call, if_neg ha, h.points], h.next⟩, by rw [point?_call, if_pos rfl]⟩

theorem Alike.tellRevocation (w : World) (g : Grant) (r : Except Fault Unit) :
    Alike w (w.tellRevocation g r) := by
  cases r <;> exact .same rfl (Nat.le_refl _) rfl rfl rfl

theorem Alike.release (w : World) : Alike w w.release :=
  .same (operations_reap _) (Nat.le_of_eq (nextOperation_reap { w with held := false }).symm)
    (lock_reap _) (loginsDone_reap _) (lastFault_reap _)

/-- Giving an operation up touches no other. -/
theorem beside_abandon (w : World) (op : Nat) :
    Beside w ({ w.unlock op with operations := w.operations.filter (·.1 != op) } : World).reap op ∧
      ({ w.unlock op with operations := w.operations.filter (·.1 != op) } : World).reap.point? op =
        none := by
  refine ⟨⟨fun a ha => ?_, ?_⟩, ?_⟩
  · rw [point?, operations_reap, lookup_filter, if_neg ha]
    rfl
  · rw [nextOperation_reap]
    exact Nat.le_refl _
  · rw [point?, operations_reap, lookup_filter, if_pos rfl]

/-- An operation without a place in the queue ends. -/
theorem Shift.finish (h : Alike w u) (hm : w.finishes? m = none) (hop : op ∉ w.lock)
    (hfrom : w.point? op = none → w.nextOperation ≤ op) (hc : w.current = none → u.current = none)
    (o : Outcome) : Shift w m (u.finish op o) :=
  .aside (h.finish o).1 ⟨hm, (loginsDone_finish ..).trans h.done, (lastFault_finish ..).trans h.fault⟩
    hop ((lock_finish ..).trans h.lock) hfrom (fun p hp => by rw [(h.finish o).2] at hp; cases hp)
    fun hn => (current_finish ..).trans (hc hn)

/-- An operation without a place in the queue calls the server. -/
theorem Shift.call (h : Alike w u) (hm : w.finishes? m = none) (hop : op ∉ w.lock)
    (hfrom : w.point? op = none → w.nextOperation ≤ op) (hc : w.current = none → u.current = none)
    (c : Call) {p : Point} (hp : p.wantsLock = false) : Shift w m (u.call op c p) :=
  .aside (h.call c p).1 ⟨hm, h.done, h.fault⟩ hop h.lock hfrom
    (fun q hq => by rw [(h.call c p).2] at hq; cases hq; exact hp) hc

/-- Nothing happens to any operation. -/
theorem Shift.still (ho : w.IsOrderly) (h : Alike w u) (hm : w.finishes? m = none)
    (hc : u.current = w.current) : Shift w m u :=
  .aside (⟨fun a _ => h.points a, h.next⟩ : Beside w u w.nextOperation) ⟨hm, h.done, h.fault⟩
    ho.next_not_mem h.lock (fun _ => Nat.le_refl _)
    (fun p hp => by rw [h.points, point?, ho.lookup_next] at hp; cases hp) fun hn => hc.trans hn

theorem shift_acquires {purpose : Purpose} (h : Alike w u) (hd : u.destroyed = w.destroyed)
    (hm : w.finishes? m = none) (hop : op ∉ w.lock)
    (hfrom : w.point? op = none → w.nextOperation ≤ op) (hc : w.current = none → u.current = none)
    (hu : u.usable? = none → ∀ g, w.usable? = some g →
      ∃ i s, w.point? op = some (.renewing i s) ∧ i.serial = g.serial)
    (ha : Acquires u op purpose w') : Shift w m w' := by
  cases ha with
  | shut | found => exact .finish h hm hop hfrom hc _
  | starts hd' hn hl =>
    refine .begins (⟨fun a ha => ?_, ?_⟩ : Beside w _ op) ⟨hm, ?_, ?_⟩ hop (h.lock.symm.trans hl) ?_
      hfrom (?_ : _ = some (Point.loggingIn purpose u.now)) (hd.symm.trans hd') (hu hn) ?_
    · rw [point?_call, if_neg ha, point?_dropExpired]
      exact h.points a
    · exact Nat.le_trans h.next (Nat.le_of_eq (nextOperation_dropExpired { u with lock := [op] }).symm)
    · exact (loginsDone_dropExpired { u with lock := [op] }).trans h.done
    · exact (lastFault_dropExpired { u with lock := [op] }).trans h.fault
    · exact lock_dropExpired { u with lock := [op] }
    · rw [point?_call, if_pos rfl]
    · exact current_dropExpired (w := { u with lock := [op] }) hn
  | waits _ _ hl =>
    let v := ({ u with lock := u.lock ++ [op] } : World).setPoint op (.queued u.loginsDone purpose)
    have hb : Beside w v op := ⟨fun a ha => by
      rw [point?_setPoint, if_neg ha]
      exact h.points a, h.next⟩
    have hp : v.point? op = some (.queued w.loginsDone purpose) := by
      rw [point?_setPoint, if_pos rfl, h.done]
    refine .joins hb ⟨hm, h.done, h.fault⟩ hop (h.lock ▸ hl) ?_ hfrom hp hc
    show u.lock ++ [op] = _
    rw [h.lock]

theorem shift_enters {observed : Nat} {purpose : Purpose} (hl : w.lock.head? = some op)
    (hp : w.point? op = some (.queued observed purpose)) (he : Enters w op observed purpose w') :
    Shift w (.enter op) w' := by
  have hleave : ∀ o, Shift w (.enter op) ((w.unlock op).finish op o) := fun o => by
    refine .leaves (⟨fun a ha => ?_, ?_⟩ : Beside w _ op)
      ⟨rfl, loginsDone_finish .., lastFault_finish ..⟩ hl (lock_finish ..) hp ?_
      fun hn => (current_finish ..).trans hn
    · rw [point?_finish, if_neg ha]
      rfl
    · exact Nat.le_of_eq (nextOperation_finish (w.unlock op) op o).symm
    · rw [point?_finish, if_pos rfl]
  cases he with
  | shut | found | shared => exact hleave _
  | starts hd hu hf =>
    have h : Alike w w.dropExpired :=
      .same (operations_dropExpired w) (Nat.le_of_eq (nextOperation_dropExpired w).symm)
        (lock_dropExpired w) (loginsDone_dropExpired w) (lastFault_dropExpired w)
    exact .enters (h.call ..).1 ⟨rfl, h.done, h.fault⟩ hl h.lock hp (h.call ..).2 hd hu hf
      (current_dropExpired hu)

/-- The operation that performs a login is done with it. -/
theorem shift_endLogin {p : Point} {purpose : Purpose} {r : Except Fault Grant} (h : Alike w u)
    (hm : w.finishes? m = some (op, r)) (hp : w.point? op = some p) (hl : p.isLogin = true)
    (hpurpose : p.purpose? = some purpose) (hc : ∀ f, r = .error f → u.current = none) :
    Shift w m (u.endLogin op purpose r) := by
  rw [endLogin_eq]
  refine .finishes (⟨fun a ha => ?_, ?_⟩ : Beside w _ op) hm ?_
    (lastFault_finish ..) ?_ hp hl hpurpose ?_ ?_ fun f hf => (current_finish ..).trans (hc f hf)
  · rw [point?_finish, if_neg ha]
    exact h.points a
  · rw [nextOperation_finish]
    exact h.next
  · rw [loginsDone_finish]
    exact congrArg (· + 1) h.done
  · rw [lock_finish, ← h.lock]
    rfl
  · rw [point?_finish, if_pos rfl]
  · simp [outcome?]

theorem shift_welcomes {p : Point} {purpose : Purpose} {c : Credential} (h : Alike w u)
    (hd : u.destroyed = w.destroyed) (hg : u.nextGrant = w.nextGrant)
    (hm : w.finishes? m = w.delivers? op c) (hp : w.point? op = some p) (hl : p.isLogin = true)
    (hpurpose : p.purpose? = some purpose) (hc : u.current = none)
    (hw : Welcomes u op purpose c w') : Shift w m w' := by
  cases hw with
  | late hd' hlog =>
    have hq : Alike w u.minted := .mk h.points h.next h.lock h.done h.fault
    refine .continues (hq.call ..).1 ⟨?_, h.done, h.fault⟩ h.lock hp hl (hq.call ..).2 rfl (by simp)
    rw [hm, delivers?, if_pos (hd ▸ hd'), if_pos hlog]
  | dropped hd' hlog =>
    have hq : Alike w u.minted := .mk h.points h.next h.lock h.done h.fault
    refine shift_endLogin hq ?_ hp hl hpurpose fun _ _ => hc
    rw [hm, delivers?, if_pos (hd ▸ hd'), if_neg (by simp [hlog])]
  | installed hd' =>
    have hq := h.installs c .created
    refine shift_endLogin hq ?_ hp hl hpurpose fun _ hf => by cases hf
    rw [hm, delivers?, if_neg (by simp [← hd, hd']), hg]

theorem shift_takes (h : Alike w u) (hm : w.finishes? m = none) (hop : op ∉ w.lock)
    (hfrom : w.point? op = none → w.nextOperation ≤ op) (ht : Takes u op w') : Shift w m w' := by
  have hq : Alike w (u.cancelTask.install none) := .mk h.points h.next h.lock h.done h.fault
  cases ht with
  | quiet _ => exact .finish hq hm hop hfrom (fun _ => rfl) _
  | sends _ _ => exact .call hq hm hop hfrom (fun _ => rfl) _ rfl

theorem shift_loses {g : Grant} {since : Instant} (h : Alike w u) (hd : u.destroyed = w.destroyed)
    (hcur : u.current = w.current) (hm : w.finishes? m = none) (hop : op ∉ w.lock)
    (hp : w.point? op = some (.renewing g since)) (hl : Loses u op g w') : Shift w m w' := by
  have hfrom : w.point? op = none → w.nextOperation ≤ op := fun hn => by cases hp.symm.trans hn
  have hq : Alike w (u.install none).cancelTask := .mk h.points h.next h.lock h.done h.fault
  cases hl with
  | superseded _ => exact .finish h hm hop hfrom (fun hn => hcur.trans hn) _
  | again hc _ ha =>
    refine shift_acquires hq hd hm hop hfrom (fun _ => rfl) (fun _ i hi => ⟨g, since, hp, ?_⟩) ha
    -- What is usable is installed, and what is installed bears the number of `g`.
    have hi : w.current = some i := by
      simp only [usable?, Option.filter_eq_some_iff] at hi
      exact hi.1
    rw [isCurrent, hcur, hi] at hc
    exact (by simpa using hc : i.serial = g.serial).symm
  | ended _ _ =>
    have hq' : Alike w (((u.install none).cancelTask).publish (.loginTokenExpired g)) :=
      .mk h.points h.next h.lock h.done h.fault
    exact .finish hq' hm hop hfrom (fun _ => rfl) _

theorem shift_renews {g : Grant} {since : Instant} {r : Except Fault Credential} (ho : w.IsOrderly)
    (hm : w.finishes? m = none) (hp : w.point? op = some (.renewing g since))
    (hr : Renews w op g r w') : Shift w m w' := by
  have hop : op ∉ w.lock := ho.not_mem_lock fun p hp' => by cases hp.symm.trans hp'; rfl
  have hfrom : w.point? op = none → w.nextOperation ≤ op := fun hn => by cases hp.symm.trans hn
  have htold : ∀ f, Alike w (w.told g f) := fun _ =>
    .same rfl (Nat.le_refl _) rfl rfl rfl
  cases hr with
  | discarded _ => exact .finish (.same rfl (Nat.le_refl _) rfl rfl rfl) hm hop hfrom id _
  | superseded _ _ =>
    have hq : Alike w w.granted.minted := .same rfl (Nat.le_refl _) rfl rfl rfl
    exact .finish hq hm hop hfrom id _
  | @brief c _ _ _ =>
    have hq : Alike w (((w.granted.minted.install none).cancelTask).publish
        (.loginTokenExpired ⟨w.nextGrant, c⟩)) := .same rfl (Nat.le_refl _) rfl rfl rfl
    exact .finish hq hm hop hfrom (fun _ => rfl) _
  | @renewed c _ hc _ =>
    have hq : Alike w (w.granted.installs c .renewed) :=
      (Alike.same rfl (Nat.le_refl _) rfl rfl rfl : Alike w w.granted).installs c .renewed
    refine .finish hq hm hop hfrom (fun hn => ?_) _
    rw [isCurrent, hn] at hc
    cases hc
  | @retried f _ _ _ =>
    have hq : Alike w (w.retries g f) :=
      .same (operations_retries ..) (Nat.le_of_eq (nextOperation_retries ..).symm) (lock_retries ..)
        (loginsDone_retries ..) (lastFault_retries ..)
    exact .finish hq hm hop hfrom (fun hn => (current_retries ..).trans hn) _
  | @tooLate f _ _ _ _ hl =>
    obtain ⟨t, n, he⟩ := (w.told g f).snd_renewalDelay g.credential
    rw [he] at hl
    exact shift_loses (u := { w.told g f with trigger := t, drawn := n })
      (.same rfl (Nat.le_refl _) rfl rfl rfl) rfl rfl hm hop hp hl
  | failed _ _ hl => exact shift_loses (htold _) rfl rfl hm hop hp hl

/-- Every turn is a shift. -/
theorem shift_of_turn (ho : w.IsOrderly) (ht : Turn w m w') : Shift w m w' := by
  have hnew : Alike w w.enrolled := .same rfl (Nat.le_succ _) rfl rfl rfl
  have hop := ho.next_not_mem
  have hfrom : w.point? w.nextOperation = none → w.nextOperation ≤ w.nextOperation :=
    fun _ => Nat.le_refl _
  have hfire : ∀ {t s}, w.Fires m t s → w.finishes? m = none := fun hf => by cases hf <;> rfl
  cases ht with
  | token _ ha =>
    exact shift_acquires hnew rfl rfl hop hfrom id (fun hu g hg => by cases hu.symm.trans hg) ha
  | revoke _ hk => exact shift_takes hnew rfl hop hfrom hk
  | destroyAgain _ _ => exact .finish hnew rfl hop hfrom id _
  | destroy _ _ hk =>
    exact shift_takes (u := { w.enrolled with destroyed := true })
      (.same rfl (Nat.le_succ _) rfl rfl rfl) rfl hop hfrom hk
  | orphan hf _ => exact .still ho (.same rfl (Nat.le_refl _) rfl rfl rfl) (hfire hf) rfl
  | @stale _ t s hf _ _ =>
    have hq : Alike w ({ w with schedule := s } : World).enrolled :=
      .same rfl (Nat.le_succ _) rfl rfl rfl
    exact .finish hq (hfire hf) hop hfrom id _
  | @renew _ t s g hf _ _ _ _ =>
    have hq : Alike w ({ w with schedule := s } : World).enrolled :=
      .same rfl (Nat.le_succ _) rfl rfl rfl
    exact .call hq (hfire hf) hop hfrom id _ rfl
  | @expire _ t s g hf _ _ _ _ =>
    have hq : Alike w (((({ w with schedule := s } : World).enrolled).install none).publish
        (.loginTokenExpired g)) := .same rfl (Nat.le_succ _) rfl rfl rfl
    exact .finish hq (hfire hf) hop hfrom (fun _ => rfl) _
  | enter hl hp he => exact shift_enters hl hp he
  | @loginFailed op purpose since f hp =>
    have hq : Alike w ((w.timed false since).publish (.failed f none)) :=
      .same rfl (Nat.le_refl _) rfl rfl rfl
    exact shift_endLogin hq (by simp only [finishes?, hp]) hp rfl rfl fun _ _ => ho.bare _ _ hp rfl
  | @looksUp op purpose since c hp hl =>
    have hq : Alike w (w.timed true since) := .same rfl (Nat.le_refl _) rfl rfl rfl
    refine .continues (hq.call ..).1 ⟨?_, rfl, rfl⟩ rfl hp rfl (hq.call ..).2 rfl (by simp)
    simp only [finishes?, hp, hl, if_true]
  | @welcome op purpose since c _ hp hl hw =>
    have hq : Alike w (w.timed true since) := .same rfl (Nat.le_refl _) rfl rfl rfl
    refine shift_welcomes hq rfl rfl ?_ hp rfl rfl (ho.bare _ _ hp rfl) hw
    simp only [finishes?, hp, hl, Bool.false_eq_true, if_false]
  | lookedUp hp hw | notLookedUp hp hw =>
    exact shift_welcomes (.same rfl (Nat.le_refl _) rfl rfl rfl) rfl rfl (by simp only [finishes?, hp]) hp
      rfl rfl (ho.bare _ _ hp rfl) hw
  | @discarded op purpose g r hp =>
    refine shift_endLogin (.tellRevocation ..) (by simp only [finishes?, hp]) hp rfl rfl fun _ _ => ?_
    cases r <;> exact ho.bare _ _ hp rfl
  | renewed hp hr => exact shift_renews ho (by simp only [finishes?, hp]) hp hr
  | @revoked op g r hp =>
    have hop : op ∉ w.lock := ho.not_mem_lock fun p hp' => by cases hp.symm.trans hp'; rfl
    refine .finish (.tellRevocation ..) (by simp only [finishes?, hp]) hop
      (fun hn => by cases hp.symm.trans hn) ?_ _
    cases r <;> exact id
  | @abandon op p hp =>
    obtain ⟨hb, hn⟩ := beside_abandon w op
    exact .abandoned hb ⟨rfl, loginsDone_reap _, lastFault_reap _⟩ (lock_reap _) hp hn (current_reap _)
  | release => exact .still ho (.release w) rfl (current_reap _)
  | elapse | stop | listen | unlisten =>
    exact .still ho (.same rfl (Nat.le_refl _) rfl rfl rfl) rfl rfl

end World

end LeaseKeeper.Session
