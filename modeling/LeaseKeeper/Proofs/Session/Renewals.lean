import LeaseKeeper.Proofs.Session.Fates

/-!
# One renewal at a time

Renewals of an old and a new grant may overlap, and a renewal that failed on the way schedules the
next one from inside. So the renewals of each grant are counted apart: the tasks that can still
start (`World.awaited`) and the calls to the server (`World.underWay`). `Pursuit` and `Course` sort the
steps by what they do to these. Most steps only lower the counts (`Eases`); a grant that has just
arrived gets a task; a failed renewal makes room for a task of its own grant; and a task that starts
turns into a call, for the installed grant. From that, the counts of a grant never exceed one together
(`Sparing`, `sparing_turn`), and what is renewed is installed and worth it
(`renewed_one_at_a_time`).
-/

namespace LeaseKeeper

namespace Session

/-- The number of the grant that a job renews. -/
def Job.renews? : Job → Option Nat
  | .renew g => some g.serial
  | .expire _ => none

/-- The number of the grant whose renewal is with the server at a point. -/
def Point.renews? : Point → Option Nat
  | .renewing g _ => some g.serial
  | _ => none

/-- The grant whose renewal the server is asked for, if that is what happens. -/
def Happening.renewal? : Happening → Option Grant
  | .called _ (.renew g) => some g
  | _ => none

namespace World

/-- How many tasks that can still start renew the grant of that number. -/
def awaited (w : World) (n : Nat) : Nat := w.schedule.live.countP fun t => t.job.renews? == some n

/-- How many renewals of the grant of that number are with the server. -/
def underWay (w : World) (n : Nat) : Nat := w.operations.countP fun x => x.2.renews? == some n

/-- The grants whose renewal the server was asked for, latest first. -/
def renewals (w : World) : List Grant := w.history.filterMap Happening.renewal?

/-- The grant can be renewed, and was granted for longer than the threshold. -/
def Deserves (w : World) (g : Grant) : Prop :=
  g.credential.wantsRenewal = true ∧ w.trigger.thresholdFor g.credential.ttl < g.credential.ttl

variable {w u v w' : World} {m : Move} {op : Nat}

/-! ## Parts of a step -/

/-- On the way from `w` to `u` no task and no renewal has been added. -/
structure Eases (w u : World) : Prop where
  live : u.schedule.live.Sublist w.schedule.live
  underWay : ∀ n, u.underWay n ≤ w.underWay n
  threshold : u.trigger.thresholdFor = w.trigger.thresholdFor
  next : w.nextGrant ≤ u.nextGrant
  renewals : u.renewals = w.renewals

namespace Eases

theorem refl (w : World) : Eases w w :=
  ⟨List.Sublist.refl _, fun _ => Nat.le_refl _, rfl, Nat.le_refl _, rfl⟩

theorem trans (h : Eases w u) (k : Eases u v) : Eases w v :=
  ⟨k.live.trans h.live, fun n => Nat.le_trans (k.underWay n) (h.underWay n),
    k.threshold.trans h.threshold, Nat.le_trans h.next k.next, k.renewals.trans h.renewals⟩

/-- A change that leaves tasks, operations, trigger and history alone. -/
theorem same (hs : u.schedule = w.schedule) (ho : u.operations = w.operations)
    (ht : u.trigger = w.trigger) (hn : w.nextGrant ≤ u.nextGrant) (hh : u.history = w.history) :
    Eases w u where
  live := by rw [hs]
  underWay n := Nat.le_of_eq (by rw [World.underWay, ho, World.underWay])
  threshold := by rw [ht]
  next := hn
  renewals := by rw [World.renewals, hh, ← World.renewals]

theorem cancelTask (h : Eases w u) : Eases w u.cancelTask where
  live := by
    show (u.schedule.cancel? u.slot).live.Sublist _
    rw [Schedule.live_cancel?]
    exact List.filter_sublist.trans h.live
  underWay := h.underWay
  threshold := h.threshold
  next := h.next
  renewals := h.renewals

theorem install (h : Eases w u) (g : Option Grant) : Eases w (u.install g) :=
  h.trans (.same rfl rfl rfl (Nat.le_refl _) rfl)

theorem publish (h : Eases w u) (e : SessionEvent) : Eases w (u.publish e) :=
  ⟨h.live, h.underWay, h.threshold, h.next, h.renewals⟩

theorem reap (h : Eases w u) : Eases w u.reap := by
  unfold World.reap
  split
  · exact h
  · exact h.cancelTask

/-- An operation is struck out. -/
theorem strike (h : Eases w u) (op : Nat) :
    Eases w { u with operations := u.operations.filter (·.1 != op) } where
  live := h.live
  underWay n := Nat.le_trans (List.filter_sublist.countP_le) (h.underWay n)
  threshold := h.threshold
  next := h.next
  renewals := h.renewals

theorem finish (h : Eases w u) (op : Nat) (o : Outcome) : Eases w (u.finish op o) := by
  have hk := h.strike op
  exact reap ⟨hk.live, hk.underWay, hk.threshold, hk.next, hk.renewals⟩

theorem endLogin (h : Eases w u) (op : Nat) (purpose : Purpose) (r : Except Fault Grant) :
    Eases w (u.endLogin op purpose r) := by
  rw [endLogin_eq]
  refine .finish (h.trans ?_) _ _
  exact .same rfl rfl rfl (Nat.le_refl _) rfl

/-- An operation goes to a point where it renews nothing. -/
theorem setPoint (h : Eases w u) (op : Nat) {p : Point} (hp : p.renews? = none) :
    Eases w (u.setPoint op p) where
  live := h.live
  underWay n := by
    show ((op, p) :: u.operations.filter (·.1 != op)).countP _ ≤ _
    rw [List.countP_cons_of_neg (by simp [hp])]
    exact (h.strike op).underWay n
  threshold := h.threshold
  next := h.next
  renewals := h.renewals

/-- The server is asked for something else than a renewal. -/
theorem call (h : Eases w u) (op : Nat) {c : Call} {p : Point} (hp : p.renews? = none)
    (hc : Happening.renewal? (.called op c) = none) : Eases w (u.call op c p) := by
  have hk := h.setPoint op hp
  refine ⟨hk.live, hk.underWay, hk.threshold, hk.next, ?_⟩
  show List.filterMap _ (.called op c :: u.history) = _
  rw [List.filterMap_cons_none hc]
  exact h.renewals

theorem dropExpired (h : Eases w u) : Eases w u.dropExpired := by
  obtain he | ⟨g, -, -, he⟩ := u.dropExpired_eq <;> rw [he]
  · exact h
  · exact ((h.install none).cancelTask).publish _

theorem renewalDelay (h : Eases w u) (c : Credential) : Eases w (u.renewalDelay c).2 := by
  unfold World.renewalDelay
  split
  · exact h
  · refine h.trans ⟨List.Sublist.refl _, fun _ => Nat.le_refl _, ?_, Nat.le_refl _, rfl⟩
    exact Trigger.thresholdFor_next ..

theorem tellRevocation (w : World) (g : Grant) (r : Except Fault Unit) :
    Eases w (w.tellRevocation g r) := by
  cases r <;> exact (refl w).publish _

theorem stop (w : World) : Eases w w.stop := by
  refine ⟨?_, fun _ => Nat.le_refl _, rfl, Nat.le_refl _, rfl⟩
  show w.schedule.stop.live.Sublist _
  rcases w.schedule.stop_cases with h | h
  · rw [h]
  · rw [h, Schedule.live_of_stopped rfl]
    exact List.nil_sublist _

/-- A task has been started. -/
theorem starts {t : Task Job} {s : Schedule Job} (hb : Booked w.schedule w.slot) (hf : w.Fires m t s) :
    Eases w { w with schedule := s } :=
  ⟨by rw [(hf.starts hb.numbered).live]; exact List.filter_sublist, fun _ => Nat.le_refl _, rfl,
    Nat.le_refl _, rfl⟩

end Eases

/-- On the way from `w` to `u` no renewal has been added, and no task but one that looks after `g`,
which then is the only one. It renews `g` only if that deserves it. -/
structure Books (g : Grant) (w u : World) : Prop where
  live : u.schedule.live.Sublist w.schedule.live ∨ ∃ t, u.schedule.live = [t] ∧
    ∀ h, t.job = .renew h → h = g ∧ w.Deserves g
  underWay : ∀ n, u.underWay n ≤ w.underWay n
  threshold : u.trigger.thresholdFor = w.trigger.thresholdFor
  next : w.nextGrant ≤ u.nextGrant
  renewals : u.renewals = w.renewals

namespace Books

variable {g : Grant}

theorem deserves_iff (h : u.trigger.thresholdFor = w.trigger.thresholdFor) : u.Deserves g ↔ w.Deserves g := by
  rw [Deserves, h, Deserves]

theorem of_eases (h : Eases w u) : Books g w u :=
  ⟨.inl h.live, h.underWay, h.threshold, h.next, h.renewals⟩

theorem after (h : Eases w u) (k : Books g u v) : Books g w v where
  live := by
    rcases k.live with hl | ⟨t, hl, ht⟩
    · exact .inl (hl.trans h.live)
    · exact .inr ⟨t, hl, fun i hi => ⟨(ht i hi).1, (deserves_iff h.threshold).mp (ht i hi).2⟩⟩
  underWay n := Nat.le_trans (k.underWay n) (h.underWay n)
  threshold := k.threshold.trans h.threshold
  next := Nat.le_trans h.next k.next
  renewals := k.renewals.trans h.renewals

theorem eases (h : Books g w u) (k : Eases u v) : Books g w v where
  live := by
    rcases h.live with hl | ⟨t, hl, ht⟩
    · exact .inl (k.live.trans hl)
    · rcases List.sublist_singleton.mp (hl ▸ k.live) with hv | hv
      · exact .inl (hv ▸ List.nil_sublist _)
      · exact .inr ⟨t, hv, ht⟩
  underWay n := Nat.le_trans (k.underWay n) (h.underWay n)
  threshold := k.threshold.trans h.threshold
  next := Nat.le_trans h.next k.next
  renewals := k.renewals.trans h.renewals

theorem replaceTask (hb : Booked w.schedule w.slot) (delay : Span) {job : Job}
    (hj : ∀ h, job = .renew h → h = g ∧ w.Deserves g) : Books g w (w.replaceTask delay job) where
  live := by
    cases hr : w.schedule.stopped with
    | false => exact .inr ⟨_, (booked_replaceTask hb delay job).2 hr, hj⟩
    | true =>
      have hs : (w.replaceTask delay job).schedule.stopped = true := (Schedule.stopped_cancel? ..).trans hr
      rw [Schedule.live_of_stopped hs]
      exact .inl (List.nil_sublist _)
  underWay _ := Nat.le_refl _
  threshold := rfl
  next := Nat.le_refl _
  renewals := rfl

/-- Only what deserves it is scheduled to be renewed. -/
theorem scheduleRenewal (hb : Booked w.schedule w.slot) (g : Grant) :
    Books g w (w.scheduleRenewal g) := by
  have he := (Eases.refl w).renewalDelay g.credential
  have hd := fst_renewalDelay w g.credential
  obtain ⟨t, n, hu⟩ := w.snd_renewalDelay g.credential
  unfold World.scheduleRenewal
  split
  · exact of_eases (.refl w)
  split
  · exact replaceTask hb _ nofun
  cases hc : w.renewalDelay g.credential with
  | mk delay? u =>
    rw [hc] at he hd hu
    cases delay? with
    | none => exact of_eases he
    | some delay =>
      refine after he (replaceTask ?_ delay fun h hh => ⟨(Job.renew.inj hh).symm, ?_⟩)
      · subst hu
        exact hb
      · rw [deserves_iff he.threshold]
        -- There is a delay only for what wants to be renewed and is above the threshold.
        by_cases hn : (!g.credential.wantsRenewal || w.isBelowThreshold g.credential) = true
        · rw [if_pos hn] at hd
          cases hd
        · simp only [Bool.or_eq_true, Bool.not_eq_true', not_or, Bool.not_eq_false,
            Bool.not_eq_true] at hn
          refine ⟨hn.1, ?_⟩
          have hz : g.credential.ttl.isZero = false := by
            have := hn.1
            simp only [Credential.wantsRenewal, Bool.and_eq_true, Bool.not_eq_true'] at this
            exact this.2
          have hb := hn.2
          simp only [isBelowThreshold, hz, Bool.not_false, Bool.true_and, decide_eq_false_iff_not] at hb
          exact Nat.lt_of_not_le hb

/-- The grant that a credential becomes when it is installed. -/
theorem installs (h : Eases w u) (hb : Booked u.schedule u.slot) (c : Credential)
    (e : Grant → SessionEvent) : Books ⟨u.nextGrant, c⟩ w (u.installs c e) := by
  have hm : Eases w u.minted := h.trans (.same rfl rfl rfl (Nat.le_succ _) rfl)
  refine after ((hm.install (some ⟨u.nextGrant, c⟩)).publish (e ⟨u.nextGrant, c⟩)) ?_
  refine scheduleRenewal ?_ _
  exact hb

theorem retries (hb : Booked w.schedule w.slot) (g : Grant) (f : Fault) :
    Books g w (w.retries g f) := by
  have ht : Eases w (w.told g f) := by
    refine .publish ?_ _
    exact .same rfl rfl rfl (Nat.le_refl _) rfl
  refine after (ht.renewalDelay g.credential) (scheduleRenewal ?_ g)
  obtain ⟨_, _, he⟩ := (w.told g f).snd_renewalDelay g.credential
  rw [he]
  exact hb

end Books

/-! ## What a step does to renewals -/

/-- What a step does to the tasks and the renewals under way, and what is left behind where a renewal
begins or is to be tried again. -/
inductive Pursuit (w : World) (m : Move) (w' : World) : Prop
  /-- None is added. -/
  | eases : Eases w w' → Pursuit w m w'
  /-- A grant that has just arrived may get a task. -/
  | arrives {g : Grant} : Books g w w' → w.nextGrant ≤ g.serial → g.serial < w'.nextGrant →
    Pursuit w m w'
  /-- A renewal that failed is scheduled again. -/
  | retries {op : Nat} {g : Grant} {since : Instant} {f : Fault} :
    w.point? op = some (.renewing g since) → w.destroyed = false →
    isInTime (g.credential.remaining w.now) (w.renewalDelay g.credential).1 = true →
    w' = (w.retries g f).finish op .finished → Pursuit w m w'
  /-- A task turns into a renewal of the installed grant. -/
  | begins {t : Task Job} {s : Schedule Job} {g : Grant} : w.Fires m t s → t.job = .renew g →
    w.isCurrent g = true →
    w' = ({ w with schedule := s } : World).enrolled.call w.nextOperation (.renew g) (.renewing g w.now) →
    Pursuit w m w'

/-- What a step does to the tasks and the renewals under way. -/
inductive Course (w w' : World) : Prop
  /-- None is added. -/
  | eases : Eases w w' → Course w w'
  /-- A grant that has just arrived may get a task. -/
  | arrives {g : Grant} : Books g w w' → w.nextGrant ≤ g.serial → g.serial < w'.nextGrant → Course w w'
  /-- A renewal that failed may be scheduled again. -/
  | retries {op : Nat} {g : Grant} {since : Instant} : w.point? op = some (.renewing g since) →
    Books g w w' → (∀ n, w'.underWay n + [g.serial].count n ≤ w.underWay n) → Course w w'
  /-- A task turns into a renewal of the installed grant. -/
  | begins {t : Task Job} {g : Grant} : t ∈ w.schedule.live → t.job = .renew g → w.isCurrent g = true →
    w'.current = w.current → w'.schedule.live = [] →
    (∀ n, w'.underWay n ≤ w.underWay n + [g.serial].count n) →
    w'.trigger.thresholdFor = w.trigger.thresholdFor → w'.nextGrant = w.nextGrant →
    w'.renewals = g :: w.renewals → Course w w'

namespace Pursuit

theorem of_acquires {purpose : Purpose} (h : Eases w u) (ha : Acquires u op purpose v) : Eases w v := by
  cases ha with
  | shut | found => exact h.finish _ _
  | starts _ _ _ =>
    refine .call (.dropExpired (h.trans ?_)) _ rfl rfl
    exact .same rfl rfl rfl (Nat.le_refl _) rfl
  | waits _ _ _ =>
    refine .setPoint (h.trans ?_) _ rfl
    exact .same rfl rfl rfl (Nat.le_refl _) rfl

theorem of_enters {observed : Nat} {purpose : Purpose} (he : Enters w op observed purpose v) :
    Eases w v := by
  have h : Eases w (w.unlock op) := .same rfl rfl rfl (Nat.le_refl _) rfl
  cases he with
  | shut | found | shared => exact h.finish _ _
  | starts _ _ _ => exact ((Eases.refl w).dropExpired).call _ rfl rfl

theorem of_takes (h : Eases w u) (ht : Takes u op v) : Eases w v := by
  cases ht with
  | quiet _ => exact (h.cancelTask.install _).finish _ _
  | sends _ _ => exact (h.cancelTask.install _).call _ rfl rfl

theorem of_loses {g : Grant} (h : Eases w u) (hl : Loses u op g v) : Eases w v := by
  cases hl with
  | superseded _ => exact h.finish _ _
  | again _ _ ha => exact of_acquires (h.install _).cancelTask ha
  | ended _ _ => exact ((h.install _).cancelTask.publish _).finish _ _

theorem of_welcomes {purpose : Purpose} {c : Credential} (h : Eases w u)
    (hb : Booked u.schedule u.slot) (hw : Welcomes u op purpose c v) : Pursuit w m v := by
  have hm : Eases w u.minted := h.trans (.same rfl rfl rfl (Nat.le_succ _) rfl)
  cases hw with
  | late _ _ => exact .eases (hm.call _ rfl rfl)
  | dropped _ _ => exact .eases (hm.endLogin _ _ _)
  | installed _ =>
    have he := (Eases.refl (u.installs c .created)).endLogin op purpose (.ok ⟨u.nextGrant, c⟩)
    exact .arrives ((Books.installs h hb c .created).eases he) h.next
      (Nat.lt_of_lt_of_le (by rw [nextGrant_installs]; exact Nat.lt_succ_self _) he.next)

theorem of_renews {g : Grant} {since : Instant} {r : Except Fault Credential}
    (hb : Booked w.schedule w.slot) (hp : w.point? op = some (.renewing g since))
    (hr : Renews w op g r v) : Pursuit w m v := by
  have hm : Eases w w.granted.minted := .same rfl rfl rfl (Nat.le_succ _) rfl
  have ht : ∀ f, Eases w (w.told g f) := fun f => by
    refine .publish ?_ _
    exact .same rfl rfl rfl (Nat.le_refl _) rfl
  cases hr with
  | discarded _ => exact .eases ((Eases.refl w).finish _ _)
  | superseded _ _ => exact .eases (hm.finish _ _)
  | brief _ _ _ => exact .eases (((hm.install _).cancelTask.publish _).finish _ _)
  | @renewed c _ _ _ =>
    have hg : Eases w w.granted := .same rfl rfl rfl (Nat.le_refl _) rfl
    have he := (Eases.refl (w.granted.installs c .renewed)).finish op .finished
    refine .arrives ((Books.installs hg hb c .renewed).eases he) (Nat.le_refl _)
      (Nat.lt_of_lt_of_le ?_ he.next)
    rw [nextGrant_installs]
    exact Nat.lt_succ_self _
  | retried hd _ hi => exact .retries hp hd hi rfl
  | tooLate _ _ _ hl => exact .eases (of_loses ((ht _).renewalDelay _) hl)
  | failed _ _ hl => exact .eases (of_loses (ht _) hl)

theorem of_turn (hb : Booked w.schedule w.slot) (ht : Turn w m v) : Pursuit w m v := by
  have hn : Eases w w.enrolled := .same rfl rfl rfl (Nat.le_refl _) rfl
  cases ht with
  | token _ ha => exact .eases (of_acquires hn ha)
  | revoke _ hk => exact .eases (of_takes hn hk)
  | destroyAgain _ _ => exact .eases (hn.finish _ _)
  | destroy _ _ hk =>
    have hd : Eases w { w.enrolled with destroyed := true } := .same rfl rfl rfl (Nat.le_refl _) rfl
    exact .eases (of_takes hd hk)
  | orphan hf _ => exact .eases (.starts hb hf)
  | stale hf _ _ =>
    refine .eases (.finish ((Eases.starts hb hf).trans ?_) _ _)
    exact .same rfl rfl rfl (Nat.le_refl _) rfl
  | renew hf _ hj _ hc => exact .begins hf hj hc rfl
  | expire hf _ _ _ _ =>
    refine .eases (.finish (.publish ((Eases.starts hb hf).trans ?_) _) _ _)
    exact .same rfl rfl rfl (Nat.le_refl _) rfl
  | enter _ _ he => exact .eases (of_enters he)
  | @loginFailed _ _ since f _ =>
    have h : Eases w (w.timed false since) := .same rfl rfl rfl (Nat.le_refl _) rfl
    exact .eases ((h.publish _).endLogin _ _ _)
  | @looksUp _ _ since _ _ _ =>
    have h : Eases w (w.timed true since) := .same rfl rfl rfl (Nat.le_refl _) rfl
    exact .eases (h.call _ rfl rfl)
  | @welcome _ _ since _ _ _ _ hw =>
    have h : Eases w (w.timed true since) := .same rfl rfl rfl (Nat.le_refl _) rfl
    exact of_welcomes h hb hw
  | lookedUp _ hw | notLookedUp _ hw => exact of_welcomes (.refl w) hb hw
  | discarded _ => exact .eases ((Eases.tellRevocation ..).endLogin _ _ _)
  | renewed hp hr => exact of_renews hb hp hr
  | revoked _ => exact .eases ((Eases.tellRevocation ..).finish _ _)
  | @abandon op _ _ =>
    have h : Eases w (w.unlock op) := .same rfl rfl rfl (Nat.le_refl _) rfl
    exact .eases (h.strike op).reap
  | elapse _ _ => exact .eases (.same rfl rfl rfl (Nat.le_refl _) rfl)
  | release =>
    refine .eases (.reap ?_)
    exact .same rfl rfl rfl (Nat.le_refl _) rfl
  | stop => exact .eases (.stop w)
  | listen | unlisten => exact .eases (.same rfl rfl rfl (Nat.le_refl _) rfl)

end Pursuit

/-- Every turn takes one of these courses. -/
theorem Course.of_turn (hb : Booked w.schedule w.slot) (ht : Turn w m v) : Course w v := by
  cases Pursuit.of_turn hb ht with
  | eases he => exact .eases he
  | arrives hk hge hlt => exact .arrives hk hge hlt
  | @retries op g _ f hp _ _ he =>
    subst he
    refine .retries hp ((Books.retries hb g f).eases ((Eases.refl _).finish _ _)) fun n => ?_
    have hk := countP_filter_add_le Point.renews? n hp
    rw [World.underWay, operations_finish, operations_retries]
    exact hk
  | @begins t s g hf hj hc he =>
    subst he
    have hs := hf.starts hb.numbered
    refine .begins hs.mem hj hc rfl (hb.starts hs).2 (fun n => ?_) rfl rfl rfl
    show ((_, Point.renewing g w.now) :: w.operations.filter _).countP _ ≤ _
    rw [List.countP_cons]
    refine Nat.add_le_add List.filter_sublist.countP_le ?_
    by_cases hg : g.serial = n <;> simp [Point.renews?, hg]

/-! ## The invariant -/

/-- There is at most one renewal of each grant, scheduled or under way, and none of a grant that is
yet to come; what is scheduled to be renewed deserves it. -/
structure Sparing (w : World) : Prop where
  one : ∀ n, w.awaited n + w.underWay n ≤ 1
  fresh : ∀ n, w.nextGrant ≤ n → w.awaited n + w.underWay n = 0
  deserves : ∀ t ∈ w.schedule.live, ∀ g, t.job = .renew g → w.Deserves g

/-- A task that may renew one grant only counts for that one. -/
theorem countP_job_le {t : Task Job} {g : Grant} (h : ∀ i, t.job = .renew i → i = g) (n : Nat) :
    [t].countP (fun u => u.job.renews? == some n) ≤ [g.serial].count n := by
  cases hj : t.job with
  | expire i => simp [hj, Job.renews?]
  | renew i =>
    obtain rfl := h i hj
    by_cases hn : i.serial = n <;> simp [hj, Job.renews?, hn]

theorem Books.awaited_le {g : Grant} (h : Books g w u) (n : Nat) :
    u.awaited n ≤ w.awaited n ∨ u.awaited n ≤ [g.serial].count n := by
  rcases h.live with hl | ⟨t, hl, ht⟩
  · exact .inl hl.countP_le
  · rw [World.awaited, hl]
    exact .inr (countP_job_le (fun i hi => (ht i hi).1) n)

theorem Books.deserves {g : Grant} (h : Books g w u) (hw : w.Sparing) :
    ∀ t ∈ u.schedule.live, ∀ i, t.job = .renew i → u.Deserves i := by
  intro t ht i hi
  rw [Books.deserves_iff h.threshold]
  rcases h.live with hl | ⟨s, hl, hs⟩
  · exact hw.deserves t (hl.subset ht) i hi
  · rw [hl, List.mem_singleton] at ht
    obtain ⟨rfl, hd⟩ := hs i (ht ▸ hi)
    exact hd

/-- What only lowers the counts keeps to it. -/
theorem Sparing.of_le (h : w.Sparing)
    (hle : ∀ n, u.awaited n + u.underWay n ≤ w.awaited n + w.underWay n) (hn : w.nextGrant ≤ u.nextGrant)
    (hd : ∀ t ∈ u.schedule.live, ∀ g, t.job = .renew g → u.Deserves g) : u.Sparing :=
  ⟨fun n => Nat.le_trans (hle n) (h.one n), fun n hge =>
    Nat.le_zero.mp (h.fresh n (Nat.le_trans hn hge) ▸ hle n), hd⟩

/-- A grant that has just arrived has neither a task nor a renewal yet. -/
theorem Sparing.of_arrival {g : Grant} (h : w.Sparing) (hk : Books g w u) (hge : w.nextGrant ≤ g.serial)
    (hlt : g.serial < u.nextGrant) : u.Sparing := by
  have hcount : ∀ n, n ≠ g.serial → u.awaited n + u.underWay n ≤ w.awaited n + w.underWay n :=
    fun n hn => by
      have hu := hk.underWay n
      rcases hk.awaited_le n with ha | ha
      · omega
      · rw [List.count_eq_zero.mpr (by simpa using hn)] at ha
        omega
  refine ⟨fun n => ?_, fun n hn => ?_, hk.deserves h⟩
  · by_cases hg : n = g.serial
    · have hu := hk.underWay n
      have hf := h.fresh n (hg ▸ hge)
      rcases hk.awaited_le n with ha | ha
      · omega
      · rw [hg, List.count_singleton_self] at ha
        rw [hg] at hu hf ⊢
        omega
    · exact Nat.le_trans (hcount n hg) (h.one n)
  · have hg : n ≠ g.serial := fun e => Nat.lt_irrefl _ (Nat.lt_of_lt_of_le hlt (e ▸ hn))
    exact Nat.le_zero.mp (h.fresh n (Nat.le_trans hk.next hn) ▸ hcount n hg)

theorem sparing_turn (h : w.Sparing) (hb : Booked w.schedule w.slot) (ht : Turn w m w') :
    w'.Sparing := by
  cases Course.of_turn hb ht with
  | eases he =>
    exact h.of_le (fun n => Nat.add_le_add he.live.countP_le (he.underWay n)) he.next fun t ht g hg =>
      (Books.deserves_iff he.threshold).mpr (h.deserves t (he.live.subset ht) g hg)
  | arrives hk hge hlt => exact h.of_arrival hk hge hlt
  | retries hp hk hu =>
    refine h.of_le (fun n => ?_) hk.next (hk.deserves h)
    have := hu n
    rcases hk.awaited_le n with ha | ha <;> omega
  | @begins t g hmem hj _ _ hl hu _ hn _ =>
    refine h.of_le (fun n => ?_) (Nat.le_of_eq hn.symm) (by simp [hl])
    have ha : w.awaited n = [g.serial].count n := by
      rw [World.awaited, hb.live_eq hmem]
      by_cases hg : g.serial = n <;> simp [hj, Job.renews?, hg]
    have := hu n
    rw [World.awaited, hl, List.countP_nil, ha]
    omega

/-- The server is asked for a renewal only if a task for it has been live, and for the installed
grant. -/
theorem Sparing.asks (h : w.Sparing) (hb : Booked w.schedule w.slot) (hd : w.Distinct)
    (ht : Turn w m w') : w'.renewals = w.renewals ∨ ∃ g, w'.renewals = g :: w.renewals ∧
      w.current = some g ∧ w'.current = some g ∧ w.Deserves g := by
  cases Course.of_turn hb ht with
  | eases he => exact .inl he.renewals
  | arrives hk _ _ => exact .inl hk.renewals
  | retries _ hk _ => exact .inl hk.renewals
  | @begins t g hmem hj hc hcur _ _ _ _ hr =>
    have hheld : w.Holds g := .inr (.inr ⟨t, (Schedule.mem_live.mp hmem).1, by rw [hj]; rfl⟩)
    have hg := hd.installed hheld hc
    exact .inr ⟨g, hr, hg, hcur.trans hg, h.deserves t hmem g hj⟩

end World

/-! ## Over a run -/

open World

section run

variable {settings : Settings} {d : Discipline} {draws : Nat → Nat} {ms : List Move} {v v' : World}
  {m : Move}

theorem threshold_turn {w : World} (hb : Booked w.schedule w.slot) (ht : Turn w m v) :
    v.trigger.thresholdFor = w.trigger.thresholdFor := by
  cases Course.of_turn hb ht with
  | eases he => exact he.threshold
  | arrives hk _ _ => exact hk.threshold
  | retries _ hk _ => exact hk.threshold
  | begins _ _ _ _ _ _ hth _ _ => exact hth

/-- What holds wherever a run passes. -/
theorem Visits.sparing (h : Visits (World.initial settings d draws) ms v) :
    v.Sparing ∧ Booked v.schedule v.slot ∧ v.Distinct ∧
      v.trigger.thresholdFor = settings.trigger.thresholdFor := by
  refine h.keeps (P := fun v => v.Sparing ∧ Booked v.schedule v.slot ∧ v.Distinct ∧
      v.trigger.thresholdFor = settings.trigger.thresholdFor) ⟨?_, booked_empty d, ?_, rfl⟩ ?_
  · exact ⟨fun _ => Nat.zero_le _, fun _ _ => rfl, nofun⟩
  · exact ⟨by simp [Holds, Renewing, point?, World.initial, Schedule.empty],
      by simp [Holds, Renewing, point?, World.initial, Schedule.empty]⟩
  · intro w k u hp hw
    have ht := turn_of_step hp.step
    exact ⟨sparing_turn hw.1 hw.2.1 ht, (Onward.of_turn ht).booked hw.2.1, distinct_turn hw.2.2.1 ht,
      (threshold_turn hw.2.1 ht).trans hw.2.2.2⟩

end run

/-- Whatever is asked of a session and whenever it is answered: at most one of its tasks can still
start; a number stands for one grant, and of each there is at most one renewal, scheduled or under
way; and the server is asked for a renewal only with the grant that is installed just then, which
can be renewed, expires, and was granted for longer than the threshold. -/
theorem renewed_one_at_a_time (settings : Settings) (d : Discipline) (draws : Nat → Nat)
    (ms : List Move) :
    (∀ v, Visits (World.initial settings d draws) ms v →
      v.schedule.live.length ≤ 1 ∧
        (∀ g h, v.Holds g → v.Holds h → g.serial = h.serial → g = h) ∧
          ∀ n, v.awaited n + v.underWay n ≤ 1) ∧
    ∀ v m v', Passes (World.initial settings d draws) ms v m v' →
      v'.renewals = v.renewals ∨ ∃ g, v'.renewals = g :: v.renewals ∧ v.current = some g ∧
        v'.current = some g ∧ g.credential.renewable = true ∧ g.credential.ttl ≠ Span.zero ∧
          settings.trigger.thresholdFor g.credential.ttl < g.credential.ttl := by
  refine ⟨fun v hv => ?_, fun v m v' hp => ?_⟩
  · obtain ⟨hs, hb, hd, -⟩ := hv.sparing
    refine ⟨?_, hd.inj, hs.one⟩
    cases hl : v.schedule.live with
    | nil => exact Nat.zero_le _
    | cons t ts => rw [← hl, hb.live_eq (hl ▸ List.mem_cons_self ..)]; exact Nat.le_refl _
  · obtain ⟨hs, hb, hd, hth⟩ := hp.visits.1.sparing
    rcases hs.asks hb hd (turn_of_step hp.step) with h | ⟨g, hg, hc, hc', hw, hlt⟩
    · exact .inl h
    · simp only [Credential.wantsRenewal, Bool.and_eq_true, Bool.not_eq_true'] at hw
      refine .inr ⟨g, hg, hc, hc', hw.1, fun hz => ?_, hth ▸ hlt⟩
      rw [hz] at hw
      cases hw.2

/-- While a renewal that outlives its grant is under way, the next grant has a task of its own; when
that renewal began, its grant was installed. -/
theorem renewed_one_at_a_time_overtaken :
    (∃ w, run? early (overtaken.take 6) = some w ∧ w.underWay 0 = 1 ∧ w.awaited 1 = 1 ∧
      w.schedule.live.length ≤ 1 ∧ ∀ n, w.awaited n + w.underWay n ≤ 1) ∧
    ∃ w w', run? early (overtaken.take 2) = some w ∧ step w .fireNext = some w' ∧
      w'.renewals.length = 1 ∧
      (w'.renewals = w.renewals ∨ ∃ g, w'.renewals = g :: w.renewals ∧ w.current = some g ∧
        w'.current = some g ∧ g.credential.renewable = true ∧ g.credential.ttl ≠ Span.zero ∧
          Span.ofSeconds 12 < g.credential.ttl) := by
  have hall := renewed_one_at_a_time
    ⟨.fixed ⟨.ofSeconds 10, minimalDelay, .ofSeconds 12, .zero⟩, false, true⟩ .manual (fun _ => 0) overtaken
  have hw : ∃ w, run? early (overtaken.take 6) = some w ∧ w.underWay 0 = 1 ∧ w.awaited 1 = 1 :=
    ⟨_, rfl, rfl, rfl⟩
  have hv : ∃ v v', run? early (overtaken.take 2) = some v ∧ step v .fireNext = some v' ∧
      v'.renewals.length = 1 := ⟨_, _, rfl, rfl, rfl⟩
  obtain ⟨w, hrun, hunder, hawaited⟩ := hw
  obtain ⟨v, v', hv, hs, hlen⟩ := hv
  obtain ⟨hone, -, hload⟩ := hall.1 w ⟨overtaken.take 6, List.take_prefix 6 overtaken, hrun⟩
  exact ⟨⟨w, hrun, hunder, hawaited, hone, hload⟩, v, v', hv, hs, hlen,
    hall.2 v _ v' ⟨overtaken.take 2, List.take_prefix 3 overtaken, hv, hs⟩⟩

end LeaseKeeper.Session
