import LeaseKeeper.Proofs.Retries.Tempo
import LeaseKeeper.Proofs.Session.Renewals

/-!
# Renewals that are tried again

A renewal of the installed grant that fails is tried again in the time that is left, or the grant is
dropped in the same step (`Settles`). Which of the two it is depends on the fault and on that time, not
on the jitter. Between two renewals of a grant lies a second at least, which was left of it when the
second one was decided on, so however often they fail, there are no more of them than seconds were left
at the first (`Paced`). That rests on the clock: it never goes back, and starts no task before it is due
(`pulse_of_turn`).
-/

namespace LeaseKeeper.Session

namespace World

variable {w u v w' : World} {m : Move} {op : Nat} {g : Grant} {f : Fault} {t : FixedTrigger}

/-! ## The clock -/

/-- What the clock shows, and who starts the tasks. -/
def pulse (w : World) : Instant × Discipline := (w.now, w.schedule.discipline)

theorem pulse_cancelTask (w : World) : w.cancelTask.pulse = w.pulse :=
  congrArg (w.now, ·) (Schedule.discipline_cancel? ..)

theorem pulse_reap (w : World) : w.reap.pulse = w.pulse := by
  unfold reap
  split
  · rfl
  · exact w.pulse_cancelTask

theorem pulse_finish (w : World) (op : Nat) (o : Outcome) : (w.finish op o).pulse = w.pulse :=
  pulse_reap _

theorem pulse_endLogin (w : World) (op : Nat) (purpose : Purpose) (r : Except Fault Grant) :
    (w.endLogin op purpose r).pulse = w.pulse := by
  rw [endLogin_eq, pulse_finish]
  rfl

theorem pulse_replaceTask (w : World) (delay : Span) (job : Job) :
    (w.replaceTask delay job).pulse = w.pulse :=
  congrArg (w.now, ·) (Schedule.discipline_cancel? ..)

theorem pulse_renewalDelay (w : World) (c : Credential) : (w.renewalDelay c).2.pulse = w.pulse := by
  obtain ⟨_, _, he⟩ := w.snd_renewalDelay c
  rw [he]
  rfl

theorem pulse_scheduleRenewal (w : World) (g : Grant) : (w.scheduleRenewal g).pulse = w.pulse := by
  have hd := w.pulse_renewalDelay g.credential
  unfold scheduleRenewal
  split
  · rfl
  split
  · exact pulse_replaceTask ..
  split <;> rename_i he <;> rw [he] at hd
  · exact hd
  · exact (pulse_replaceTask ..).trans hd

theorem pulse_installs (w : World) (c : Credential) (e : Grant → SessionEvent) :
    (w.installs c e).pulse = w.pulse :=
  pulse_scheduleRenewal ..

theorem pulse_retries (w : World) (g : Grant) (f : Fault) : (w.retries g f).pulse = w.pulse :=
  (pulse_scheduleRenewal ..).trans (pulse_renewalDelay (w.told g f) _)

theorem pulse_dropExpired (w : World) : w.dropExpired.pulse = w.pulse := by
  obtain he | ⟨g, -, -, he⟩ := w.dropExpired_eq <;> rw [he]
  exact pulse_cancelTask (w.install none)

theorem pulse_tellRevocation (w : World) (g : Grant) (r : Except Fault Unit) :
    (w.tellRevocation g r).pulse = w.pulse := by
  cases r <;> rfl

theorem pulse_acquires {purpose : Purpose} (h : Acquires u op purpose v) : v.pulse = u.pulse := by
  cases h with
  | shut | found => exact pulse_finish ..
  | starts _ _ _ => exact pulse_dropExpired { u with lock := [op] }
  | waits _ _ _ => rfl

theorem pulse_enters {observed : Nat} {purpose : Purpose} (h : Enters w op observed purpose v) :
    v.pulse = w.pulse := by
  cases h with
  | shut | found | shared => exact pulse_finish ..
  | starts _ _ _ => exact pulse_dropExpired w

theorem pulse_welcomes {purpose : Purpose} {c : Credential} (h : Welcomes w op purpose c v) :
    v.pulse = w.pulse := by
  cases h with
  | late _ _ => rfl
  | dropped _ _ => exact pulse_endLogin ..
  | installed _ => rw [pulse_endLogin, pulse_installs]

theorem pulse_takes (h : Takes u op v) : v.pulse = u.pulse := by
  cases h with
  | quiet _ => exact (pulse_finish ..).trans (pulse_cancelTask u)
  | sends _ _ => exact pulse_cancelTask u

theorem pulse_loses (h : Loses u op g v) : v.pulse = u.pulse := by
  have hc : (u.install none).cancelTask.pulse = u.pulse := pulse_cancelTask (u.install none)
  cases h with
  | superseded _ => exact pulse_finish ..
  | again _ _ ha => exact (pulse_acquires ha).trans hc
  | ended _ _ => exact (pulse_finish ..).trans hc

theorem pulse_renews {r : Except Fault Credential} (h : Renews w op g r v) : v.pulse = w.pulse := by
  cases h with
  | discarded | superseded => exact pulse_finish ..
  | brief _ _ _ => exact (pulse_finish ..).trans (pulse_cancelTask (w.granted.minted.install none))
  | renewed _ _ _ => exact (pulse_finish ..).trans (pulse_installs ..)
  | retried _ _ _ => exact (pulse_finish ..).trans (pulse_retries ..)
  | @tooLate f _ _ _ _ hl => exact (pulse_loses (u := _) hl).trans (pulse_renewalDelay (w.told g f) _)
  | @failed f _ _ _ hl => exact pulse_loses (u := w.told g f) hl

theorem discipline_of_fires {k : Task Job} {s : Schedule Job} (hf : w.Fires m k s) :
    s.discipline = w.schedule.discipline := by
  cases hf with
  | due h => exact Schedule.discipline_startDue h
  | next h => exact Schedule.discipline_startNext h

/-- Only the passing of time moves the clock, and nothing changes who starts the tasks. -/
theorem pulse_of_turn (ht : Turn w m w') :
    w.now ≤ w'.now ∧ w'.schedule.discipline = w.schedule.discipline := by
  have hsame : w'.pulse = w.pulse → w.now ≤ w'.now ∧ w'.schedule.discipline = w.schedule.discipline :=
    fun h => ⟨Nat.le_of_eq (congrArg (fun x => x.1.millis) h).symm, congrArg Prod.snd h⟩
  have hfires : ∀ {k s}, w.Fires m k s → World.pulse { w with schedule := s } = w.pulse := fun hf =>
    congrArg (w.now, ·) (discipline_of_fires hf)
  cases ht with
  | token _ hk => exact hsame (pulse_acquires (u := w.enrolled) hk)
  | revoke _ hk => exact hsame (pulse_takes (u := w.enrolled) hk)
  | destroyAgain _ _ => exact hsame (pulse_finish ..)
  | destroy _ _ hk => exact hsame (pulse_takes (u := { w.enrolled with destroyed := true }) hk)
  | orphan hf _ => exact hsame (hfires hf)
  | stale hf _ _ => exact hsame ((pulse_finish ..).trans (hfires hf))
  | renew hf _ _ _ _ => exact hsame (hfires hf)
  | expire hf _ _ _ _ => exact hsame ((pulse_finish ..).trans (hfires hf))
  | enter _ _ hk => exact hsame (pulse_enters hk)
  | loginFailed _ => exact hsame (pulse_endLogin ..)
  | looksUp _ _ => exact hsame rfl
  | @welcome _ _ since _ _ _ _ hk => exact hsame (pulse_welcomes (w := w.timed true since) hk)
  | lookedUp _ hk | notLookedUp _ hk => exact hsame (pulse_welcomes hk)
  | discarded _ =>
    refine hsame ?_
    rw [pulse_endLogin, pulse_tellRevocation]
  | renewed _ hk => exact hsame (pulse_renews hk)
  | revoked _ =>
    refine hsame ?_
    rw [pulse_finish, pulse_tellRevocation]
  | abandon _ => exact hsame (pulse_reap _)
  | elapse hle _ => exact ⟨hle, rfl⟩
  | release => exact hsame (pulse_reap _)
  | stop =>
    refine ⟨Nat.le_refl _, ?_⟩
    show w.schedule.stop.discipline = _
    rcases w.schedule.stop_cases with h | h <;> rw [h]
  | listen | unlisten => exact hsame rfl

/-! ## A failed renewal -/

/-- The installed grant is kept, and a task is added that renews it after that delay. -/
structure Retried (w : World) (g : Grant) (delay : Span) (w' : World) : Prop where
  kept : w'.current = some g
  added : w'.schedule.waiting = w.schedule.waiting ++ [w.schedule.next w.now delay (.renew g)]
  starts : w'.isAlive = true → w'.schedule.stopped = false →
    w'.schedule.live = [w.schedule.next w.now delay (.renew g)]

/-- The installed grant is dropped with its task, and the operation that was to renew it logs in again;
where that is not possible, it tells of the end of the grant and ends. -/
structure Dropped (w : World) (op : Nat) (g : Grant) (f : Fault) (w' : World) : Prop where
  gone : w'.current = none
  idle : w'.schedule.live = []
  logsIn : w.canLogInAgain = true → w.lock = [] → w'.point? op = some (.loggingIn .relogin w.now)
  waits : w.canLogInAgain = true → w.lock ≠ [] → w'.point? op = some (.queued w.loginsDone .relogin)
  ends : w.canLogInAgain = false → w'.history = .ended op .finished ::
    .published (.loginTokenExpired g) none :: .published (.failed f (some g)) (some g) :: w.history

/-- What a failed renewal of the installed grant comes to under a trigger: it is tried again if the
fault is transient and every delay that the trigger may ask for ends in time, else the grant is
dropped. -/
inductive Settles (t : FixedTrigger) (w : World) (op : Nat) (g : Grant) (f : Fault) (w' : World) : Prop
  | retried {delay : Span} : f.isTransient = true →
    (∀ draw, t.delay draw (g.credential.remaining w.now) < g.credential.remaining w.now) →
    minimalDelay ≤ delay → delay < g.credential.remaining w.now → w.Retried g delay w' →
    Settles t w op g f w'
  | dropped : (f.isTransient = true →
      ∀ draw, g.credential.remaining w.now ≤ t.delay draw (g.credential.remaining w.now)) →
    w.Dropped op g f w' → Settles t w op g f w'

theorem deserves_of_isInTime {c : Credential} {left : Span}
    (h : isInTime left (w.renewalDelay c).1 = true) :
    (!c.wantsRenewal || w.isBelowThreshold c) = false := by
  by_contra hn
  rw [fst_renewalDelay, if_pos (by simpa only [Bool.not_eq_false] using hn)] at h
  cases h

theorem Deserves.not_below (h : w.Deserves g) :
    (!g.credential.wantsRenewal || w.isBelowThreshold g.credential) = false := by
  have hlt : (w.trigger.thresholdFor g.credential.ttl).nanos < g.credential.ttl.nanos := h.2
  have hle : ¬ g.credential.ttl ≤ w.trigger.thresholdFor g.credential.ttl := Nat.not_le.mpr hlt
  simp [isBelowThreshold, h.1, hle]

/-- A retry is a task that renews the grant in the time that is left. -/
theorem retries_of_fixed (hmade : t.IsMade) (ht : w.trigger = .fixed t) (hd : w.destroyed = false)
    (hi : isInTime (g.credential.remaining w.now) (w.renewalDelay g.credential).1 = true) (f : Fault) :
    ∃ draw n, t.delay draw (g.credential.remaining w.now) < g.credential.remaining w.now ∧
      w.retries g f = World.replaceTask { w.told g f with drawn := n }
        (t.delay draw (g.credential.remaining w.now)) (.renew g) := by
  have hc := deserves_of_isInTime hi
  obtain ⟨_, hm⟩ := renewalDelay_fixed ht hc
  obtain ⟨n, hn⟩ := renewalDelay_fixed (w := w.told g f) ht hc
  obtain ⟨k, hk⟩ := renewalDelay_fixed (w := { w.told g f with drawn := n }) ht hc
  have hbelow : (g.credential.wantsRenewal &&
      World.isBelowThreshold { w.told g f with drawn := n } g.credential) = false := by
    simp only [Bool.or_eq_false_iff] at hc
    exact (congrArg _ hc.2).trans (Bool.and_false _)
  -- The delay that was asked for first is in time, and then so is the other.
  rw [hm] at hi
  refine ⟨w.draws n, k, hmade.delay_lt_of_lt (of_decide_eq_true hi) _, ?_⟩
  unfold retries scheduleRenewal
  rw [hn]
  dsimp only
  rw [hk, if_neg (by rw [show (w.told g f).destroyed = false from hd]; decide), hbelow]
  rfl

theorem stopped_replaceTask (w : World) (delay : Span) (job : Job) :
    (w.replaceTask delay job).schedule.stopped = w.schedule.stopped :=
  (Schedule.stopped_cancel? ..).trans rfl

theorem mem_live_replaceTask (hb : Booked w.schedule w.slot) {delay : Span} {job : Job} {k : Task Job}
    (hk : k ∈ (w.replaceTask delay job).schedule.live) : k = w.schedule.next w.now delay job := by
  cases hr : w.schedule.stopped with
  | true =>
    rw [Schedule.live_of_stopped ((stopped_replaceTask ..).trans hr)] at hk
    cases hk
  | false =>
    rw [(booked_replaceTask hb _ _).2 hr] at hk
    exact List.mem_singleton.mp hk

theorem waiting_finish (w : World) (op : Nat) (o : Outcome) :
    (w.finish op o).schedule.waiting = w.schedule.waiting := by
  show (World.reap _).schedule.waiting = _
  unfold reap
  split
  · rfl
  · exact Follows.waiting_cancel? ..

theorem live_finish (w : World) (op : Nat) (o : Outcome) :
    (w.finish op o).schedule.live.Sublist w.schedule.live :=
  ((Eases.refl w).finish op o).live

/-- Somebody goes after a credential in a session without one. -/
theorem point?_of_acquires {purpose : Purpose} (ha : Acquires u op purpose v)
    (hd : u.destroyed = false) (hc : u.current = none) : v.current = none ∧ v.schedule = u.schedule ∧
      (u.lock = [] → v.point? op = some (.loggingIn purpose u.now)) ∧
      (u.lock ≠ [] → v.point? op = some (.queued u.loginsDone purpose)) := by
  have hu : u.usable? = none := by rw [usable?, hc]; rfl
  cases ha with
  | shut h => cases hd.symm.trans h
  | found _ h => cases hu.symm.trans h
  | starts _ _ hl =>
    -- There is nothing to drop.
    have he : World.dropExpired { u with lock := [op] } = { u with lock := [op] } := by
      rw [dropExpired, show World.current { u with lock := [op] } = none from hc]
    rw [he]
    refine ⟨hc, rfl, fun _ => ?_, fun hn => absurd hl hn⟩
    rw [point?_call, if_pos rfl]
  | waits _ _ hl =>
    refine ⟨hc, rfl, fun hn => absurd hn hl, fun _ => ?_⟩
    rw [point?_setPoint, if_pos rfl]

theorem dropped_of_loses (hb : Booked w.schedule w.slot) (hd : w.destroyed = false)
    (hc : w.current = some g) {u : World} (hu : ∃ r n, u = { w.told g f with trigger := r, drawn := n })
    (hl : Loses u op g w') : w.Dropped op g f w' := by
  obtain ⟨r, n, rfl⟩ := hu
  have hidle := (booked_cancelTask (w := (w.told g f).install none) hb).2
  cases hl with
  | superseded hn =>
    have hcur : w.isCurrent g = true := isCurrent_of_installed hc
    cases hcur.symm.trans hn
  | again _ hcan ha =>
    obtain ⟨hcur, hs, hin, hwait⟩ := point?_of_acquires (u := World.cancelTask _) ha hd rfl
    refine ⟨hcur, ?_, fun _ => hin, fun _ => hwait, fun hno => ?_⟩
    · rw [hs]
      exact hidle
    · cases hcan.symm.trans hno
  | ended _ hcan =>
    refine ⟨current_finish .., ?_, fun h => ?_, fun h => ?_, fun _ => ?_⟩
    · exact List.sublist_nil.mp (hidle ▸ live_finish _ op .finished)
    · cases hcan.symm.trans h
    · cases hcan.symm.trans h
    · rw [history_finish]
      show _ :: _ :: Happening.published _ w.current :: _ = _
      rw [hc]
      rfl

/-- A failed renewal of the installed grant is tried again, or the grant is dropped. -/
theorem settles_of_step (hmade : t.IsMade) (ht : w.trigger = .fixed t) (hb : Booked w.schedule w.slot)
    (hs : step w (.answer op (.renewal (.error f))) = some w') {since : Instant}
    (hp : w.point? op = some (.renewing g since)) (hd : w.destroyed = false)
    (hc : w.current = some g) (hdes : w.Deserves g) : Settles t w op g f w' := by
  have hr : Renews w op g (.error f) w' := by
    simp only [step, answer, hp, Option.some.injEq] at hs
    exact hs ▸ renews_afterRenewal ..
  cases hr with
  | discarded h => cases hd.symm.trans h
  | retried _ htr hi =>
    obtain ⟨draw, k, hlt, he⟩ := retries_of_fixed hmade ht hd hi f
    refine .retried htr (hmade.delay_lt_of_lt hlt) (hmade.le_delay draw _) hlt ⟨?_, ?_, ?_⟩
    · rw [current_finish, current_retries, hc]
    · rw [waiting_finish, he]
      exact Follows.waiting_cancel? ..
    · intro ha hrun
      rw [schedule_finish ha] at hrun ⊢
      rw [he] at hrun ⊢
      refine (booked_replaceTask (w := { w.told g f with drawn := k }) hb _ _).2 ?_
      exact (stopped_replaceTask { w.told g f with drawn := k } _ _).symm.trans hrun
  | tooLate _ _ hi hl =>
    refine .dropped (fun _ draw => ?_) (dropped_of_loses hb hd hc ((w.told g f).snd_renewalDelay _) hl)
    obtain ⟨n, hn⟩ := renewalDelay_fixed ht hdes.not_below
    rw [hn] at hi
    refine Nat.not_lt.mp fun hlt => absurd (hmade.delay_lt_of_lt hlt (w.draws w.drawn)) ?_
    exact of_decide_eq_false hi
  | failed _ hno hl =>
    exact .dropped (fun h => by cases hno.symm.trans h) (dropped_of_loses hb hd hc ⟨_, _, rfl⟩ hl)

/-! ## Whose renewal is under way -/

/-- A grant whose renewal is with the server deserves it. -/
def Earned (w : World) : Prop := ∀ g, w.Holds g → 0 < w.underWay g.serial → w.Deserves g

theorem earned_turn (h : w.Earned) (hs : w.Sparing) (hd : w.Distinct) (hb : Booked w.schedule w.slot)
    (ht : Turn w m w') : w'.Earned := by
  intro g hg hpos
  rw [Books.deserves_iff (threshold_turn hb ht)]
  obtain ⟨c, hf⟩ := Follows.of_turn ht
  -- Of a grant that has just come up, no renewal is under way.
  have hold : 0 < w.underWay g.serial → w.Deserves g := fun hu => by
    rcases hf.holds g hg with hg | ⟨rfl, -⟩
    · exact h g hg hu
    · exact absurd (Nat.eq_zero_of_add_eq_zero_left (hs.fresh _ (Nat.le_refl _))) (Nat.ne_of_gt hu)
  cases Course.of_turn hb ht with
  | eases he => exact hold (Nat.lt_of_lt_of_le hpos (he.underWay _))
  | arrives hk _ _ | retries _ hk _ => exact hold (Nat.lt_of_lt_of_le hpos (hk.underWay _))
  | @begins t i hmem hj _ _ _ hu _ _ _ =>
    by_cases hi : i.serial = g.serial
    · have hheld : w.Holds i := .inr (.inr ⟨t, (Schedule.mem_live.mp hmem).1, by rw [hj]; rfl⟩)
      have he : i = g := by
        rcases hf.holds g hg with hg | ⟨rfl, -⟩
        · exact hd.inj i g hheld hg hi
        · exact absurd (hd.lt i hheld) (hi ▸ Nat.lt_irrefl _)
      exact he ▸ hs.deserves t hmem i hj
    · have hle := hu g.serial
      rw [List.count_eq_zero.mpr (by simpa using fun e => hi e.symm)] at hle
      exact hold (Nat.lt_of_lt_of_le hpos hle)

theorem Earned.deserves (h : w.Earned) {since : Instant} (hp : w.point? op = some (.renewing g since)) :
    w.Deserves g :=
  h g (.inr (.inl ⟨op, since, hp⟩)) (List.countP_pos_iff.mpr ⟨_, lookup_mem hp, by simp [Point.renews?]⟩)

/-! ## How often a grant is renewed -/

/-- How often the server was asked to renew the grant of that number. -/
def attempts (w : World) (n : Nat) : Nat := w.renewals.countP fun g => g.serial == n

/-- The renewals of a grant have kept to the tempo since the first one, at `start`, and so will the one
that waits, if any. -/
structure Paced (w : World) (g : Grant) (start : Instant) (n : Nat) : Prop where
  now : Tempo start (g.credential.remaining start) n w.now
  next : ∀ t ∈ w.schedule.live, t.job.renews? = some g.serial →
    Tempo start (g.credential.remaining start) (n + 1) t.due
  own : ∀ h, w.Holds h → h.serial = g.serial → h = g
  old : g.serial < w.nextGrant

theorem due_of_fires {k : Task Job} {s : Schedule Job} (hn : w.schedule.Numbered)
    (htimed : w.schedule.discipline = .timed) (hs : step w m = some w') (hf : w.Fires m k s) :
    k.due ≤ w.now := by
  cases hf with
  | due h => exact (Schedule.starts_of_startDue hn h).2.2
  | next h =>
    rw [step, if_neg (by rw [htimed]; decide)] at hs
    cases hs

theorem attempts_of_begins (h : w'.renewals = g :: w.renewals) (n : Nat) :
    w'.attempts n = w.attempts n + [g.serial].count n := by
  rw [attempts, h, List.countP_cons, List.count_singleton]
  rfl

theorem renewals_retries (hb : Booked w.schedule w.slot) (g : Grant) (f : Fault) (op : Nat) :
    ((w.retries g f).finish op .finished).renewals = w.renewals :=
  ((Books.retries hb g f).eases ((Eases.refl _).finish op .finished)).renewals

/-- With a grant that has just arrived, no task for an older one is added. -/
theorem mem_live_of_arrival {i : Grant} (hk : Books i w w') (hge : w.nextGrant ≤ i.serial) {n : Nat}
    (hn : n < w.nextGrant) {k : Task Job} (hl : k ∈ w'.schedule.live) (hj : k.job.renews? = some n) :
    k ∈ w.schedule.live := by
  rcases hk.live with hsub | ⟨k', hk', hren⟩
  · exact hsub.subset hl
  · obtain rfl := List.mem_singleton.mp (hk' ▸ hl)
    cases hjob : k.job with
    | expire _ => cases (hjob ▸ hj : (Job.expire _).renews? = _)
    | renew a =>
      have ha : a.serial = n := Option.some.inj (hjob ▸ hj : (Job.renew a).renews? = _)
      obtain ⟨rfl, -⟩ := hren a hjob
      exact absurd hn (Nat.not_lt.mpr (ha ▸ hge))

namespace Paced

variable {start : Instant} {n : Nat} (h : w.Paced g start n)

include h

/-- A retry that is added keeps to the tempo. -/
theorem retry (hmade : t.IsMade) (htr : w.trigger = .fixed t) (hb : Booked w.schedule w.slot)
    (hissued : g.credential.issued ≤ start) {i : Grant} {since : Instant}
    (hp : w.point? op = some (.renewing i since)) (hd : w.destroyed = false)
    (hi : isInTime (i.credential.remaining w.now) (w.renewalDelay i.credential).1 = true) {k : Task Job}
    (hk : k ∈ ((w.retries i f).finish op .finished).schedule.live)
    (hj : k.job.renews? = some g.serial) : Tempo start (g.credential.remaining start) (n + 1) k.due := by
  obtain ⟨draw, a, hlt, hr⟩ := retries_of_fixed hmade htr hd hi f
  have hk' := (live_finish _ op .finished).subset hk
  rw [hr] at hk'
  obtain rfl := mem_live_replaceTask (w := { w.told i f with drawn := a }) hb hk'
  obtain rfl := h.own i (.inr (.inl ⟨op, since, hp⟩)) (Option.some.inj hj)
  exact h.now.retry hissued (hmade.le_delay _ _) hlt

/-- The task that starts has kept to the tempo, and the next renewal of the grant with it. -/
theorem begins {k : Task Job} (hk : k ∈ w.schedule.live) {i : Grant} (hj : k.job = .renew i)
    (hdue : k.due ≤ w.now) :
    Tempo start (g.credential.remaining start) (n + [i.serial].count g.serial) w.now := by
  by_cases hg : i.serial = g.serial
  · rw [hg, List.count_singleton_self]
    have hnext := h.next k hk (by rw [hj]; exact congrArg some hg)
    exact hnext.later hdue
  · rw [List.count_eq_zero.mpr (by simpa using fun e => hg e.symm)]
    exact h.now

theorem turn (hmade : t.IsMade) (htr : w.trigger = .fixed t)
    (htimed : w.schedule.discipline = .timed) (hb : Booked w.schedule w.slot)
    (hissued : g.credential.issued ≤ start) (hs : step w m = some w') :
    ∃ k, w'.Paced g start (n + k) ∧ w'.attempts g.serial = w.attempts g.serial + k := by
  have ht := turn_of_step hs
  have hnow := (pulse_of_turn ht).1
  obtain ⟨c, hf⟩ := Follows.of_turn ht
  have hown : ∀ i, w'.Holds i → i.serial = g.serial → i = g := fun i hi he => by
    rcases hf.holds i hi with hi | ⟨rfl, -⟩
    · exact h.own i hi he
    · exact absurd h.old (he ▸ Nat.lt_irrefl _)
  have hold : g.serial < w'.nextGrant := Nat.lt_of_lt_of_le h.old hf.next
  -- Where nobody begins to renew, only the tasks matter.
  have hkept : (∀ k ∈ w'.schedule.live, k.job.renews? = some g.serial →
      Tempo start (g.credential.remaining start) (n + 1) k.due) → w'.renewals = w.renewals →
      ∃ k, w'.Paced g start (n + k) ∧ w'.attempts g.serial = w.attempts g.serial + k := fun hnext hr =>
    ⟨0, ⟨h.now.later hnow, hnext, hown, hold⟩, congrArg (List.countP _) hr⟩
  cases Pursuit.of_turn hb ht with
  | eases he => exact hkept (fun k hk => h.next k (he.live.subset hk)) he.renewals
  | arrives hk hge _ =>
    exact hkept (fun k hl hj => h.next k (mem_live_of_arrival hk hge h.old hl hj) hj) hk.renewals
  | retries hp hd hi he =>
    subst he
    exact hkept (fun k hk hj => h.retry hmade htr hb hissued hp hd hi hk hj) (renewals_retries hb ..)
  | @begins k s i hfires hj _ he =>
    have hst := hfires.starts hb.numbered
    have hnow' := h.begins hst.mem hj (due_of_fires hb.numbered htimed hs hfires)
    subst he
    refine ⟨[i.serial].count g.serial, ⟨hnow', fun k' hk' => ?_, hown, hold⟩, attempts_of_begins rfl _⟩
    exact absurd ((hb.starts hst).2 ▸ hk') List.not_mem_nil

omit h in
/-- With the first renewal of a grant the count begins. -/
theorem of_first (hb : Booked w.schedule w.slot) (hd : w.Distinct) (hs : step w m = some w')
    (hr : w'.renewals = g :: w.renewals) : w'.Paced g w.now 0 := by
  have ht := turn_of_step hs
  have hd' := distinct_turn hd ht
  have hne : w'.renewals ≠ w.renewals := fun he => List.cons_ne_self g w.renewals (hr.symm.trans he)
  cases Pursuit.of_turn hb ht with
  | eases he => exact absurd he.renewals hne
  | arrives hk _ _ => exact absurd hk.renewals hne
  | retries _ _ _ he => exact absurd (he ▸ renewals_retries hb ..) hne
  | @begins k s i hfires _ _ he =>
    have hheld : w'.Holds i :=
      .inr (.inl ⟨w.nextOperation, w.now, by rw [he, point?_call, if_pos rfl]⟩)
    subst he
    obtain rfl : i = g := (List.cons.inj hr).1
    have hnone := (hb.starts (hfires.starts hb.numbered)).2
    refine ⟨.first .., fun k' hk' => ?_, fun a ha he => hd'.inj a i ha hheld he, hd'.lt i hheld⟩
    exact absurd (hnone ▸ hk') List.not_mem_nil

end Paced

end World

open World

/-! ## Over a run -/

section run

variable {settings : Settings} {t : FixedTrigger} {d : Discipline} {draws : Nat → Nat} {ms : List Move}
  {v : World}

theorem Visits.earned (h : Visits (World.initial settings d draws) ms v) : v.Earned := by
  refine h.keeps (P := World.Earned) (fun _ _ hpos => by cases hpos) fun w m u hp hw => ?_
  obtain ⟨hs, hb, hd, -⟩ := hp.visits.1.sparing
  exact earned_turn hw hs hd hb (turn_of_step hp.step)

theorem Visits.discipline (h : Visits (World.initial settings d draws) ms v) :
    v.schedule.discipline = d :=
  h.keeps (P := fun v => v.schedule.discipline = d) rfl fun _ _ _ hp hw =>
    (pulse_of_turn (turn_of_step hp.step)).2.trans hw

/-- In a run, a renewal of the installed grant that fails is tried again in time, or the grant is
dropped at once; and counted from any of its renewals on, a grant is renewed no more often than seconds
were left of it then. -/
structure RetriesEnd (t : FixedTrigger) (start : World) (ms : List Move) : Prop where
  settled : ∀ v op f v' g since, Passes start ms v (.answer op (.renewal (.error f))) v' →
    v.point? op = some (.renewing g since) → v.current = some g → v.destroyed = false →
    v.Settles t op g f v'
  counted : ∀ v m v' g w, Passes start ms v m v' → v'.renewals = g :: v.renewals →
    g.credential.issued ≤ v.now → run? start ms = some w →
    w.attempts g.serial ≤ v.attempts g.serial + (g.credential.remaining v.now).attempts

/-- What is retried from a renewal on is in the pace of it. -/
theorem attempts_le {v' w : World} {m : Move} {g : Grant} (ht : t.IsMade)
    (h : Passes (World.initial settings .timed draws) ms v m v')
    (htr : v.trigger = .fixed t) (hr : v'.renewals = g :: v.renewals)
    (hissued : g.credential.issued ≤ v.now)
    (hw : run? (World.initial settings .timed draws) ms = some w) :
    w.attempts g.serial ≤ v.attempts g.serial + (g.credential.remaining v.now).attempts := by
  obtain ⟨-, hb, hd, -⟩ := h.visits.1.sparing
  have htimed := h.visits.1.discipline
  obtain ⟨ns, ⟨os, rfl⟩, hv, hs⟩ := h
  rw [run?_append, run?_concat.mpr ⟨v, hv, hs⟩, Option.bind_some] at hw
  have hk := turn_of_step hs
  have hfirst := Paced.of_first hb hd hs hr
  have hcount := (attempts_of_begins hr g.serial).trans (congrArg _ List.count_singleton_self)
  have hvisit : Visits v' os w := ⟨os, List.prefix_refl os, hw⟩
  obtain ⟨-, -, -, n, hpaced, hn⟩ := hvisit.keeps (P := fun u => Booked u.schedule u.slot ∧
      u.trigger = .fixed t ∧ u.schedule.discipline = .timed ∧
      ∃ n, u.Paced g v.now n ∧ u.attempts g.serial = v.attempts g.serial + 1 + n)
    ⟨(Onward.of_turn hk).booked hb, (Onward.of_turn hk).trigger t htr, (pulse_of_turn hk).2.trans htimed,
      0, hfirst, hcount⟩
    fun u k u' hp ⟨hbu, htu, hdu, n, hpu, hcu⟩ => by
      have hku := turn_of_step hp.step
      obtain ⟨k, hpu', hcu'⟩ := hpu.turn ht htu hdu hbu hissued hp.step
      exact ⟨(Onward.of_turn hku).booked hbu, (Onward.of_turn hku).trigger t htu,
        (pulse_of_turn hku).2.trans hdu, n + k, hpu', by rw [hcu', hcu, Nat.add_assoc]⟩
  have hlt := hpaced.now.lt_attempts
  omega

/-- The retries of a session under a fixed trigger end in time. -/
theorem retriesEnd_of_fixed (ht : t.IsMade) (selfLookup canLogInAgain : Bool) (draws : Nat → Nat)
    (ms : List Move) :
    RetriesEnd t (World.initial ⟨.fixed t, selfLookup, canLogInAgain⟩ .timed draws) ms where
  settled v op f v' g since hp hop hc hd := by
    obtain ⟨-, hb, htr⟩ := hp.visits.1.settled
    exact settles_of_step ht htr hb hp.step hop hd hc (hp.visits.1.earned.deserves hop)
  counted v m v' g w hp hr hissued hw := attempts_le ht hp hp.visits.1.settled.2.2 hr hissued hw

end run

end LeaseKeeper.Session
