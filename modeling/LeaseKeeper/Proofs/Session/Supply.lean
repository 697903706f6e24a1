import LeaseKeeper.Proofs.Session.Care
import LeaseKeeper.Proofs.Session.Shifts
import LeaseKeeper.Proofs.Timing

/-!
# Grants that are renewed in time

A session that is not interrupted has a grant whose task is due when the lead time is left of it,
or whose renewal began no later (`Supplied`, `Minds`); if that renewal takes less than the lead
time, the grant can be used meanwhile (`Supplied.usable?`). Before the first login nothing is
installed, and whoever asks waits for that login (`Awaited`). Under the conditions of `Favours`,
every step of a session that has such a grant leaves it one (`Unbroken.of_supplied`).
-/

namespace LeaseKeeper

/-- A credential that is issued at that instant, can be renewed, and lasts for longer than the
threshold, in whole milliseconds. -/
structure Credential.IsProper (c : Credential) (t : FixedTrigger) (i : Instant) : Prop where
  issued : c.issued = i
  renewable : c.renewable = true
  above : t.threshold < c.ttl
  whole : c.ttl.IsWhole

namespace Session

namespace World

/-- A move under which a session is never interrupted: nobody takes the credential away or stops
the scheduler, nobody gives up but who waits for the lock, and the first login and every renewal
bring a proper credential. -/
structure Favours (t : FixedTrigger) (w : World) (m : Move) : Prop where
  asks : ∀ r, m = .begin r → r = .token
  runs : m ≠ .stop
  stays : ∀ op, m = .abandon op → ∃ observed purpose, w.point? op = some (.queued observed purpose)
  login : ∀ op r, w.loginsDone = 0 → w.finishes? m = some (op, r) →
    ∃ g, r = .ok g ∧ g.credential.IsProper t w.now
  renewal : ∀ op r g since, m = .answer op (.renewal r) → w.point? op = some (.renewing g since) →
    ∃ c, r = .ok c ∧ c.IsProper t w.now

/-- Every renewal has been under way for less than the lead time. -/
def Prompt (t : FixedTrigger) (w : World) : Prop :=
  ∀ op g since, w.point? op = some (.renewing g since) → w.now.since since < t.lead

/-- No error has been told, nor that a token was dropped. -/
def Untroubled (w : World) : Prop :=
  ∀ e i, .published e i ∈ w.history → e.isError = false ∧ ∀ g, e ≠ .loginTokenExpired g

/-- How often the server was asked to log in. -/
def logins (w : World) : Nat := w.calls (· == .login)

/-- What looks after the installed grant, early enough for the lead time. -/
inductive Minds (w : World) (lead : Span) (g : Grant) : Prop
  | task {t : Task Job} : w.schedule.live = [t] → t.job = .renew g → w.now ≤ t.due →
    Leaves g.credential.issued g.credential.ttl lead t.due → (∀ op h, ¬ w.Renewing op h) →
    Minds w lead g
  | renewal {op : Nat} {since : Instant} : w.schedule.live = [] →
    w.point? op = some (.renewing g since) →
    Leaves g.credential.issued g.credential.ttl lead since → (∀ q h, w.Renewing q h → q = op) →
    Minds w lead g

/-- A session before its first login has come to something. -/
structure Awaited (w : World) : Prop where
  bare : w.current = none
  idle : w.schedule.live = []
  points : ∀ op p, w.point? op = some p → p.wantsLock = true ∧ ∀ purpose g, p ≠ .discarding purpose g
  logins : w.lock = [] ∧ w.logins = 0 ∨
    w.logins = 1 ∧ ∃ op p, w.point? op = some p ∧ p.isLogin = true
  done : w.loginsDone = 0

/-- A session that has a proper grant. -/
structure Supplied (t : FixedTrigger) (w : World) (g : Grant) : Prop where
  current : w.current = some g
  above : t.threshold < g.credential.ttl
  minded : w.Minds t.lead g
  points : ∀ op p, w.point? op = some p →
    (∃ observed purpose, p = .queued observed purpose) ∨ ∃ h since, p = .renewing h since
  logins : w.logins = 1
  done : 0 < w.loginsDone

/-- A session that has not been interrupted so far. -/
structure Unbroken (t : FixedTrigger) (w : World) : Prop where
  unlocked : w.destroyed = false
  running : w.schedule.stopped = false
  timed : w.schedule.discipline = .timed
  untroubled : w.Untroubled
  phase : w.Awaited ∨ ∃ g, w.Supplied t g

variable {w u v w' : World} {m : Move} {op : Nat} {t : FixedTrigger} {g : Grant}

/-! ## What is told and called -/

theorem Untroubled.cons (h : w.Untroubled) {x : Happening} (hh : w'.history = x :: w.history)
    (hx : ∀ e i, x = .published e i → e.isError = false ∧ ∀ g, e ≠ .loginTokenExpired g) :
    w'.Untroubled := fun e i hm => by
  rw [hh] at hm
  rcases List.mem_cons.mp hm with he | hm
  · exact hx e i he.symm
  · exact h e i hm

theorem logins_of_history (hh : w'.history = w.history) : w'.logins = w.logins := by
  rw [logins, calls, hh]
  rfl

theorem logins_finish (w : World) (op : Nat) (o : Outcome) : (w.finish op o).logins = w.logins := by
  rw [logins, calls, history_finish]
  rfl

theorem logins_call_login (w : World) (op : Nat) (p : Point) :
    (w.call op .login p).logins = w.logins + 1 := by
  unfold logins calls
  exact List.countP_cons_of_pos (a := Happening.called op .login) rfl

/-- An operation is given up. -/
abbrev abandoned (w : World) (op : Nat) : World :=
  { w.unlock op with operations := w.operations.filter (·.1 != op) }.reap

theorem point?_abandoned (w : World) (op q : Nat) :
    (w.abandoned op).point? q = if q = op then none else w.point? q := by
  rw [point?, operations_reap, lookup_filter]
  rfl

/-! ## The grant that is there can be used -/

theorem Supplied.remaining (h : Supplied t w g) (hpos : Span.zero < t.lead) (hr : t.IsRoomy)
    (hp : w.Prompt t) : Span.zero < g.credential.remaining w.now := by
  have httl := hr.lead_le h.above
  cases h.minded with
  | task _ _ hdue hl _ => exact Nat.lt_of_lt_of_le hpos ((hl.mono hdue).le_remaining httl)
  | renewal _ hop hl _ => exact hl.lasts (Nat.lt_of_lt_of_le hpos httl) (hp _ _ _ hop)

theorem Supplied.usable? (h : Supplied t w g) (hpos : Span.zero < t.lead) (hr : t.IsRoomy)
    (hp : w.Prompt t) : w.usable? = some g := by
  have hrem := h.remaining hpos hr hp
  rw [World.usable?, h.current, Option.filter_some, if_pos]
  have : g.credential.isExpired w.now = false := by
    rw [← Bool.not_eq_true, Credential.isExpired, Credential.isExpiring_iff]
    rintro ⟨-, hle⟩
    exact absurd hrem (Nat.not_lt.mpr hle)
  rw [this]
  rfl

/-- Nothing happens but that operations end, or begin to wait, that renewed nothing. -/
theorem Supplied.same (h : Supplied t w g) (hc : w'.current = w.current)
    (hs : w'.schedule.live = w.schedule.live) (hn : w'.now = w.now)
    (hp : ∀ q p, w'.point? q = some p → w.point? q = some p)
    (hk : ∀ q i s, w.point? q = some (.renewing i s) → w'.point? q = some (.renewing i s))
    (hl : w'.logins = w.logins) (hd : w'.loginsDone = w.loginsDone) : Supplied t w' g where
  current := hc.trans h.current
  above := h.above
  minded := by
    cases h.minded with
    | task hlive hj hdue hleaves hno =>
      exact .task (hs.trans hlive) hj (hn ▸ hdue) hleaves fun q i ⟨s, hq⟩ => hno q i ⟨s, hp _ _ hq⟩
    | renewal hlive hop hleaves hone =>
      exact .renewal (hs.trans hlive) (hk _ _ _ hop) hleaves fun q i ⟨s, hq⟩ => hone q i ⟨s, hp _ _ hq⟩
  points q p hq := h.points q p (hp q p hq)
  logins := hl.trans h.logins
  done := hd ▸ h.done

theorem Supplied.still (h : Supplied t w g) (hc : w'.current = w.current)
    (hs : w'.schedule = w.schedule) (hn : w'.now = w.now) (ho : w'.operations = w.operations)
    (hh : w'.history = w.history) (hd : w'.loginsDone = w.loginsDone) : Supplied t w' g :=
  h.same hc (congrArg _ hs) hn (fun q p hq => by rwa [point?, ho] at hq)
    (fun q i s hq => by rwa [point?, ho]) (logins_of_history hh) hd

/-- The one task that waits is that of the installed grant. -/
theorem Supplied.task (h : Supplied t w g) (hb : Booked w.schedule w.slot) {task : Task Job}
    {s : Schedule Job} (hf : w.Fires m task s) : task.job = .renew g ∧ w.now ≤ task.due ∧
      Leaves g.credential.issued g.credential.ttl t.lead task.due ∧ ∀ q i, ¬ w.Renewing q i := by
  have hm := (hf.starts hb.numbered).mem
  cases h.minded with
  | task hlive hj hdue hleaves hno =>
    rw [hlive, List.mem_singleton] at hm
    subst hm
    exact ⟨hj, hdue, hleaves, hno⟩
  | renewal hlive _ _ _ =>
    rw [hlive] at hm
    cases hm

/-- A renewal is of the installed grant, and no other one is under way. -/
theorem Supplied.renewal (h : Supplied t w g) {i : Grant} {since : Instant}
    (hq : w.point? op = some (.renewing i since)) : i = g ∧ ∀ q k, w.Renewing q k → q = op := by
  cases h.minded with
  | task _ _ _ _ hno => exact absurd ⟨since, hq⟩ (hno op i)
  | @renewal o s _ hop _ hone =>
    cases hone op i ⟨since, hq⟩
    cases hop.symm.trans hq
    exact ⟨rfl, hone⟩

/-- Time passes, but not past the task. -/
theorem Supplied.elapse (h : Supplied t w g) (ht : w.schedule.discipline = .timed) {i : Instant}
    (hp : w.isPunctual i = true) : Supplied t { w with now := i } g := by
  refine ⟨h.current, h.above, ?_, h.points, h.logins, h.done⟩
  cases h.minded with
  | task hlive hj hdue hleaves hno =>
    refine .task hlive hj ?_ hleaves hno
    rw [isPunctual, ht] at hp
    change (w.schedule.live.all _) = true at hp
    rw [hlive, List.all_cons, Bool.and_eq_true, decide_eq_true_eq] at hp
    exact hp.1
  | renewal hlive hop hleaves hone => exact .renewal hlive hop hleaves hone

/-- Who waits for the lock gives up. -/
theorem Supplied.abandoned (h : Supplied t w g) {observed : Nat} {purpose : Purpose}
    (hq : w.point? op = some (.queued observed purpose)) (ha : (w.abandoned op).isAlive = true) :
    Supplied t (w.abandoned op) g := by
  refine h.same (current_reap _) (congrArg _ (schedule_reap ha)) (now_reap _) (fun q p hqp => ?_)
    (fun q i s hqp => ?_) (logins_of_history (history_reap _)) (loginsDone_reap _)
  · rw [point?_abandoned] at hqp
    split at hqp
    · cases hqp
    · exact hqp
  · rw [point?_abandoned, if_neg]
    · exact hqp
    · rintro rfl
      cases hq.symm.trans hqp

/-- An operation ends that renewed nothing. -/
theorem Supplied.finish (h : Supplied t w g) (hop : ∀ i, ¬ w.Renewing op i) {o : Outcome}
    (ha : (w.finish op o).isAlive = true) : Supplied t (w.finish op o) g := by
  refine h.same (current_finish ..) (congrArg _ (schedule_finish ha)) (now_reap _) (fun q p hq => ?_)
    (fun q i s hq => ?_) (logins_finish ..) (loginsDone_finish ..)
  · rw [point?_finish] at hq
    split at hq
    · cases hq
    · exact hq
  · rw [point?_finish, if_neg]
    · exact hq
    · rintro rfl
      exact hop i ⟨s, hq⟩

/-! ## A proper credential is installed -/

/-- Its task is due when the lead time is left. -/
theorem live_installs {c : Credential} (ht : w.trigger = .fixed t) (hr : t.IsRoomy)
    (hl : t.lead.IsWhole) (hd : w.destroyed = false) (hs : w.schedule.stopped = false)
    (hb : Booked w.schedule w.slot) (hi : w.now.Counts) (hc : c.IsProper t w.now)
    (e : Grant → SessionEvent) :
    ∃ task, (w.installs c e).schedule.live = [task] ∧ task.job = .renew ⟨w.nextGrant, c⟩ ∧
      w.now ≤ task.due ∧ Leaves c.issued c.ttl t.lead task.due := by
  let u := (w.minted.install (some ⟨w.nextGrant, c⟩)).publish (e ⟨w.nextGrant, c⟩)
  have habove := hc.above
  rw [Span.lt_def] at habove
  have hz : c.ttl.isZero = false := by
    simp only [Span.isZero, beq_eq_false_iff_ne]
    omega
  have hbelow : u.isBelowThreshold c = false := by
    have htr : u.trigger = .fixed t := ht
    simp only [isBelowThreshold, htr, Trigger.thresholdFor, Span.le_def, hz, Bool.not_false,
      Bool.true_and, decide_eq_false_iff_not]
    omega
  have hwants : c.wantsRenewal = true := by simp [Credential.wantsRenewal, hc.renewable, hz]
  -- The credential is as old as the step, so all of its lifetime is left.
  have hrem : c.remaining u.now = c.ttl := by
    apply Span.ext
    rw [Credential.remaining, Span.nanos_sub, Instant.nanos_since, hc.issued]
    show c.ttl.nanos - min ((w.now.millis - w.now.millis) * nanosPerMilli) longestNanos = _
    rw [Nat.sub_self, Nat.zero_mul]
    omega
  have hdelay : u.renewalDelay c = (some (t.delay (u.draws u.drawn) c.ttl), (u.askTrigger c.ttl).2) := by
    have htr : u.trigger = .fixed t := ht
    rw [renewalDelay, if_neg (by simp [hwants, hbelow]), hrem, askTrigger, htr]
    rfl
  have hsched : w.installs c e = (u.askTrigger c.ttl).2.replaceTask (t.delay (u.draws u.drawn) c.ttl)
      (.renew ⟨w.nextGrant, c⟩) := by
    have hdu : u.destroyed = false := hd
    show u.scheduleRenewal ⟨w.nextGrant, c⟩ = _
    rw [scheduleRenewal, if_neg (by simp [hdu]), if_neg (by simp [hbelow])]
    simp only [hdelay]
  refine ⟨w.schedule.next w.now (t.delay (u.draws u.drawn) c.ttl) (.renew ⟨w.nextGrant, c⟩), ?_, rfl,
    Instant.le_plus _ _, ?_⟩
  · rw [hsched]
    exact (booked_replaceTask (w := (u.askTrigger c.ttl).2) hb _ _).2 hs
  · rw [hc.issued]
    exact t.leaves_plus hr (Nat.le_of_lt habove) hl hc.whole hi _

/-- An operation has brought a proper credential, which is installed, and ends. -/
theorem supplied_installs {c : Credential} (ht : w.trigger = .fixed t) (hr : t.IsRoomy)
    (hl : t.lead.IsWhole) (hd : w.destroyed = false) (hs : w.schedule.stopped = false)
    (hb : Booked w.schedule w.slot) (hi : w.now.Counts) (hc : c.IsProper t w.now)
    {e : Grant → SessionEvent} (hcur : v.current = some ⟨w.nextGrant, c⟩) (hnow : v.now = w.now)
    (hlive : v.schedule.live = (w.installs c e).schedule.live)
    (hp : ∀ q p, v.point? q = some p → ∃ observed purpose, p = .queued observed purpose)
    (hlog : v.logins = 1) (hdone : 0 < v.loginsDone) : Supplied t v ⟨w.nextGrant, c⟩ := by
  obtain ⟨task, hone, hj, hdue, hleaves⟩ := live_installs ht hr hl hd hs hb hi hc e
  refine ⟨hcur, hc.above, .task (hlive.trans hone) hj (hnow ▸ hdue) hleaves fun q i ⟨s, hq⟩ => ?_,
    fun q p hq => .inl (hp q p hq), hlog, hdone⟩
  obtain ⟨_, _, he⟩ := hp q _ hq
  cases he

theorem history_installs (w : World) (c : Credential) (e : Grant → SessionEvent) :
    (w.installs c e).history =
      .published (e ⟨w.nextGrant, c⟩) (some ⟨w.nextGrant, c⟩) :: w.history := by
  obtain ⟨_, _, _, _, h⟩ := ((w.minted.install (some ⟨w.nextGrant, c⟩)).publish
    (e ⟨w.nextGrant, c⟩)).scheduleRenewal_eq ⟨w.nextGrant, c⟩
  rw [World.installs, h]
  rfl

/-! ## Every step that keeps to the conditions keeps it -/

/-- Scheduling neither stops the scheduler nor changes who starts its tasks. -/
theorem flags_replaceTask (w : World) (delay : Span) (job : Job) :
    (w.replaceTask delay job).schedule.discipline = w.schedule.discipline ∧
      (w.replaceTask delay job).schedule.stopped = w.schedule.stopped := by
  show ((w.schedule.add w.now delay job).2.cancel? w.slot).discipline = _ ∧
    ((w.schedule.add w.now delay job).2.cancel? w.slot).stopped = _
  cases w.slot with
  | none => exact ⟨rfl, rfl⟩
  | some id => simp only [Schedule.cancel?, Schedule.cancel]; split <;> exact ⟨rfl, rfl⟩

theorem flags_installs (w : World) (c : Credential) (e : Grant → SessionEvent) :
    (w.installs c e).schedule.discipline = w.schedule.discipline ∧
      (w.installs c e).schedule.stopped = w.schedule.stopped := by
  let u := (w.minted.install (some ⟨w.nextGrant, c⟩)).publish (e ⟨w.nextGrant, c⟩)
  show (u.scheduleRenewal ⟨w.nextGrant, c⟩).schedule.discipline = u.schedule.discipline ∧
    (u.scheduleRenewal ⟨w.nextGrant, c⟩).schedule.stopped = u.schedule.stopped
  unfold scheduleRenewal
  split
  · exact ⟨rfl, rfl⟩
  split
  · exact flags_replaceTask ..
  obtain ⟨_, _, hd⟩ := u.snd_renewalDelay c
  split <;> rename_i he <;> rw [he] at hd <;> subst hd
  · exact ⟨rfl, rfl⟩
  · exact flags_replaceTask ..

namespace Unbroken

/-- An operation ends that renewed nothing. -/
theorem finish (h : Unbroken t w) (hg : Supplied t w g) (hop : ∀ i, ¬ w.Renewing op i) {o : Outcome}
    (ha : (w.finish op o).isAlive = true) : Unbroken t (w.finish op o) where
  unlocked := (destroyed_finish ..).trans h.unlocked
  running := schedule_finish ha ▸ h.running
  timed := schedule_finish ha ▸ h.timed
  untroubled := h.untroubled.cons (history_finish ..) fun _ _ he => by cases he
  phase := .inr ⟨g, hg.finish hop ha⟩

/-- A proper credential has been installed and told of, and an operation ends. -/
theorem installs {c : Credential} (h : Unbroken t w) (ht : w.trigger = .fixed t) (hr : t.IsRoomy)
    (hl : t.lead.IsWhole) (hb : Booked w.schedule w.slot) (hi : w.now.Counts)
    (hc : c.IsProper t w.now) (e : Grant → SessionEvent)
    (he : ∀ g, (e g).isError = false ∧ ∀ i, e g ≠ .loginTokenExpired i)
    (hu : u.schedule = (w.installs c e).schedule ∧ u.current = some ⟨w.nextGrant, c⟩ ∧
      u.now = w.now ∧ u.destroyed = false ∧ u.operations = w.operations ∧
      u.history = (w.installs c e).history)
    (hp : ∀ q p, q ≠ op → w.point? q = some p → ∃ observed purpose, p = .queued observed purpose)
    (hlog : w.logins = 1) (hdone : 0 < u.loginsDone) {o : Outcome}
    (ha : (u.finish op o).isAlive = true) : Unbroken t (u.finish op o) := by
  obtain ⟨hus, huc, hun, hud, huo, huh⟩ := hu
  have hsched : (u.finish op o).schedule = (w.installs c e).schedule := (schedule_finish ha).trans hus
  obtain ⟨hdis, hstop⟩ := w.flags_installs c e
  refine ⟨(destroyed_finish ..).trans hud, ?_, ?_, ?_, .inr ⟨⟨w.nextGrant, c⟩, ?_⟩⟩
  · rw [hsched, hstop, h.running]
  · rw [hsched, hdis, h.timed]
  · refine Untroubled.cons (w := u) (Untroubled.cons h.untroubled (huh.trans (history_installs ..)) ?_)
      (history_finish ..) fun _ _ hx => by cases hx
    intro _ _ hx
    cases hx
    exact he _
  · refine supplied_installs (e := e) ht hr hl h.unlocked h.running hb hi hc ((current_finish ..).trans huc)
      ((now_reap _).trans hun) (congrArg _ hsched) (fun q p hq => ?_) ?_ ?_
    · rw [point?_finish] at hq
      split at hq
      · cases hq
      · rw [point?, huo] at hq
        exact hp q p ‹_› hq
    · rw [logins_finish, logins, calls, huh, history_installs]
      exact hlog
    · rw [loginsDone_finish]
      exact hdone

/-- Who goes after a credential finds the installed one. -/
theorem of_acquires {purpose : Purpose} (h : Unbroken t w) (hg : Supplied t w g)
    (hu : w.usable? = some g) (hop : ∀ i, ¬ w.Renewing op i) (ha : w'.isAlive = true)
    (hk : Acquires w op purpose w') : Unbroken t w' := by
  cases hk with
  | shut hd => cases hd.symm.trans h.unlocked
  | found _ _ => exact h.finish hg hop ha
  | starts _ hn _ | waits _ hn _ => cases hn.symm.trans hu

/-- Nothing happens to the grant, the tasks, the clock and what was told. -/
theorem same (h : Unbroken t w) (hd : w'.destroyed = w.destroyed) (hs : w'.schedule = w.schedule)
    (hh : w'.history = w.history) (hphase : w'.Awaited ∨ ∃ g, w'.Supplied t g) : Unbroken t w' where
  unlocked := hd.trans h.unlocked
  running := hs ▸ h.running
  timed := hs ▸ h.timed
  untroubled e i hm := h.untroubled e i (hh ▸ hm)
  phase := hphase

/-- The task of the installed grant is started, and its renewal begins. -/
theorem fires (h : Unbroken t w) (hb : Booked w.schedule w.slot) (hg : Supplied t w g)
    {task : Task Job} {s : Schedule Job} (hf : w.Fires m task s) (hdue : w.now ≤ task.due)
    (hl : Leaves g.credential.issued g.credential.ttl t.lead task.due)
    (hno : ∀ q i, ¬ w.Renewing q i) :
    Unbroken t (({ w with schedule := s }.enrolled).call w.nextOperation (.renew g)
      (.renewing g w.now)) := by
  have hs := hf.starts hb.numbered
  have hpoint : ∀ q, (({ w with schedule := s } : World).enrolled.call w.nextOperation (.renew g)
      (.renewing g w.now)).point? q =
        if q = w.nextOperation then some (.renewing g w.now) else w.point? q :=
    fun q => point?_call ..
  refine ⟨h.unlocked, hs.stopped.trans h.running, ?_, ?_, .inr ⟨g, hg.current, hg.above, ?_, ?_, ?_,
    hg.done⟩⟩
  · show s.discipline = .timed
    rw [← h.timed]
    cases hf with
    | due hf => unfold Schedule.startDue at hf; split at hf <;> cases hf; rfl
    | next hf => unfold Schedule.startNext at hf; split at hf <;> cases hf; rfl
  · exact h.untroubled.cons rfl fun _ _ he => by cases he
  · refine .renewal (hb.starts hs).2 ((hpoint _).trans (if_pos rfl)) (hl.mono hdue)
      fun q i ⟨since, hq⟩ => ?_
    rw [hpoint] at hq
    split at hq
    · assumption
    · exact absurd ⟨since, hq⟩ (hno q i)
  · intro q p hq
    rw [hpoint] at hq
    split at hq
    · exact .inr ⟨g, w.now, (Option.some.inj hq).symm⟩
    · exact hg.points q p hq
  · exact hg.logins

/-- The renewal of the installed grant has brought a proper credential. -/
theorem of_renews {i : Grant} {since : Instant} {c : Credential} (h : Unbroken t w)
    (hg : Supplied t w g) (hb : Booked w.schedule w.slot) (ht : w.trigger = .fixed t)
    (hr : t.IsRoomy) (hl : t.lead.IsWhole) (hi : w.now.Counts)
    (hq : w.point? op = some (.renewing i since)) (hc : c.IsProper t w.now) (ha : w'.isAlive = true)
    (hk : Renews w op i (.ok c) w') : Unbroken t w' := by
  obtain ⟨rfl, hone⟩ := hg.renewal hq
  have hcur := isCurrent_of_installed hg.current
  cases hk with
  | discarded hd => cases hd.symm.trans h.unlocked
  | superseded _ hn => cases hn.symm.trans hcur
  | brief _ _ hn =>
    have habove := hc.above
    rw [isBelowThreshold, ht] at hn
    simp only [Trigger.thresholdFor, Bool.and_eq_true, decide_eq_true_eq, Span.le_def] at hn
    rw [Span.lt_def] at habove
    exact absurd hn.2 (Nat.not_le.mpr habove)
  | renewed _ _ _ =>
    have hgr : Unbroken t w.granted := h.same rfl rfl rfl (.inr ⟨i, hg.still rfl rfl rfl rfl rfl rfl⟩)
    refine hgr.installs (u := w.granted.installs c .renewed) ht hr hl hb hi hc .renewed
      (fun _ => ⟨rfl, fun _ he => by cases he⟩) ⟨rfl, current_installs .., now_installs .., ?_,
        operations_installs .., rfl⟩ (fun q p hne hqp => ?_) hg.logins ?_ ha
    · rw [destroyed_installs]
      exact h.unlocked
    · rcases hg.points q p hqp with hqueued | ⟨k, s, rfl⟩
      · exact hqueued
      · exact absurd (hone q k ⟨s, hqp⟩) hne
    · rw [loginsDone_installs]
      exact hg.done

/-- A step of a session that has a proper grant. -/
theorem of_supplied (h : Unbroken t w) (hg : Supplied t w g) (ho : w.IsOrderly)
    (hb : Booked w.schedule w.slot) (ht : w.trigger = .fixed t) (hr : t.IsRoomy)
    (hl : t.lead.IsWhole) (hpos : Span.zero < t.lead) (hf : w.Favours t m) (hp : w.Prompt t)
    (hi : w.now.Counts) (ha : w'.isAlive = true) (hk : Turn w m w') (hheld : w'.held = true) :
    Unbroken t w' := by
  have hu := hg.usable? hpos hr hp
  have hgenr : Supplied t w.enrolled g := hg.still rfl rfl rfl rfl rfl rfl
  have henr : Unbroken t w.enrolled := h.same rfl rfl rfl (.inr ⟨g, hgenr⟩)
  have hnew : ∀ i, ¬ w.Renewing w.nextOperation i := by
    rintro i ⟨s, hs⟩
    cases ho.lookup_next.symm.trans hs
  have hnone : ∀ {op p}, w.point? op = some p → p.isLogin = true → False := fun hq hlog => by
    rcases hg.points _ _ hq with ⟨_, _, rfl⟩ | ⟨_, _, rfl⟩ <;> cases hlog
  have hcur := isCurrent_of_installed hg.current
  cases hk with
  | token _ hk => exact henr.of_acquires hgenr hu hnew ha hk
  | revoke | destroyAgain | destroy => cases hf.asks _ rfl
  | orphan _ hn => cases hn.symm.trans ha
  | @stale _ task _ hfires _ hn =>
    rw [(hg.task hb hfires).1, h.unlocked] at hn
    change (false || !w.isCurrent g) = true at hn
    rw [hcur] at hn
    cases hn
  | @renew _ task s i hfires _ hj _ _ =>
    obtain ⟨hj', hdue, hleaves, hno⟩ := hg.task hb hfires
    cases hj'.symm.trans hj
    exact h.fires hb hg hfires hdue hleaves hno
  | expire hfires _ hj _ _ => cases (hg.task hb hfires).1.symm.trans hj
  | @enter op _ _ _ hlock hq hk =>
    have hgun : Supplied t (w.unlock op) g := hg.still rfl rfl rfl rfl rfl rfl
    have hun : Unbroken t (w.unlock op) := h.same rfl rfl rfl (.inr ⟨g, hgun⟩)
    cases hk with
    | shut hd => cases hd.symm.trans h.unlocked
    | found _ _ =>
      refine hun.finish hgun ?_ ha
      rintro i ⟨s, hs⟩
      cases hq.symm.trans hs
    | shared _ hn _ _ | starts _ hn _ => cases hn.symm.trans hu
  | loginFailed hq | looksUp hq _ | welcome hq _ _ | lookedUp hq _ | notLookedUp hq _ | discarded hq =>
    exact (hnone hq rfl).elim
  | renewed hq hk =>
    obtain ⟨c, rfl, hc⟩ := hf.renewal _ _ _ _ rfl hq
    exact h.of_renews hg hb ht hr hl hi hq hc ha hk
  | revoked hq => rcases hg.points _ _ hq with ⟨_, _, he⟩ | ⟨_, _, he⟩ <;> cases he
  | @abandon op p hq =>
    obtain ⟨_, _, hqueued⟩ := hf.stays op rfl
    exact h.same (destroyed_reap _) (schedule_reap ha) (history_reap _)
      (.inr ⟨g, hg.abandoned hqueued ha⟩)
  | elapse _ hpun => exact h.same rfl rfl rfl (.inr ⟨g, hg.elapse h.timed hpun⟩)
  | release => rw [release, held_reap] at hheld; cases hheld
  | stop => exact absurd rfl hf.runs
  | listen | unlisten => exact h.same rfl rfl rfl (.inr ⟨g, hg.still rfl rfl rfl rfl rfl rfl⟩)

end Unbroken

end World

end Session

end LeaseKeeper
