import LeaseKeeper.Proofs.Session.Supply

/-!
# Sessions that are never interrupted

If the first login brings a credential that lasts for longer than the threshold, and every renewal
brings another one in less than the lead time, then from the first login on there is always a
credential whose lifetime is not over (`uninterrupted`). Every step that keeps to these conditions
leaves a session as it should be (`Unbroken.turn`): a session that waits for its first login goes on
to do so or has the grant of that login (`Unbroken.of_awaited`), and one that has a grant keeps one.
-/

namespace LeaseKeeper.Session

namespace World

variable {w u v w' : World} {m : Move} {op : Nat} {t : FixedTrigger} {g : Grant}

/-- While somebody logs in, there has been one login. -/
theorem Awaited.logins_eq_one (h : w.Awaited) (ho : w.IsOrderly) {p : Point}
    (hq : w.point? op = some p) (hlog : p.isLogin = true) : w.logins = 1 := by
  rcases h.logins with ⟨hlock, -⟩ | ⟨hone, -⟩
  · have hm := (ho.mem_lock op).mpr ⟨p, hq, Point.wantsLock_of_isLogin hlog⟩
    rw [hlock] at hm
    cases hm
  · exact hone

/-- While the lock is free, nobody has logged in. -/
theorem Awaited.logins_eq_zero (h : w.Awaited) (ho : w.IsOrderly) (hlock : w.lock = []) :
    w.logins = 0 := by
  rcases h.logins with ⟨-, hz⟩ | ⟨-, op, p, hq, hlog⟩
  · exact hz
  · have hm := (ho.mem_lock op).mpr ⟨p, hq, Point.wantsLock_of_isLogin hlog⟩
    rw [hlock] at hm
    cases hm

/-- Nothing happens but that operations end that did not log in, or that others begin to wait. -/
theorem Awaited.same (h : w.Awaited) (hc : w'.current = w.current)
    (hs : w'.schedule.live = w.schedule.live)
    (hp : ∀ q p, w'.point? q = some p →
      w.point? q = some p ∨ ∃ observed purpose, p = .queued observed purpose)
    (hk : ∀ q p, w.point? q = some p → p.isLogin = true → w'.point? q = some p)
    (hl : w'.logins = w.logins) (hlock : w.lock = [] → w'.lock = []) (hd : w'.loginsDone = w.loginsDone) :
    w'.Awaited where
  bare := hc.trans h.bare
  idle := hs.trans h.idle
  points q p hq := by
    rcases hp q p hq with hq | ⟨_, _, rfl⟩
    · exact h.points q p hq
    · exact ⟨rfl, fun _ _ he => by cases he⟩
  logins := by
    rcases h.logins with ⟨hn, hz⟩ | ⟨hone, o, p, hq, hlog⟩
    · exact .inl ⟨hlock hn, hl.trans hz⟩
    · exact .inr ⟨hl.trans hone, o, p, hk o p hq hlog, hlog⟩
  done := hd.trans h.done

/-- An operation that logs in, or begins to, goes to another point of the login. -/
theorem Awaited.call (h : w.Awaited) {k : Call} {p : Point} (hlog : p.isLogin = true)
    (hnd : ∀ purpose g, p ≠ .discarding purpose g) (hone : (w.call op k p).logins = 1) :
    (w.call op k p).Awaited where
  bare := h.bare
  idle := h.idle
  points q r hq := by
    rw [point?_call] at hq
    split at hq
    · cases hq
      exact ⟨Point.wantsLock_of_isLogin hlog, hnd⟩
    · exact h.points q r hq
  logins := .inr ⟨hone, op, p, by rw [point?_call, if_pos rfl], hlog⟩
  done := h.done

theorem Awaited.still (h : w.Awaited) (hc : w'.current = w.current) (hs : w'.schedule = w.schedule)
    (ho : w'.operations = w.operations) (hh : w'.history = w.history) (hl : w'.lock = w.lock)
    (hd : w'.loginsDone = w.loginsDone) : w'.Awaited :=
  h.same hc (congrArg _ hs) (fun q p hq => .inl (by rwa [point?, ho] at hq))
    (fun q p hq _ => by rwa [point?, ho]) (logins_of_history hh) (fun hn => hl.trans hn) hd

/-- Who waits for the lock gives up. -/
theorem Awaited.abandoned (h : w.Awaited) {observed : Nat} {purpose : Purpose}
    (hq : w.point? op = some (.queued observed purpose)) (ha : (w.abandoned op).isAlive = true) :
    (w.abandoned op).Awaited := by
  refine h.same (current_reap _) (congrArg _ (schedule_reap ha)) (fun q p hqp => .inl ?_)
    (fun q p hqp hlog => ?_) (logins_of_history (history_reap _)) (fun hn => ?_) (loginsDone_reap _)
  · rw [point?_abandoned] at hqp
    split at hqp
    · cases hqp
    · exact hqp
  · rw [point?_abandoned, if_neg]
    · exact hqp
    · rintro rfl
      cases hq.symm.trans hqp
      cases hlog
  · rw [lock_reap]
    show w.lock.filter _ = []
    rw [hn]
    rfl

namespace Unbroken

/-- A login has brought what it comes to, which is proper. -/
theorem of_welcomes {p : Point} {purpose : Purpose} {c : Credential} (h : Unbroken t w)
    (hw : w.Awaited) (ho : w.IsOrderly) (hb : Booked w.schedule w.slot) (ht : w.trigger = .fixed t)
    (hr : t.IsRoomy) (hl : t.lead.IsWhole) (hi : w.now.Counts) (hq : w.point? op = some p)
    (hlog : p.isLogin = true) (hc : c.IsProper t w.now) (ha : w'.isAlive = true)
    (hk : Welcomes w op purpose c w') : Unbroken t w' := by
  cases hk with
  | late hd _ | dropped hd _ => cases hd.symm.trans h.unlocked
  | installed _ =>
    rw [endLogin_eq] at ha ⊢
    refine h.installs (u := { w.installs c .created with
        lastFault := faultOf (.ok ⟨w.nextGrant, c⟩), loginsDone := (w.installs c .created).loginsDone + 1,
        lock := (w.installs c .created).lock.filter (· != op) })
      ht hr hl hb hi hc .created (fun _ => ⟨rfl, fun _ he => by cases he⟩) ⟨rfl, current_installs ..,
        now_installs .., (destroyed_installs ..).trans h.unlocked, operations_installs .., rfl⟩
      (fun q p hne hqp => ?_) (hw.logins_eq_one ho hq hlog) (Nat.succ_pos _) ha
    -- Whoever else has a place in the queue waits, as only one operation logs in.
    obtain ⟨hwants, hnd⟩ := hw.points q p hqp
    cases p with
    | queued observed purpose => exact ⟨observed, purpose, rfl⟩
    | loggingIn | lookingUp => exact absurd (ho.login_unique hqp rfl hq hlog) hne
    | discarding _ _ => exact absurd rfl (hnd _ _)
    | renewing | revoking => cases hwants

/-- Somebody asks for a token before the first login, and logs in or waits. -/
theorem of_asks (h : Unbroken t w) (hw : w.Awaited) (ho : w.IsOrderly)
    (hk : Acquires w.enrolled w.nextOperation .caller w') : Unbroken t w' := by
  cases hk with
  | shut hd => cases hd.symm.trans h.unlocked
  | found _ hn =>
    have hu : w.usable? = none := by rw [World.usable?, hw.bare]; rfl
    cases hn.symm.trans hu
  | starts _ _ hlock =>
    -- Nothing is installed, so there is nothing to drop.
    have hd : ({ w.enrolled with lock := [w.nextOperation] } : World).dropExpired =
        { w.enrolled with lock := [w.nextOperation] } := by
      rw [dropExpired]
      split
      · rename_i hc
        cases hc.symm.trans hw.bare
      · rfl
    rw [hd]
    refine ⟨h.unlocked, h.running, h.timed, h.untroubled.cons rfl fun _ _ he => (by cases he), .inl ?_⟩
    refine ⟨hw.bare, hw.idle, fun q p hq => ?_,
      .inr ⟨?_, w.nextOperation, .loggingIn .caller w.now, ?_, rfl⟩, hw.done⟩
    · rw [point?_call] at hq
      split at hq
      · cases hq
        exact ⟨rfl, fun _ _ he => by cases he⟩
      · exact hw.points q p hq
    · rw [logins_call_login]
      exact congrArg (· + 1) (hw.logins_eq_zero ho hlock)
    · rw [point?_call, if_pos rfl]
  | waits _ _ hlock =>
    refine h.same rfl rfl rfl (.inl (hw.same rfl rfl (fun q p hq => ?_) (fun q p hq _ => ?_) rfl
      (fun hn => absurd hn hlock) rfl))
    · rw [point?_setPoint] at hq
      split at hq
      · exact .inr ⟨_, _, (Option.some.inj hq).symm⟩
      · exact .inl hq
    · rw [point?_setPoint, if_neg]
      · exact hq
      · rintro rfl
        cases ho.lookup_next.symm.trans hq

/-- A step of a session before its first login. -/
theorem of_awaited (h : Unbroken t w) (hw : w.Awaited) (ho : w.IsOrderly)
    (hb : Booked w.schedule w.slot) (ht : w.trigger = .fixed t) (hr : t.IsRoomy)
    (hl : t.lead.IsWhole) (hf : w.Favours t m) (hi : w.now.Counts) (ha : w'.isAlive = true)
    (hk : Turn w m w') (hheld : w'.held = true) : Unbroken t w' := by
  have hnofire : ∀ {task s}, w.Fires m task s → False := fun hfires => by
    have hm := (hfires.starts hb.numbered).mem
    rw [hw.idle] at hm
    cases hm
  have hstill : ∀ {u : World}, u.current = w.current → u.schedule = w.schedule →
      u.operations = w.operations → u.history = w.history → u.lock = w.lock →
      u.loginsDone = w.loginsDone → u.destroyed = w.destroyed → Unbroken t u :=
    fun hc hs hops hh hlock hd hdes => h.same hdes hs hh (.inl (hw.still hc hs hops hh hlock hd))
  cases hk with
  | token _ hk => exact h.of_asks hw ho hk
  | revoke | destroyAgain | destroy => cases hf.asks _ rfl
  | orphan hfires _ | stale hfires _ _ | renew hfires _ _ _ _ | expire hfires _ _ _ _ =>
    exact (hnofire hfires).elim
  | @enter op _ _ _ hlock hq _ =>
    -- The head of the queue logs in.
    rcases hw.logins with ⟨hn, -⟩ | ⟨-, o, p, hop, hlog⟩
    · rw [hn] at hlock
      cases hlock
    · cases (ho.head o p hop hlog).symm.trans hlock
      cases hop.symm.trans hq
      cases hlog
  | @loginFailed op _ _ f hq =>
    obtain ⟨g, he, -⟩ := hf.login op (.error f) hw.done (by simp only [finishes?, hq])
    cases he
  | @looksUp op purpose since c hq _ =>
    have hwt : (w.timed true since).Awaited := hw.still rfl rfl rfl rfl rfl rfl
    refine ⟨h.unlocked, h.running, h.timed, h.untroubled.cons rfl fun _ _ he => (by cases he), .inl ?_⟩
    exact hwt.call rfl (fun _ _ he => by cases he) (hw.logins_eq_one ho hq rfl)
  | @welcome op purpose since c _ hq hlook hk =>
    obtain ⟨g, he, hc⟩ := hf.login op (.ok ⟨w.nextGrant, c⟩) hw.done (by
      simp only [finishes?, hq, hlook, delivers?, h.unlocked, Bool.false_eq_true, if_false])
    cases he
    have htimed : Unbroken t (w.timed true since) := hstill rfl rfl rfl rfl rfl rfl rfl
    have hwt : (w.timed true since).Awaited := hw.still rfl rfl rfl rfl rfl rfl
    exact htimed.of_welcomes (w := w.timed true since) (p := .loggingIn purpose since) hwt ho hb ht hr hl
      hi hq rfl hc ha hk
  | @lookedUp op purpose c found _ hq hk =>
    obtain ⟨g, he, hc⟩ := hf.login op (.ok ⟨w.nextGrant, c.withLease w.now found.ttl found.renewable⟩)
      hw.done (by simp only [finishes?, hq, delivers?, h.unlocked, Bool.false_eq_true, if_false])
    cases he
    exact h.of_welcomes hw ho hb ht hr hl hi hq rfl hc ha hk
  | @notLookedUp op purpose c f _ hq hk =>
    obtain ⟨g, he, hc⟩ := hf.login op (.ok ⟨w.nextGrant, c⟩) hw.done (by
      simp only [finishes?, hq, delivers?, h.unlocked, Bool.false_eq_true, if_false])
    cases he
    exact h.of_welcomes hw ho hb ht hr hl hi hq rfl hc ha hk
  | discarded hq => exact absurd rfl ((hw.points _ _ hq).2 _ _)
  | renewed hq _ | revoked hq => cases (hw.points _ _ hq).1
  | @abandon op p hq =>
    obtain ⟨_, _, hqueued⟩ := hf.stays op rfl
    exact h.same (destroyed_reap _) (schedule_reap ha) (history_reap _) (.inl (hw.abandoned hqueued ha))
  | release => rw [release, held_reap] at hheld; cases hheld
  | stop => exact absurd rfl hf.runs
  | elapse | listen | unlisten => exact hstill rfl rfl rfl rfl rfl rfl rfl

theorem turn (h : Unbroken t w) (ho : w.IsOrderly) (hb : Booked w.schedule w.slot)
    (ht : w.trigger = .fixed t) (hr : t.IsRoomy) (hl : t.lead.IsWhole) (hpos : Span.zero < t.lead)
    (hf : w.Favours t m) (hp : w.Prompt t) (hi : w.now.Counts) (hk : Turn w m w')
    (hheld : w'.held = true) : Unbroken t w' := by
  have ha := alive_of_held hheld
  rcases h.phase with hw | ⟨g, hg⟩
  · exact h.of_awaited hw ho hb ht hr hl hf hi ha hk hheld
  · exact h.of_supplied hg ho hb ht hr hl hpos hf hp hi ha hk hheld

theorem initial (settings : Settings) (draws : Nat → Nat) :
    Unbroken t (World.initial settings .timed draws) where
  unlocked := rfl
  running := rfl
  timed := rfl
  untroubled _ _ h := by cases h
  phase := .inl ⟨rfl, rfl, fun _ _ h => (by cases h), .inl ⟨rfl, rfl⟩, rfl⟩

end Unbroken

/-- What callers may rely on in a session that is not interrupted. -/
structure Uninterrupted (lead : Span) (w : World) : Prop where
  /-- From the first login on, there is a credential whose lifetime is not over. -/
  installed : 0 < w.loginsDone → ∃ g, w.current = some g ∧ Span.zero < g.credential.remaining w.now
  /-- There was one login. -/
  once : 0 < w.loginsDone → w.calls (· == .login) = 1
  /-- No error was told, nor that a token was dropped. -/
  untroubled : ∀ e i, .published e i ∈ w.history → e.isError = false ∧ ∀ g, e ≠ .loginTokenExpired g
  /-- Each renewal began when at least the lead time was left. -/
  early : ∀ op g since, w.point? op = some (.renewing g since) → lead ≤ g.credential.remaining since

theorem Unbroken.goesOn (h : Unbroken t w) (hpos : Span.zero < t.lead) (hr : t.IsRoomy)
    (hp : w.Prompt t) : w.Uninterrupted t.lead where
  installed hd := by
    rcases h.phase with hw | ⟨g, hg⟩
    · exact absurd hd (by rw [hw.done]; exact Nat.lt_irrefl _)
    · exact ⟨g, hg.current, hg.remaining hpos hr hp⟩
  once hd := by
    rcases h.phase with hw | ⟨g, hg⟩
    · exact absurd hd (by rw [hw.done]; exact Nat.lt_irrefl _)
    · exact hg.logins
  untroubled := h.untroubled
  early op i since hq := by
    rcases h.phase with hw | ⟨g, hg⟩
    · cases (hw.points op _ hq).1
    · cases hg.minded with
      | task _ _ _ _ hno => exact absurd ⟨since, hq⟩ (hno op i)
      | renewal _ hop hl hone =>
        cases hone op i ⟨since, hq⟩
        cases hop.symm.trans hq
        exact hl.le_remaining (hr.lead_le hg.above)

end World

open World

/-- A run under which a session is never interrupted. -/
structure Favourable (t : FixedTrigger) (start : World) (ms : List Move) : Prop where
  favours : ∀ u m v, Passes start ms u m v → u.Favours t m
  prompt : ∀ v, Visits start ms v → v.Prompt t
  counts : ∀ v, Visits start ms v → v.now.Counts

/-- Under the trigger of a lead time, with any jitter: as long as the session is held, it is not
interrupted. -/
theorem uninterrupted {lead jitter : Span} {t : FixedTrigger} {selfLookup canLogInAgain : Bool}
    {draws : Nat → Nat} {ms : List Move} {v : World} (ht : FixedTrigger.ofLead? lead = some t)
    (hpos : Span.zero < lead) (hwhole : lead.IsWhole)
    (h : Favourable (t.withJitter jitter)
      (World.initial ⟨.fixed (t.withJitter jitter), selfLookup, canLogInAgain⟩ .timed draws) ms)
    (hv : Visits (World.initial ⟨.fixed (t.withJitter jitter), selfLookup, canLogInAgain⟩ .timed draws)
      ms v)
    (hheld : v.held = true) : v.Uninterrupted lead := by
  obtain ⟨hlead, hroomy⟩ := FixedTrigger.isRoomy_ofLead? ht jitter
  have hunbroken := hv.keeps (P := fun v => v.held = true → Unbroken (t.withJitter jitter) v)
    (fun _ => .initial _ _) fun u m u' hp hu hh => by
      obtain ⟨hvu, -⟩ := hp.visits
      obtain ⟨ho, hb, htr⟩ := hvu.settled
      have hk := turn_of_step hp.step
      exact (hu (held_of_turn hk hh)).turn ho hb htr hroomy (hlead ▸ hwhole) (hlead ▸ hpos)
        (h.favours u m u' hp) (h.prompt u hvu) (h.counts u hvu) hk hh
  exact hlead ▸ (hunbroken hheld).goesOn (hlead ▸ hpos) hroomy (h.prompt v hv)

/-! ## A run of that kind -/

theorem Favourable.nil {t : FixedTrigger} {start : World} (hp : start.Prompt t)
    (hc : start.now.Counts) : Favourable t start [] := by
  have hvisits : ∀ v, Visits start [] v → v = start := fun v ⟨ns, hpre, hv⟩ => by
    cases List.prefix_nil.mp hpre
    exact (Option.some.inj hv).symm
  refine ⟨fun u m v ⟨ns, hpre, _⟩ => absurd (List.prefix_nil.mp hpre) (by simp), fun v hv => ?_,
    fun v hv => ?_⟩
  · exact hvisits v hv ▸ hp
  · exact hvisits v hv ▸ hc

theorem Favourable.cons {t : FixedTrigger} {start next : World} {m : Move} {ms : List Move}
    (hs : step start m = some next) (hf : start.Favours t m) (hp : start.Prompt t)
    (hc : start.now.Counts) (h : Favourable t next ms) : Favourable t start (m :: ms) where
  favours u k v hpass := by
    rcases passes_cons hs hpass with ⟨rfl, rfl⟩ | hrest
    · exact hf
    · exact h.favours u k v hrest
  prompt v hv := (visits_cons hs hv).elim (fun he => he ▸ hp) (h.prompt v)
  counts v hv := (visits_cons hs hv).elim (fun he => he ▸ hc) (h.counts v)

/-- A move by which nobody answers and nobody gives anything up. -/
theorem World.Favours.plain {t : FixedTrigger} {w : World} {m : Move}
    (hb : ∀ r, m = .begin r → r = .token) (hs : m ≠ .stop) (ha : ∀ op, m ≠ .abandon op)
    (hn : ∀ op r, m ≠ .answer op r) : w.Favours t m where
  asks := hb
  runs := hs
  stays op he := absurd he (ha op)
  login op r _ hf := by
    cases m with
    | answer o k => exact absurd rfl (hn o k)
    | _ => cases hf
  renewal op r _ _ he := absurd he (hn op _)

/-- A session under the trigger of ten seconds, with jitter. -/
def clocked : World := .initial ⟨.fixed jittery, false, true⟩ .timed fun _ => 0

/-- A credential of a minute that is issued after so many seconds. -/
def issuedAt (seconds : Nat) : Credential := .ofLogin ⟨seconds * 1000⟩ "s.login" (.ofSeconds 60) true

/-- A login, and a renewal that takes five seconds, during which somebody asks for a credential. -/
def renewedInTime : List Move :=
  [.begin .token, .answer 0 (.login (.ok (issuedAt 0))), .elapse ⟨50000⟩, .fire 1, .elapse ⟨55000⟩,
    .begin .token, .answer 1 (.renewal (.ok (issuedAt 55)))]

theorem isProper_issuedAt (seconds : Nat) : (issuedAt seconds).IsProper jittery ⟨seconds * 1000⟩ := by
  have habove : jittery.threshold < Span.ofSeconds 60 := by decide
  exact ⟨rfl, rfl, habove, ⟨60000, rfl⟩⟩

theorem favourable_renewedInTime : Favourable jittery clocked renewedInTime := by
  have hidle : ∀ {w : World}, w.operations.filter (fun x => x.2.call? != some .login) = [] →
      w.Prompt jittery := fun h op g s hq => by
    have hm := List.filter_eq_nil_iff.mp h _ (lookup_mem hq)
    simp [Point.call?] at hm
  have hbusy : ∀ {w : World} {n : Nat} {i : Instant}, w.operations = [(1, .renewing ⟨n, issuedAt 0⟩ i)] →
      w.now.since i < jittery.lead → w.Prompt jittery := fun h hl op g s hq => by
    have hm := lookup_mem hq
    rw [h, List.mem_singleton] at hm
    cases hm
    exact hl
  refine .cons rfl (.plain (by simp) (by simp) (by simp) (by simp)) (hidle rfl) (by decide) ?_
  refine .cons rfl ⟨by simp, by simp, by simp, fun op r _ hf => ?_, fun op r g s he hq => ?_⟩
    (hidle rfl) (by decide) ?_
  · cases hf
    exact ⟨_, rfl, isProper_issuedAt 0⟩
  · cases he
  refine .cons rfl (.plain (by simp) (by simp) (by simp) (by simp)) (hidle rfl) (by decide) ?_
  refine .cons rfl (.plain (by simp) (by simp) (by simp) (by simp)) (hidle rfl) (by decide) ?_
  refine .cons rfl (.plain (by simp) (by simp) (by simp) (by simp)) (hbusy rfl (by decide)) (by decide) ?_
  refine .cons rfl (.plain (by simp) (by simp) (by simp) (by simp)) (hbusy rfl (by decide)) (by decide) ?_
  refine .cons rfl ⟨by simp, by simp, by simp, fun op r hd _ => ?_, fun op r g s he hq => ?_⟩
    (hbusy rfl (by decide)) (by decide) (.nil (hidle rfl) (by decide))
  · cases hd
  · cases he
    exact ⟨_, rfl, isProper_issuedAt 55⟩

/-- At the end of that run the renewed credential is there, and the session was not interrupted. -/
theorem uninterrupted_renewedInTime :
    ∃ v, run? clocked renewedInTime = some v ∧ v.current = some ⟨1, issuedAt 55⟩ ∧ v.loginsDone = 1 ∧
      v.Uninterrupted (.ofSeconds 10) := by
  have ht : FixedTrigger.ofLead? (.ofSeconds 10) = some tenSeconds := by decide
  exact ⟨_, rfl, rfl, rfl, uninterrupted ht (by decide) ⟨10000, rfl⟩ favourable_renewedInTime
    ⟨renewedInTime, List.prefix_rfl, rfl⟩ rfl⟩

end LeaseKeeper.Session
