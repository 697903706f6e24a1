import LeaseKeeper.Proofs.Leases.Care
import LeaseKeeper.Proofs.Leases.Confinement
import LeaseKeeper.Proofs.Timing

/-!
# Secrets that are looked after in time

While nobody holds the lock of a rotating secret, at least the lead time is left of its lease, and
who takes the lock to renew the lease or to fetch the secret again began when that much was left
(`Served`); if that takes less than the lead time, the lease lasts meanwhile (`Served.remaining`).
Under the conditions of `Favours` a step leaves the snapshot as it is (`Steady`) or brings a proper
one (`Fresh`), and either way the secret stays served (`Served.turn`).
-/

namespace LeaseKeeper

/-- A lease that is granted at that instant and lasts for longer than the threshold, in whole
milliseconds. -/
structure Lease.IsProper (l : Lease) (t : FixedTrigger) (i : Instant) : Prop where
  issued : l.issued = i
  above : t.threshold < l.ttl
  whole : l.ttl.IsWhole

/-- At that instant, at least the lead time is left of a lease. -/
def Lease.Leaves (l : Lease) (lead : Span) (i : Instant) : Prop :=
  LeaseKeeper.Leaves l.issued l.ttl lead i

namespace Lease.IsProper

variable {l : Lease} {t : FixedTrigger} {i : Instant}

/-- All of a lifetime is left at its beginning. -/
theorem leaves (h : l.IsProper t i) (hr : t.IsRoomy) :
    l.Leaves t.lead i := by
  have hle := hr.lead_le h.above
  rw [Span.le_def] at hle
  unfold Lease.Leaves LeaseKeeper.Leaves
  rw [h.issued]
  omega

theorem remaining (h : l.IsProper t i) :
    l.remaining i = l.ttl := by
  apply Span.ext
  rw [Lease.remaining, Span.nanos_sub, Instant.nanos_since, h.issued, Nat.sub_self, Nat.zero_mul]
  omega

theorem isZero (h : l.IsProper t i) : l.ttl.isZero = false := by
  have habove := h.above
  rw [Span.lt_def] at habove
  simp only [Span.isZero, beq_eq_false_iff_ne]
  omega

end Lease.IsProper

namespace Leases

/-- An operation stands there while the server renews the lease of a secret, or fetches it again. -/
def Point.Calls (h : Handle) : Point → Prop
  | renewing k _ _ => k = h
  | rotating k _ _ => k = h
  | _ => False

theorem Point.Calls.holds {h : Handle} {p : Point} (hp : p.Calls h) : p.holds? = some h := by
  cases p <;> first | exact congrArg some hp | exact hp.elim

/-- The server works for a secret on behalf of that operation. -/
def AtServer (w : World) (op : Nat) (h : Handle) : Prop := ∃ p, w.point? op = some p ∧ p.Calls h

namespace World

/-- What a fetch brings for a secret by a move. -/
def fetched? (w : World) (h : Handle) : Move → Option SecretData
  | .answer op (.fetched (.ok (some secret))) =>
    if (w.point? op).bind Point.wants? = some h then some secret.data else none
  | _ => none

/-- A move under which a rotating secret is always served: nobody removes it, shuts the engine down or
stops the scheduler, every fetch brings a secret, every lease that is granted to it is proper, and
time passes only when nobody to whom its lock was handed has still to go on. -/
structure Favours (t : FixedTrigger) (h : Handle) (w : World) (m : Move) : Prop where
  keeps : m ≠ .begin (.remove h)
  stays : m ≠ .begin .destroy
  runs : m ≠ .stop
  rotates : ∀ r source, m = .begin (.add r source) → h.serial = w.nextHandle → r.mode = .rotating
  fetches : ∀ op r, m = .answer op (.fetched r) → (w.point? op).bind Point.wants? = some h →
    ∃ secret, r = .ok (some secret) ∧ secret.lease.IsProper t w.now
  renewals : ∀ op l, m = .answer op (.renewal (.ok l)) → (w.point? op).bind Point.wants? = some h →
    l.IsProper t w.now
  unhurried : ∀ i op errand, m = .elapse i → w.now < i → w.point? op = some (.queued h errand) →
    w.enter op = none

end World

open World

/-- A registered secret that is fetched again when it is lost has a lease that lasts: its task is due
when the lead time is left, and so much was left when whoever is at the server came there, as
`since` tells. -/
structure Served (t : FixedTrigger) (h : Handle) (since : Nat → Instant → Prop) (w : World)
    (e : Entry) (s : Snapshot) : Prop where
  face : w.face? h = some e
  registered : e.standing = .registered
  rotating : e.isRotating = true
  snapshot : e.snapshot = some s
  above : t.threshold < s.lease.ttl
  tasks : ∀ k ∈ w.schedule.live, k.job.handle = h → w.now ≤ k.due ∧ s.lease.Leaves t.lead k.due
  idle : (∀ op, ¬ AtServer w op h) → s.lease.Leaves t.lead w.now
  busy : ∀ op, AtServer w op h → ∃ a, since op a ∧ s.lease.Leaves t.lead a

/-- The entry of a secret keeps its snapshot, its standing and its mode, and who is at the server for
it stays there; no task is new, and no time passes. -/
structure Steady (h : Handle) (w w' : World) : Prop where
  now : w'.now = w.now
  face : ∀ e, w.face? h = some e → ∃ e', w'.face? h = some e' ∧ e'.snapshot = e.snapshot ∧
    e'.standing = e.standing ∧ e'.request = e.request
  tasks : ∀ k ∈ w'.schedule.live, k.job.handle = h → k ∈ w.schedule.live
  stays : ∀ op, AtServer w op h → AtServer w' op h

/-- A proper snapshot has just been installed, and its task is due when the lead time is left. -/
structure Fresh (t : FixedTrigger) (h : Handle) (w : World) (s : Snapshot) : Prop where
  face : ∃ e, w.face? h = some e ∧ e.standing = .registered ∧ e.isRotating = true ∧
    e.snapshot = some s
  proper : s.lease.IsProper t w.now
  tasks : ∀ k ∈ w.schedule.live, k.job.handle = h → w.now ≤ k.due ∧ s.lease.Leaves t.lead k.due

variable {c : Prop} {w w' u : World} {m : Move} {op n : Nat} {h : Handle} {e f : Entry} {s : Snapshot}
  {t : FixedTrigger} {since since' : Nat → Instant → Prop} {p : Option Point}
  {added : List LeaseChange} {care : Care}

/-! ## The lease lasts -/

theorem Served.remaining (hs : Served t h since w e s) (hpos : Span.zero < t.lead) (hr : t.IsRoomy)
    (hp : ∀ op a, AtServer w op h → since op a → w.now.since a < t.lead) :
    Span.zero < s.lease.remaining w.now := by
  have httl := hr.lead_le hs.above
  by_cases hat : ∃ op, AtServer w op h
  · obtain ⟨op, hop⟩ := hat
    obtain ⟨a, ha, hl⟩ := hs.busy op hop
    exact hl.lasts (Nat.lt_of_lt_of_le hpos httl) (hp op a hop ha)
  · exact Nat.lt_of_lt_of_le hpos ((hs.idle fun op hop => hat ⟨op, hop⟩).le_remaining httl)

/-! ## A proper snapshot is looked after -/

/-- The task of a proper snapshot is due when the lead time is left. -/
theorem tasks_scheduleCare (ht : u.trigger = .fixed t) (hr : t.IsRoomy) (hl : t.lead.IsWhole)
    (hb : u.Booked) (hi : u.now.Counts) (hs : s.lease.IsProper t u.now) (hlive : u.isLive e = true)
    (he : e.isRotating = true) :
    ∀ k ∈ (u.scheduleCare e s).schedule.live, k.job.handle = e.handle →
      u.now ≤ k.due ∧ s.lease.Leaves t.lead k.due := by
  have hwants : wantsCare e s.lease = true := by simp [wantsCare, hs.isZero, he]
  have hthr : ¬ s.lease.ttl ≤ u.trigger.thresholdFor s.lease.ttl := by
    rw [ht, Trigger.thresholdFor]
    exact Nat.not_le.mpr hs.above
  have hask : u.askTrigger (s.lease.remaining u.now) =
      (some (t.delay (u.draws u.drawn) s.lease.ttl), (u.askTrigger s.lease.ttl).2) := by
    rw [hs.remaining, World.askTrigger, ht]
    rfl
  unfold World.scheduleCare
  rw [if_neg (by simp [hlive]), if_neg (by simp [hwants]), if_neg hthr, hask]
  dsimp only
  intro k hk hh
  have hbv : (u.askTrigger s.lease.ttl).2.Booked := hb.same rfl fun _ => rfl
  generalize (if s.lease.canRenew = true then Action.renew else Action.expire) = a at hk
  cases hentry : World.entry? (u.askTrigger s.lease.ttl).2 e.handle with
  | none =>
    -- There is no entry, so no task either.
    rw [World.replaceTask, hentry] at hk
    obtain ⟨f, hf, -⟩ := hbv.slot_live k hk
    cases hentry.symm.trans (hh ▸ hf)
  | some f =>
    rcases (hbv.replaceTask hentry (t.delay (u.draws u.drawn) s.lease.ttl) s a).2.1 k hk with
      ⟨-, hne⟩ | rfl
    · exact absurd hh hne
    · refine ⟨Instant.le_plus _ _, ?_⟩
      unfold Lease.Leaves
      rw [hs.issued]
      exact t.leaves_plus hr (Nat.le_of_lt hs.above) hl hs.whole hi _

theorem schedule_finish (w : World) (op : Nat) (o : Outcome) (ha : (w.finish op o).isAlive = true) :
    (w.finish op o).schedule = w.schedule := by
  unfold World.finish at ha ⊢
  rw [reap_of_isAlive ha]
  rfl

/-- A proper snapshot that was installed has been told and is looked after, and its operation
ends. -/
theorem fresh_of_care (ht : w.trigger = .fixed t) (hr : t.IsRoomy) (hl : t.lead.IsWhole)
    (hi : w.now.Counts) (hd : w.destroyed = false) (hx : Confined False w u op e.handle)
    (hf : Frame False w u op e.handle (some f) p added care n) (he : e.standing ≠ .removed)
    (hrot : e.isRotating = true) (hreg : f.standing = .registered) (hfrot : f.isRotating = true)
    (hsnap : f.snapshot = some s) (hs : s.lease.IsProper t w.now) (k : LeaseChange) (o : Outcome)
    (ha : (((u.publish e k).scheduleCare e s).leave op e.handle o).isAlive = true) :
    Fresh t e.handle (((u.publish e k).scheduleCare e s).leave op e.handle o) s := by
  have hlive : (u.publish e k).isLive e = true := by
    rw [World.isLive, destroyed_publish, hf.destroyed, hd]
    simpa using he
  have hp := hf.publish rfl k
  obtain ⟨care', -, hcare⟩ := hp.scheduleCare rfl hlive s
  have hleft := hcare.leave o False.elim
  have hnow : (u.publish e k).now = w.now := hx.now
  have hnow' : (((u.publish e k).scheduleCare e s).leave op e.handle o).now = w.now := by
    have hc := (hx.publish rfl k).scheduleCare s
    have hun := hc.unlock op
    show (World.reap _).now = _
    obtain ⟨_, _, heq, -⟩ := World.reap_eq (({ ((u.publish e k).scheduleCare e s).unlock op e.handle with
      operations := _ } : World).note (.ended op o))
    rw [heq]
    exact hun.now
  refine ⟨⟨_, hleft.face, hreg, hfrot, hsnap⟩, hnow' ▸ hs, fun q hq hh => ?_⟩
  have hsched := schedule_finish (((u.publish e k).scheduleCare e s).unlock op e.handle) op o ha
  unfold World.leave at hq
  rw [hsched] at hq
  rw [hnow', ← hnow]
  exact tasks_scheduleCare (hp.fixed t ht) hr hl hp.booked (hnow ▸ hi) (hnow ▸ hs) hlive hrot q hq hh

/-! ## Steps that leave the snapshot alone -/

theorem Point.Calls.wants {q : Point} (hq : q.Calls h) : q.wants? = some h :=
  Point.wants?_of_holds? hq.holds

/-- Nobody but the holder of the lock is at the server. -/
theorem AtServer.unique (ho : Orderly w) {a b : Nat} (ha : AtServer w a h) (hb : AtServer w b h) :
    a = b := by
  obtain ⟨_, hp, hcp⟩ := ha
  obtain ⟨_, hq, hcq⟩ := hb
  exact ho.holder_unique hp hcp.holds hq hcq.holds

namespace Steady

/-- An operation gets on that was not at the server, or stays there. -/
theorem of_frame {l : List Nat} (he : w.face? h = some f)
    (hf : Frame c w u op h (some { f with lock := l }) p added care n) (hnow : u.now = w.now)
    (hcare : ∀ k, care.Allows w h k → k ∈ w.schedule.live)
    (hop : AtServer w op h → AtServer u op h) : Steady h w u where
  now := hnow
  face e' he' := by
    cases he.symm.trans he'
    exact ⟨_, hf.face, rfl, rfl, rfl⟩
  tasks k hk hh := hcare k (hf.own k hk hh)
  stays a ha := by
    by_cases hao : a = op
    · exact hao ▸ hop (hao ▸ ha)
    · obtain ⟨q, hq, hc⟩ := ha
      exact ⟨q, (hf.points a hao).trans hq, hc⟩

/-- A step on another secret. -/
theorem of_confined {k : Handle} (hk : k ≠ h) (hx : Confined c w u op k) (hop : Wanting w op k)
    (ho : Orderly w) : Steady h w u := by
  obtain ⟨_, _, _, _, _, hf⟩ := hx.frame
  refine ⟨hx.now, fun e he => ⟨e, (hf.faces h hk.symm).trans he, rfl, rfl, rfl⟩,
    fun q hq hh => hf.others q hq (hh ▸ hk.symm), fun a ⟨q, hq, hc⟩ => ?_⟩
  refine ⟨q, ?_, hc⟩
  rw [hf.points a]
  · exact hq
  rintro rfl
  rcases hop with rfl | ⟨r, hr, hw⟩
  · cases ho.point?_next.symm.trans hq
  · cases hq.symm.trans hr
    exact hk (Option.some.inj (hw.symm.trans hc.wants))

end Steady

theorem Served.steady (hs : Served t h since w e s) (hw : Steady h w w') (ho : Orderly w')
    (hmono : ∀ op a, since op a → since' op a) (hnew : ∀ op, AtServer w' op h → since' op w'.now) :
    ∃ e', Served t h since' w' e' s := by
  obtain ⟨e', he', hsnap, hst, hreq⟩ := hw.face e hs.face
  have hidle : (∀ op, ¬ AtServer w' op h) → s.lease.Leaves t.lead w'.now := fun hno =>
    hw.now ▸ hs.idle fun op hop => hno op (hw.stays op hop)
  refine ⟨e', he', hst.trans hs.registered, ?_, hsnap.trans hs.snapshot, hs.above, fun k hk hh => ?_,
    hidle, fun op hop => ?_⟩
  · rw [Entry.isRotating, hreq]
    exact hs.rotating
  · rw [hw.now]
    exact hs.tasks k (hw.tasks k hk hh) hh
  · by_cases hold : AtServer w op h
    · obtain ⟨a, ha, hl⟩ := hs.busy op hold
      exact ⟨a, hmono op a ha, hl⟩
    · -- Whoever has just come to the server found nobody there.
      refine ⟨w'.now, hnew op hop, hw.now ▸ hs.idle fun a ha => hold ?_⟩
      rw [AtServer.unique ho hop (hw.stays a ha)]
      exact ha

theorem Fresh.served (hs : Fresh t h w s) (hr : t.IsRoomy) (hnew : ∀ op, AtServer w op h → since op w.now) :
    ∃ e, Served t h since w e s := by
  obtain ⟨e, he, hst, hrot, hsnap⟩ := hs.face
  have hl := hs.proper.leaves hr
  exact ⟨e, he, hst, hrot, hsnap, hs.proper.above, hs.tasks, fun _ => hl,
    fun op hop => ⟨w.now, hnew op hop, hl⟩⟩

/-! ## Who gets the lock -/

/-- With the lock in hand, whoever comes to act on a rotating secret or to rotate it calls the server
or lets it go. -/
theorem frame_withLock {l : List Nat} {errand : Errand} (hd : u.destroyed = false)
    (hst : e.standing ≠ .removed) (hrot : e.isRotating = true)
    (herrand : ∀ remover, errand ≠ .remove remover)
    (hf : Frame False w u op e.handle (some { e.bare with lock := l }) p [] care n) :
    ∃ l' p' added', Frame False w (u.withLock op e errand) op e.handle
      (some { e.bare with lock := l' }) p' added' care n := by
  have hlive : u.isLive e = true := by simpa [World.isLive, hd] using hst
  cases errand with
  | act s a =>
    unfold World.withLock
    dsimp only
    split
    · cases a with
      | renew => exact ⟨_, _, _, hf.call ..⟩
      | expire =>
        rcases hf.expire s False.elim with ⟨-, hx⟩ | ⟨hn, -⟩
        · exact ⟨_, _, _, hx⟩
        · cases hn.symm.trans hrot
    · exact ⟨_, _, _, hf.leave _ False.elim⟩
  | rotate =>
    unfold World.withLock
    dsimp only
    rw [if_pos hlive]
    exact ⟨_, _, _, hf.call ..⟩
  | remove remover => exact absurd rfl (herrand remover)

theorem frame_want {errand : Errand} (hd : u.destroyed = false) (hst : e.standing ≠ .removed)
    (hrot : e.isRotating = true) (herrand : ∀ remover, errand ≠ .remove remover)
    (hf : Frame False w u op e.handle (some e.bare) p [] care n) :
    ∃ l' p' added', Frame False w (u.want op e errand) op e.handle
      (some { e.bare with lock := l' }) p' added' care n := by
  have hq : Frame False w (u.modify e.handle fun e => { e with lock := e.lock ++ [op] }) op e.handle
      (some { e.bare with lock := e.bare.lock ++ [op] }) p [] care n :=
    hf.modify (fun _ => rfl) (fun _ => rfl) fun _ => rfl
  unfold World.want
  dsimp only
  split
  · exact frame_withLock (u := u.modify e.handle fun e => { e with lock := e.lock ++ [op] }) hd hst hrot
      herrand hq
  · exact ⟨_, _, _, hq.setPoint _⟩

/-- A newcomer has not been at the server. -/
theorem not_atServer_next (ho : Orderly w) : ¬ AtServer w w.nextOperation h := fun ⟨_, hq, _⟩ => by
  cases ho.point?_next.symm.trans hq

/-- A started task of a served secret, or somebody who asks for another fetch, comes to the lock. -/
theorem steady_want {errand : Errand} (ho : Orderly w) (he : w.face? e.handle = some e.bare)
    (hd : u.destroyed = false) (hst : e.standing ≠ .removed) (hrot : e.isRotating = true)
    (herrand : ∀ remover, errand ≠ .remove remover)
    (hcare : ∀ k, care.Allows w e.handle k → k ∈ w.schedule.live)
    (hf : Frame False w u w.nextOperation e.handle (some e.bare) p [] care n)
    (hnow : (u.want w.nextOperation e errand).now = w.now) :
    Steady e.handle w (u.want w.nextOperation e errand) := by
  obtain ⟨l, p', added', hx⟩ := frame_want hd hst hrot herrand hf
  exact .of_frame he hx hnow hcare fun ha => absurd ha (not_atServer_next ho)

/-- A renewal of a rotating secret that failed goes on as another fetch, unless the lease is kept. -/
theorem steady_afterFailure (he : w.face? e.handle = some e.bare) (hst : w.strategy = .dropOnError)
    (hrot : e.isRotating = true) (hx : Confined False w u op e.handle)
    (hf : Frame False w u op e.handle (some e.bare) p added .kept n) (k : Fault) :
    Steady e.handle w (u.afterFailure op e s k) := by
  have hnow := (hx.afterFailure s k False.elim).now
  have hretains : (u.publish e (.failed s.lease k)).strategy.retains k = false := by
    rw [show (u.publish e (.failed s.lease k)).strategy = u.strategy from rfl, hx.strategy, hst]
    rfl
  have heq : u.afterFailure op e s k = (u.publish e (.failed s.lease k)).expire op e s :=
    if_neg (by rw [hretains]; decide)
  rw [heq] at hnow ⊢
  rcases (hf.publish rfl (.failed s.lease k)).expire s False.elim with ⟨-, hy⟩ | ⟨hn, -⟩
  · exact .of_frame (l := e.bare.lock) he hy hnow (fun _ => id) fun _ => ⟨_, hy.point, rfl⟩
  · cases hn.symm.trans hrot

/-! ## What fetches and renewals bring -/

/-- An engine on the clock under that trigger which gives a lease up on every error. Nobody has shut it
down or stopped its scheduler, and somebody holds it. -/
structure Running (t : FixedTrigger) (w : World) : Prop where
  orderly : Orderly w
  tends : Tends w
  minded : AllMinded w
  trigger : w.trigger = .fixed t
  strategy : w.strategy = .dropOnError
  timed : w.schedule.discipline = .timed
  unstopped : w.schedule.stopped = false
  unlocked : w.destroyed = false
  alive : w.isAlive = true

/-- What comes in for a registered secret is published. -/
theorem isLive_of_registered (hd : u.destroyed = false) (he : e.standing = .registered) :
    u.isLive e = true := by
  rw [World.isLive, hd, he]
  rfl

section brought

variable (hw : Running t w) (hr : t.IsRoomy) (hl : t.lead.IsWhole) (hi : w.now.Counts)

include hw hr hl hi

theorem fresh_of_fetch {previous : Lease} {cause : Cause} {secret : Secret}
    (hp : w.point? op = some (.rotating h previous cause)) (he : w.face? h = some f)
    (hreg : f.standing = .registered) (hrot : f.isRotating = true)
    (hsec : secret.lease.IsProper t w.now)
    (ha : (w.afterFetch op h previous cause (.ok (some secret))).isAlive = true) :
    Fresh t h (w.afterFetch op h previous cause (.ok (some secret)))
      ⟨w.nextSnapshot, secret.lease, secret.data⟩ := by
  obtain ⟨e, hentry, rfl⟩ := Option.map_eq_some_iff.mp he
  obtain rfl := find_handle hentry
  have hx : Confined False w w op e.handle := .stands hw.orderly hp rfl
  have hf := frame_refl hw.orderly.booked hw.orderly.calm hentry hp False
  let n : Snapshot := ⟨w.nextSnapshot, secret.lease, secret.data⟩
  let v := ((w.tally (.rotation e.request.mode true)).mint secret.lease secret.data).2.install e.handle
    (some n)
  have hst : e.standing = .registered := hreg
  have hlive : v.isLive e = true := isLive_of_registered (u := v) hw.unlocked hst
  have heq : w.afterFetch op e.handle previous cause (.ok (some secret)) =
      ((v.publish e (.rotated previous n.lease n.data)).scheduleCare e n).leave op e.handle .finished := by
    unfold World.afterFetch
    rw [hentry]
    exact congrArg (World.leave · op e.handle .finished) (if_pos hlive)
  rw [heq] at ha ⊢
  exact fresh_of_care (f := { e.bare with snapshot := some n }) hw.trigger hr hl hi hw.unlocked
    (((hx.tally _).mint secret.lease secret.data).install _)
    (((hf.tally _).mint secret.lease secret.data).install _) (by rw [hst]; decide) hrot hreg hrot rfl hsec
    _ _ ha

theorem fresh_of_renewal {at' : Instant} {lease : Lease}
    (hp : w.point? op = some (.renewing h s at')) (he : w.face? h = some f)
    (hreg : f.standing = .registered) (hrot : f.isRotating = true) (hlease : lease.IsProper t w.now)
    (ha : (w.afterRenewal op h s (.ok lease)).isAlive = true) :
    Fresh t h (w.afterRenewal op h s (.ok lease)) ⟨w.nextSnapshot, lease, s.data⟩ := by
  obtain ⟨e, hentry, rfl⟩ := Option.map_eq_some_iff.mp he
  obtain rfl := find_handle hentry
  have hx : Confined False w w op e.handle := .stands hw.orderly hp rfl
  have hf := frame_refl hw.orderly.booked hw.orderly.calm hentry hp False
  let n : Snapshot := ⟨w.nextSnapshot, lease, s.data⟩
  let v := ((w.tally (.renewal .lease true)).mint lease s.data).2.install e.handle (some n)
  have hst : e.standing = .registered := hreg
  have hlive : v.isLive e = true := isLive_of_registered (u := v) hw.unlocked hst
  have heq : w.afterRenewal op e.handle s (.ok lease) =
      ((v.publish e (.renewed s.lease lease)).scheduleCare e n).leave op e.handle .finished := by
    unfold World.afterRenewal
    rw [hentry]
    exact congrArg (World.leave · op e.handle .finished) (if_pos hlive)
  rw [heq] at ha ⊢
  exact fresh_of_care (f := { e.bare with snapshot := some n }) hw.trigger hr hl hi hw.unlocked
    (((hx.tally _).mint lease s.data).install _) (((hf.tally _).mint lease s.data).install _)
    (by rw [hst]; decide) hrot hreg hrot rfl hlease _ _ ha

theorem fresh_of_first {secret : Secret} (hp : w.point? op = some (.registering h))
    (he : w.face? h = some f) (hrot : f.isRotating = true) (hsec : secret.lease.IsProper t w.now)
    (ha : (w.afterFirstFetch op h (.ok (some secret))).isAlive = true) :
    Fresh t h (w.afterFirstFetch op h (.ok (some secret)))
      ⟨w.nextSnapshot, secret.lease, secret.data⟩ := by
  obtain ⟨e, hentry, rfl⟩ := Option.map_eq_some_iff.mp he
  obtain rfl := find_handle hentry
  have hx : Confined False w w op e.handle := .stands hw.orderly hp rfl
  have hf := frame_refl hw.orderly.booked hw.orderly.calm hentry hp False
  let n : Snapshot := ⟨w.nextSnapshot, secret.lease, secret.data⟩
  let known : Entry → Entry := fun e => { e with snapshot := some n, standing := .registered }
  have heq : w.afterFirstFetch op e.handle (.ok (some secret)) =
      (((((w.mint secret.lease secret.data).2.modify e.handle known).updateGauge).publish
        { e with standing := .registered } (.created n.lease n.data)).scheduleCare
          { e with standing := .registered } n).leave op e.handle (.registered e.handle) := by
    unfold World.afterFirstFetch
    rw [hentry]
    exact register_eq (u := (w.mint secret.lease secret.data).2) hw.unlocked ..
  rw [heq] at ha ⊢
  exact fresh_of_care (e := { e with standing := .registered }) (f := known e.bare) hw.trigger hr hl hi
    hw.unlocked
    (((hx.mint secret.lease secret.data).modify (f := known) (fun _ => rfl) (fun _ => rfl)
      fun _ => rfl).updateGauge)
    (((hf.mint secret.lease secret.data).modify (f := known) (fun _ => rfl) (fun _ => rfl)
      fun _ => rfl).updateGauge) (by simp) hrot rfl hrot rfl hsec _ _ ha

end brought

/-! ## Every step that keeps to the conditions keeps a secret served -/

section own

variable (hw : Running t w) (hs : Served t e.handle since w e.bare s)
  (he : w.entry? e.handle = some e)

include hw hs he

theorem steady_of_rotate (hnow : (w.begin (.rotate e.handle)).now = w.now) :
    Steady e.handle w (w.begin (.rotate e.handle)) := by
  have hst : e.standing = .registered := hs.registered
  have hreg : w.registered? e.handle = some e := by
    rw [registered?, he, Option.filter_some]
    exact if_pos (beq_iff_eq.mpr hst)
  rw [begin_rotate hw.unlocked hreg] at hnow ⊢
  exact steady_want (u := w.enroll.2) hw.orderly hs.face hw.unlocked (by rw [hst]; decide) hs.rotating
    (by simp) (fun _ => id) (hs.face ▸ Frame.enroll hw.orderly.booked e.handle) hnow

theorem steady_of_fires {k : Task Job} {q : Schedule Job} (hf : w.Fires m k q)
    (hk : k.job.handle = e.handle) (hnow : (({ w with schedule := q } : World).run k.job).now = w.now) :
    Steady e.handle w (({ w with schedule := q } : World).run k.job) := by
  have hst : e.standing = .registered := hs.registered
  have hstarts := Frame.starts (c := False) hw.orderly.booked
    (hf.starts hw.orderly.booked.numbered) hk
  rw [hs.face] at hstarts
  rw [run_of_isAlive hw.alive (hk ▸ he)] at hnow ⊢
  exact steady_want (u := ({ w with schedule := q } : World).enroll.2) hw.orderly hs.face hw.unlocked
    (by rw [hst]; decide) hs.rotating (by simp) (fun _ => id) hstarts hnow

theorem steady_of_enters {errand : Errand} (hp : w.point? op = some (.queued e.handle errand))
    (hnow : (w.withLock op e errand).now = w.now) : Steady e.handle w (w.withLock op e errand) := by
  have herrand : ∀ remover, errand ≠ .remove remover := fun remover hrem => by
    subst hrem
    cases (hw.orderly.calm.leaving op _ _ _ hp rfl hs.face).symm.trans hs.registered
  have hfr := frame_refl hw.orderly.booked hw.orderly.calm he hp False
  obtain ⟨l, p', added', hy⟩ := frame_withLock (l := e.bare.lock) hw.unlocked
    (by rw [hs.registered]; decide) hs.rotating herrand hfr
  refine .of_frame hs.face hy hnow (fun _ => id) fun hat => ?_
  obtain ⟨q, hq, hc⟩ := hat
  cases hp.symm.trans hq
  exact hc.elim

theorem steady_of_failure {since' : Instant} (hp : w.point? op = some (.renewing e.handle s since'))
    (k : Fault) : Steady e.handle w (w.afterRenewal op e.handle s (.error k)) := by
  have heq : w.afterRenewal op e.handle s (.error k) =
      (w.tally (.renewal .lease false)).afterFailure op e s k := by
    unfold World.afterRenewal
    rw [he]
    exact if_pos (isLive_of_registered hw.unlocked hs.registered)
  rw [heq]
  exact steady_afterFailure hs.face hw.strategy hs.rotating
    ((Confined.stands hw.orderly hp rfl).tally _)
    ((frame_refl hw.orderly.booked hw.orderly.calm he hp False).tally _) k

end own

/-- A step on a served secret leaves its snapshot as it is, or brings a proper one. -/
theorem steady_or_fresh (hw : Running t w) (hs : Served t h since w e s) (hr : t.IsRoomy)
    (hl : t.lead.IsWhole) (hi : w.now.Counts) (hf : w.Favours t h m) (ht : Turn w m w')
    (ha : w'.isAlive = true) (hm : w.subject? m = some h) :
    Steady h w w' ∧ w.fetched? h m = none ∨
      ∃ s', Fresh t h w' s' ∧ s'.data = (w.fetched? h m).getD s.data := by
  obtain ⟨f, hentry, hfe⟩ := Option.map_eq_some_iff.mp hs.face
  subst hfe
  obtain rfl := find_handle hentry
  have hd' : w'.destroyed = false := (destroyed_of_other_turn ht hf.stays).trans hw.unlocked
  have hnow : w'.now = w.now := by
    rcases confined_of_turn hw.orderly ht hd' hw.alive with ⟨_, _, _, hx, -⟩ | ⟨hn, -⟩
    · exact hx.now
    · cases hn.symm.trans hm
  have hleft : f.bare.standing ≠ .removed := by rw [hs.registered]; decide
  cases ht with
  | @begins r _ =>
    cases r with
    | add r source =>
      have hnew : w.nextHandle = f.handle.serial := congrArg Handle.serial (Option.some.inj hm)
      exact absurd (hw.orderly.calm.known _ _ hs.face) (Nat.not_lt.mpr (Nat.le_of_eq hnew))
    | remove k => exact absurd (congrArg (Move.begin <| .remove ·) (Option.some.inj hm)) hf.keeps
    | rotate k =>
      cases hm
      exact .inl ⟨steady_of_rotate hw hs hentry hnow, rfl⟩
    | destroy => exact absurd rfl hf.stays
  | runs hfires =>
    have hh := Option.some.inj ((subject?_of_fires hw.orderly.booked hfires).symm.trans hm)
    refine .inl ⟨steady_of_fires hw hs hentry hfires hh hnow, ?_⟩
    cases hfires <;> rfl
  | enters hp hg _ =>
    simp only [World.subject?, hp] at hm
    cases hm
    cases hentry.symm.trans hg
    exact .inl ⟨steady_of_enters hw hs hentry hp hnow, rfl⟩
  | opens hp => cases hw.orderly.calm.unclosed _ _ hp
  | fetchedFirst hp =>
    simp only [World.subject?, hp] at hm
    cases hm
    exact absurd hp (hw.orderly.not_registering hs.face hs.registered)
  | @fetchedAgain op _ _ _ r hp =>
    simp only [World.subject?, hp] at hm
    cases hm
    have hsub : (w.point? op).bind Point.wants? = some f.handle := by rw [hp]; rfl
    obtain ⟨secret, rfl, hsec⟩ := hf.fetches op r rfl hsub
    refine .inr ⟨_, fresh_of_fetch hw hr hl hi hp hs.face hs.registered hs.rotating hsec ha, ?_⟩
    simp only [fetched?, hsub, if_true, Option.getD_some]
  | @renewed op _ s' _ r hp =>
    simp only [World.subject?, hp] at hm
    cases hm
    have hsub : (w.point? op).bind Point.wants? = some f.handle := by rw [hp]; rfl
    have hsuits : Suits w f.bare s' .renew :=
      (hw.tends.registered _ _ hs.face hs.registered).points op _ hp rfl
    cases hs.snapshot.symm.trans hsuits.1
    cases r with
    | ok lease =>
      exact .inr ⟨_, fresh_of_renewal hw hr hl hi hp hs.face hs.registered hs.rotating
        (hf.renewals op lease rfl hsub) ha, rfl⟩
    | error k => exact .inl ⟨steady_of_failure hw hs hentry hp k, rfl⟩
  | revoked hp =>
    simp only [World.subject?, hp] at hm
    cases hm
    exact absurd (hw.orderly.calm.leaving _ _ _ _ hp rfl hs.face) hleft
  | elapses | releases | stops | listens | unlistens => cases hm

end Leases

end LeaseKeeper
