import LeaseKeeper.Proofs.Leases.Chronicles
import LeaseKeeper.Proofs.Leases.Paths
import LeaseKeeper.Proofs.Leases.Pursuits
import LeaseKeeper.Proofs.Leases.Service
import LeaseKeeper.Proofs.Metrics.Tallies
import LeaseKeeper.Proofs.Retries.Tempo

/-!
# Renewals of leases that are tried again

In an engine that keeps leases on transient faults, a renewal of the installed snapshot that fails is
tried again in the time that is left, or the lease is lost in the same step (`Settles`). Which of the
two it is depends on the fault and on that time, not on the jitter. From one renewal of a snapshot to the
next a second passes at least, since one task or operation only is after a snapshot at a time (`Sole`);
and all of it was left when the second one was decided on. So however often they fail, there are no more
renewals of a snapshot than seconds were left of its lease at the first (`Paced`).
-/

namespace LeaseKeeper.Leases

open World

variable {w v : World} {m : Move} {op n : Nat} {h : Handle} {e : Entry} {s : Snapshot} {f : Fault}
  {t : FixedTrigger} {start : Instant}

/-! ## A renewal that fails -/

/-- The snapshot stays installed, and a task is added that renews it after that delay. -/
structure Retried (w : World) (h : Handle) (s : Snapshot) (f : Fault) (delay : Span) (v : World) :
    Prop where
  kept : v.snapshot? h = some s
  told : v.changes h = w.changes h ++ [.failed s.lease f]
  added : v.schedule.waiting = w.schedule.waiting ++ [w.schedule.next w.now delay ⟨h, s, .renew⟩]
  starts : v.isAlive = true → v.schedule.stopped = false →
    v.tasks h = [w.schedule.next w.now delay ⟨h, s, .renew⟩]

/-- The lease is told to be lost, and the snapshot is dropped with its task; the secret of a rotating
entry is fetched again instead. -/
structure Lost (w : World) (op : Nat) (h : Handle) (s : Snapshot) (f : Fault) (v : World) : Prop where
  told : v.changes h = w.changes h ++ [.failed s.lease f, .expired s.lease]
  drops : ∀ e, w.entry? h = some e → e.isRotating = false →
    v.snapshot? h = none ∧ v.tasks h = [] ∧ v.point? op = none
  fetches : ∀ e, w.entry? h = some e → e.isRotating = true →
    v.point? op = some (.rotating h s.lease .loss) ∧
      v.call? op = some (.fetch e.source e.request.path)

/-- What a failed renewal of the installed snapshot comes to under a trigger: it is tried again if the
fault is transient and every delay that the trigger may ask for ends in time, else the lease is lost. -/
inductive Settles (t : FixedTrigger) (w : World) (op : Nat) (h : Handle) (s : Snapshot) (f : Fault)
    (v : World) : Prop
  | retried {delay : Span} : f.isTransient = true →
    (∀ draw, t.delay draw (s.lease.remaining w.now) < s.lease.remaining w.now) →
    minimalDelay ≤ delay → delay < s.lease.remaining w.now → Retried w h s f delay v →
    Settles t w op h s f v
  | lost : (f.isTransient = true →
      ∀ draw, s.lease.remaining w.now ≤ t.delay draw (s.lease.remaining w.now)) →
    Lost w op h s f v → Settles t w op h s f v

theorem waiting_cancelTask (w : World) (h : Handle) :
    (w.cancelTask h).schedule.waiting = w.schedule.waiting := by
  unfold World.cancelTask
  split
  · rfl
  · rename_i e _
    show (w.schedule.cancel? e.slot).waiting = _
    cases e.slot with
    | none => rfl
    | some id => exact w.schedule.waiting_cancel id

theorem waiting_leave (w : World) (op : Nat) (h : Handle) (o : Outcome) :
    (w.leave op h o).schedule.waiting = w.schedule.waiting := by
  have hall : ∀ (hs : List Handle) (u : World),
      (hs.foldl World.cancelTask u).schedule.waiting = u.schedule.waiting := fun hs => by
    induction hs with
    | nil => exact fun _ => rfl
    | cons h hs ih => exact fun u => (ih _).trans (waiting_cancelTask u h)
  show (World.reap _).schedule.waiting = _
  unfold World.reap
  split
  · rfl
  · exact hall ..

section fails

variable {u : World} {c : Prop} {care : Care} {p : Option Point} {added : List LeaseChange}
  (hf : Frame False w u op e.handle (some e.bare) p added care n)

include hf

theorem retried_of_frame (he : u.entry? e.handle = some e) (hs : u.snapshot? e.handle = some s)
    (hadded : added = [.failed s.lease f]) (hsch : u.schedule = w.schedule) (hnow : u.now = w.now)
    (delay : Span) :
    Retried w e.handle s f delay ((u.replaceTask e.handle delay s .renew).leave op e.handle .finished) := by
  have hr := hf.replaceTask delay s .renew
  have hl := hr.leave .finished False.elim
  refine ⟨?_, hadded ▸ hl.change, ?_, fun ha hrun => ?_⟩
  · rw [snapshot?_eq, hf.face, Option.filter_some] at hs
    rw [snapshot?_eq, hl.face, Option.map_some, Option.filter_some]
    split at hs
    · rename_i hreg
      exact (congrArg (Option.bind · Entry.snapshot) (if_pos hreg)).trans hs
    · cases hs
  · rw [waiting_leave, replaceTask_eq he, ← hsch, ← hnow]
    show ((u.schedule.add u.now delay ⟨e.handle, s, .renew⟩).2.cancel? e.slot).waiting = _
    cases e.slot with
    | none => rfl
    | some id => exact Schedule.waiting_cancel ..
  · have hsame := schedule_finish ((u.replaceTask e.handle delay s .renew).unlock op e.handle) op
      .finished ha
    have hstop : u.schedule.stopped = false := by
      rw [← hr.stopped.trans hf.stopped.symm]
      exact (congrArg Schedule.stopped hsame).symm.trans hrun
    refine hl.booked.tasks_eq (mem_tasks.mpr ⟨?_, rfl⟩)
    show _ ∈ (World.finish _ op .finished).schedule.live
    rw [hsame, ← hsch, ← hnow]
    exact (hf.booked.mem_live_replaceTask he hstop delay s .renew _).mpr (.inr rfl)

theorem lost_of_frame (he : w.entry? e.handle = some e) (hadded : added = [.failed s.lease f]) :
    Lost w op e.handle s f (u.expire op e s) := by
  subst hadded
  rcases hf.expire s False.elim with ⟨hrot, hx⟩ | ⟨hrot, hx⟩
  · refine ⟨hx.change, fun e' he' hno => ?_, fun e' he' _ => ⟨hx.point, ?_⟩⟩
    · cases he.symm.trans he'
      cases hrot.symm.trans hno
    · cases he.symm.trans he'
      obtain ⟨e'', he'', hbare⟩ := Option.map_eq_some_iff.mp hx.face
      rw [World.call?, hx.point, Option.bind_some]
      show (World.entry? _ e.handle).map _ = _
      rw [he'', Option.map_some]
      have hsource : e''.bare.source = e.bare.source := congrArg Entry.source hbare
      have hpath : e''.bare.request.path = e.bare.request.path :=
        congrArg (fun e : Entry => e.request.path) hbare
      exact congrArg some (congrArg₂ Call.fetch hsource hpath)
  · refine ⟨hx.change, fun e' he' _ => ⟨?_, ?_, hx.point⟩, fun e' he' hno => ?_⟩
    · rw [snapshot?_eq, hx.face, Option.filter_some]
      split <;> rfl
    · refine List.filter_eq_nil_iff.mpr fun t ht hh => ?_
      exact hx.own t ht (of_decide_eq_true hh)
    · cases he.symm.trans he'
      cases hrot.symm.trans hno

end fails

/-- A failed renewal of the installed snapshot is tried again, or the lease is lost. -/
theorem settles_of_step (ht : t.IsMade) (hw : Sound w) (htr : w.trigger = .fixed t)
    (hst : w.strategy = .retainOnTransientError)
    (hs : step w (.answer op (.renewal (.error f))) = some v) {since : Instant}
    (hp : w.point? op = some (.renewing h s since)) (hd : w.destroyed = false)
    (hcur : w.snapshot? h = some s) : Settles t w op h s f v := by
  obtain ⟨e, hreg, hsnap⟩ := Option.bind_eq_some_iff.mp hcur
  obtain ⟨he, hr⟩ := Option.filter_eq_some_iff.mp hreg
  obtain rfl := find_handle he
  have hv : v = (w.tally (.renewal .lease false)).afterFailure op e s f := by
    simp only [step, World.answer, hp, World.afterRenewal, he, Option.some.injEq] at hs
    rw [← hs]
    exact if_pos (isLive_of_registered (u := w) hd (beq_iff_eq.mp hr))
  have hframe := (((face?_some he) ▸ Frame.refl (c := False) hw.booked (hw.fresh op _ hp) e.handle).tally
    (.renewal .lease false)).publish rfl (.failed s.lease f)
  have hretains : w.strategy.retains f = f.isTransient := by
    rw [hst]
    rfl
  have hnext : ∀ draw left, (w.trigger.next draw left).1 = some (t.delay draw left) := fun _ _ => by
    rw [htr]
    rfl
  have hfails := fails_afterFailure (w.tally (.renewal .lease false)) op e s f
  rw [← hv] at hfails
  cases hfails with
  | retried htrans hd hlt =>
    obtain rfl := Option.some.inj ((hnext _ _).symm.trans hd)
    exact .retried (hretains.symm.trans htrans) (ht.delay_lt_of_lt hlt) (ht.le_delay _ _) hlt
      (retried_of_frame (hframe.askTrigger _) he hcur rfl rfl rfl _)
  | tooLate _ hlate =>
    refine .lost (fun _ draw => ?_) (lost_of_frame (hframe.askTrigger _) he rfl)
    exact Nat.not_lt.mp fun hlt => hlate _ (hnext _ _) (ht.delay_lt_of_lt hlt _)
  | failed hno =>
    refine .lost (fun htrans => ?_) (lost_of_frame hframe he rfl)
    cases (hretains.symm.trans hno).symm.trans htrans

/-! ## How often a snapshot is renewed -/

namespace World

/-- Whether an operation renews the snapshot of that number. -/
def renews (w : World) (n op : Nat) : Bool :=
  match w.point? op with
  | some (.renewing _ s _) => s.serial == n
  | _ => false

/-- Whether an operation begins to renew the snapshot of that number by a move. -/
def attempts (n : Nat) (w : World) (m : Move) : Bool :=
  (step w m).any fun v => (List.range v.nextOperation).any fun op => v.renews n op && !w.renews n op

end World

theorem renews_iff : w.renews n op = true ↔
    ∃ h s i, w.point? op = some (.renewing h s i) ∧ s.serial = n := by
  unfold World.renews
  split
  · rename_i hp
    simp [hp]
  · rename_i hp
    simpa using fun h s i hq => absurd hq (hp h s i)

/-- The renewals of a snapshot have kept to the tempo since the first one, at `start`, and so will
whoever is to renew it next, if anybody. -/
structure Paced (w : World) (s : Snapshot) (start : Instant) (n : Nat) : Prop where
  now : Tempo start (s.lease.remaining start) n w.now
  waits : ∀ t ∈ w.schedule.live, t.job.snapshot = s →
    Tempo start (s.lease.remaining start) (n + 1) t.due
  queued : ∀ a h b, w.point? a = some (.queued h (.act s b)) →
    Tempo start (s.lease.remaining start) (n + 1) w.now
  own : ∀ r x, Pursues w r x → r.serial = s.serial → r = s
  old : s.serial < w.nextSnapshot

theorem due_of_fires {q : Schedule Job} {k : Task Job} (hb : w.Booked)
    (htimed : w.schedule.discipline = .timed) (hs : step w m = some v) (hf : w.Fires m k q) :
    k.due ≤ w.now := by
  cases hf with
  | due h => exact (Schedule.starts_of_startDue hb.numbered h).2.2
  | next h =>
    rw [step, if_neg (by rw [htimed]; decide)] at hs
    cases hs

namespace Paced

/-- Nobody has begun to renew the snapshot, and who is to renew it next keeps to the tempo. -/
theorem of_adds {k : Option (Task Job)} {x : Option (Nat × Point)} (hp : Paced w s start n)
    (ha : Adds k x w v)
    (hk : ∀ t ∈ k, t.job.snapshot.serial = s.serial →
      t.job.snapshot = s ∧ Tempo start (s.lease.remaining start) (n + 1) t.due)
    (hx : ∀ a p r, (a, p) ∈ x → p.pursued? = some r → r.serial = s.serial →
      r = s ∧ Tempo start (s.lease.remaining start) (n + 1) v.now) : Paced v s start n where
  now := hp.now.later ha.now
  waits t ht hts := by
    rcases ha.live t ht with ht | ht
    · exact hp.waits t ht hts
    · exact (hk t ht (congrArg Snapshot.serial hts)).2
  queued a h b hq := by
    rcases ha.points a _ hq nofun with hold | hnew
    · exact (hp.queued a h b hold).later ha.now
    · exact (hx a _ s hnew rfl rfl).2
  own r y hy hr := by
    rcases ha.pursues hy with hy | ⟨t, ht, rfl, -⟩ | ⟨a, p, hnew, -, hpr, -⟩
    · exact hp.own r y hy hr
    · exact (hk t ht hr).1
    · exact (hx a p r hnew hpr hr).1
  old := Nat.lt_of_lt_of_le hp.old ha.snapshots

section step

variable (hp : Paced w s start n) (hb : w.Booked) (htimed : w.schedule.discipline = .timed)
  (hs : step w m = some v)

include hp hb htimed hs

/-- A task that starts has kept to the tempo. -/
theorem of_fires {k : Task Job} {q : Schedule Job} (hf : w.Fires m k q)
    (hk : k.job.snapshot.serial = s.serial) :
    k.job.snapshot = s ∧ Tempo start (s.lease.remaining start) (n + 1) w.now := by
  have hmem := (hf.starts hb.numbered).mem
  have hks := hp.own _ _ (.waits hmem rfl) hk
  exact ⟨hks, (hp.waits k hmem hks).later (due_of_fires hb htimed hs hf)⟩

theorem kept (hmade : t.IsMade) (htr : w.trigger = .fixed t) (hissued : s.lease.issued ≤ start) :
    Paced v s start n := by
  cases pursuit_of_step hb hs with
  | eases ha => exact hp.of_adds ha nofun nofun
  | arrives ha hge _ =>
    refine hp.of_adds ha (fun t ht hts => ?_) nofun
    cases ht
    exact absurd hp.old (Nat.not_lt.mpr (hts ▸ hge))
  | comes hf hq _ ha =>
    refine hp.of_adds ha nofun fun a p r hnew hpr hr => ?_
    cases hnew
    obtain rfl := Option.some.inj (hq.symm.trans hpr)
    obtain ⟨hks, htempo⟩ := hp.of_fires hb htimed hs hf hr
    exact ⟨hks, htempo.later ha.now⟩
  | enters hq _ ha =>
    refine hp.of_adds ha nofun fun a p r hnew hpr hr => ?_
    cases hnew
    cases hpr
    obtain rfl := hp.own _ _ (.works hq rfl) hr
    exact ⟨rfl, (hp.queued _ _ _ hq).later ha.now⟩
  | @retries _ draw _ r _ _ k hq _ ha hkr hdue hlt hd =>
    refine hp.of_adds ha (fun t' ht hts => ?_) nofun
    cases ht
    rw [hkr] at hts
    obtain rfl := hp.own _ _ (.works hq rfl) hts
    rw [htr] at hd
    obtain rfl := Option.some.inj hd
    exact ⟨hkr, hdue ▸ hp.now.retry hissued (hmade.le_delay _ _) hlt⟩

/-- Who begins to renew the snapshot was the one who was to. -/
theorem attempt (hkept : Paced v s start n) (hv : Sole v) (ha : w.attempts s.serial m = true) :
    Paced v s start (n + 1) := by
  simp only [World.attempts, hs, Option.any_some, List.any_eq_true, Bool.and_eq_true,
    Bool.not_eq_true'] at ha
  obtain ⟨a, -, hnew, hold⟩ := ha
  obtain ⟨h, r, i, ha, hr⟩ := renews_iff.mp hnew
  have hno : w.point? a ≠ some (.renewing h r i) := fun hw => by
    cases (renews_iff.mpr ⟨h, r, i, hw, hr⟩).symm.trans hold
  obtain rfl := hkept.own r _ (.works ha rfl) hr
  have hnext : Tempo start (r.lease.remaining start) (n + 1) v.now := by
    cases pursuit_of_step hb hs with
    | eases hx | arrives hx _ _ | retries _ _ hx _ _ _ _ =>
      exact absurd ((hx.points a _ ha nofun).resolve_right nofun) hno
    | comes hf hq _ hx =>
      cases (hx.points a _ ha nofun).resolve_left hno
      exact (hp.of_fires hb htimed hs hf (congrArg Snapshot.serial (Option.some.inj hq).symm)).2.later hx.now
    | enters hq _ hx =>
      cases (hx.points a _ ha nofun).resolve_left hno
      exact (hp.queued _ _ _ hq).later hx.now
  refine ⟨hnext, fun k hk hks => ?_, fun b h' c hb' => ?_, hkept.own, hkept.old⟩
  · cases (hv.one r r _ _ (.works ha rfl) (.waits hk hks) rfl).2
  · obtain rfl := Sum.inr.inj (hv.one r r _ _ (.works ha rfl) (.works hb' rfl) rfl).2
    cases ha.symm.trans hb'

end step

/-- With the first renewal of a snapshot the count begins. -/
theorem of_first {i : Instant} (hv : Sole v) (hs : step w m = some v) (hb : w.Booked)
    (hp : v.point? op = some (.renewing h s i)) : Paced v s w.now 0 := by
  obtain ⟨_, _, hx⟩ := (pursuit_of_step hb hs).adds
  refine ⟨(Tempo.first ..).later hx.now, fun k hk hks => ?_, fun b h' c hb' => ?_, fun r x hx hr => ?_, ?_⟩
  · cases (hv.one s s _ _ (.works hp rfl) (.waits hk hks) rfl).2
  · obtain rfl := Sum.inr.inj (hv.one s s _ _ (.works hp rfl) (.works hb' rfl) rfl).2
    cases hp.symm.trans hb'
  · exact (hv.one r s x _ hx (.works hp rfl) hr).1
  · exact hv.fresh s _ (.works hp rfl)

end Paced

/-- What a run is about: under that trigger, on the clock. -/
structure Clocked (t : FixedTrigger) (w : World) : Prop where
  sound : Sound w
  sole : Sole w
  trigger : w.trigger = .fixed t
  timed : w.schedule.discipline = .timed
  strategy : w.strategy = .retainOnTransientError

theorem Clocked.of_step (hw : Clocked t w) (hs : step w m = some v) : Clocked t v := by
  obtain ⟨_, _, hx⟩ := (pursuit_of_step hw.sound.booked hs).adds
  exact ⟨hw.sound.of_turn (turn_of_step hs), sole_of_step hw.sole hw.sound.booked hs,
    hx.fixed t hw.trigger, hx.discipline.trans hw.timed, hx.strategy.trans hw.strategy⟩

/-- From any renewal of a snapshot on, there are no more of them than seconds were left of its lease. -/
theorem Paced.timesAlong_lt (ht : t.IsMade) (hissued : s.lease.issued ≤ start) {ms : List Move}
    (hw : Clocked t w) (hp : Paced w s start n) :
    timesAlong step (attempts s.serial) w ms + n < (s.lease.remaining start).attempts := by
  induction ms generalizing w n with
  | nil => exact (Nat.zero_add n).symm ▸ hp.now.lt_attempts
  | cons m ms ih =>
    show ((step w m).elim 0 fun u => timesAlong step (attempts s.serial) u ms) +
      (attempts s.serial w m).toNat + n < _
    cases hs : step w m with
    | none =>
      have hno : attempts s.serial w m = false := by rw [World.attempts, hs]; rfl
      rw [hno]
      exact (Nat.zero_add n).symm ▸ hp.now.lt_attempts
    | some v =>
      have hkept := hp.kept hw.sound.booked hw.timed hs ht hw.trigger hissued
      rw [Option.elim_some, Nat.add_assoc]
      cases ha : attempts s.serial w m with
      | false => exact (Nat.zero_add n).symm ▸ ih (hw.of_step hs) hkept
      | true =>
        rw [Nat.add_comm _ n]
        exact ih (hw.of_step hs)
          (hp.attempt hw.sound.booked hw.timed hs hkept (hw.of_step hs).sole ha)

/-! ## Over a run -/

/-- In a run, a renewal of an installed snapshot that fails is tried again in time, or the lease is lost
at once; and counted from any of its renewals on, a snapshot is renewed no more often than seconds were
left of its lease then. A lease is granted before it is renewed. -/
structure RetriesEnd (t : FixedTrigger) (start : World) (ms : List Move) : Prop where
  settled : ∀ v op f v' h s since, Passes start ms v (.answer op (.renewal (.error f))) v' →
    v.point? op = some (.renewing h s since) → v.snapshot? h = some s → v.destroyed = false →
    Settles t v op h s f v'
  counted : ∀ ns m ks v v' op h s since, ms = ns ++ m :: ks → run? start ns = some v →
    step v m = some v' → v.point? op ≠ some (.renewing h s since) →
    v'.point? op = some (.renewing h s since) → s.lease.issued ≤ v.now →
    timesAlong step (attempts s.serial) v (m :: ks) ≤ (s.lease.remaining v.now).attempts

section run

variable {increment : Option Span} {draws : Nat → Nat} {ms : List Move}

theorem clocked_of_run
    (h : run? (initial ⟨.fixed t, .retainOnTransientError, increment⟩ .timed draws) ms = some v) :
    Clocked t v := by
  induction ms using List.reverseRecOn generalizing v with
  | nil =>
    cases h
    exact ⟨sound_initial .., sole_initial .., rfl, rfl, rfl⟩
  | append_singleton ms m ih =>
    obtain ⟨u, hu, hs⟩ := run?_concat.mp h
    exact (ih hu).of_step hs

/-- The retries of an engine that keeps leases on transient faults end in time, under a fixed trigger. -/
theorem retriesEnd_of_fixed (ht : t.IsMade) (increment : Option Span) (draws : Nat → Nat)
    (ms : List Move) :
    RetriesEnd t (initial ⟨.fixed t, .retainOnTransientError, increment⟩ .timed draws) ms where
  settled v op f v' h s since hp hop hcur hd := by
    obtain ⟨ns, -, hv, hs⟩ := hp
    have hw := clocked_of_run hv
    exact settles_of_step ht hw.sound hw.trigger hw.strategy hs hop hd hcur
  counted ns m ks v v' op h s since hms hv hs _ hop hissued := by
    have hw := clocked_of_run hv
    have hw' := hw.of_step hs
    have hlt : timesAlong step (attempts s.serial) v' ks + 0 < _ :=
      (Paced.of_first hw'.sole hs hw.sound.booked hop).timesAlong_lt ht hissued hw'
    have hle := Bool.toNat_le (attempts s.serial v m)
    show ((step v m).elim 0 fun u => timesAlong step (attempts s.serial) u ks) +
      (attempts s.serial v m).toNat ≤ _
    rw [hs, Option.elim_some]
    omega

end run

end LeaseKeeper.Leases
