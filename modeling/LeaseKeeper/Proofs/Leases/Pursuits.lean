import LeaseKeeper.Proofs.Leases.Course

/-!
# Who is after a snapshot

A task that waits is after the snapshot that it aims at, and so is the operation that it becomes, while
that waits for the lock or renews the snapshot. `Adds` says of a world on the way from another one which
task and which operation have been added to these, one each at most; there is one lemma for each part
that steps are made of. So a step brings a task for a snapshot that has just arrived, or it hands a
snapshot over: from a task to an operation, from the queue to the server, or from a renewal that failed
back to a task (`Pursuit`, `pursuit_of_step`). Every snapshot is in one hand at most, then (`Sole`).
-/

namespace LeaseKeeper

/-- A new task is added to those that can still start, if the schedule lets it start. -/
theorem Schedule.mem_live_of_add {τ : Type} {s : Schedule τ} {now : Instant} {delay : Span} {job : τ}
    {t : Task τ} (h : t ∈ (s.add now delay job).2.live) : t ∈ s.live ∨ t = s.next now delay job := by
  obtain ⟨hw, hc⟩ := Schedule.mem_live.mp h
  rcases List.mem_append.mp hw with hw | hw
  · exact .inl (Schedule.mem_live.mpr ⟨hw, hc⟩)
  · exact .inr (List.mem_singleton.mp hw)

namespace Leases

/-- The snapshot that an operation renews, or waits to act on. -/
def Point.pursued? : Point → Option Snapshot
  | queued _ (.act s _) => some s
  | renewing _ s _ => some s
  | _ => none

open World

/-- On the way from `w` to `u` no task has been added but `k`, and no operation has come to be after a
snapshot but `x`. Time has not gone back, and settings have stayed. -/
structure Adds (k : Option (Task Job)) (x : Option (Nat × Point)) (w u : World) : Prop where
  live : ∀ t ∈ u.schedule.live, t ∈ w.schedule.live ∨ t ∈ k
  points : ∀ a p, u.point? a = some p → p.pursued? ≠ none → w.point? a = some p ∨ (a, p) ∈ x
  now : w.now ≤ u.now
  fixed : ∀ t, w.trigger = .fixed t → u.trigger = .fixed t
  strategy : u.strategy = w.strategy
  discipline : u.schedule.discipline = w.schedule.discipline
  snapshots : w.nextSnapshot ≤ u.nextSnapshot

variable {w u v : World} {m : Move} {op : Nat} {h : Handle} {e : Entry} {s : Snapshot}
  {k : Option (Task Job)} {x : Option (Nat × Point)}

namespace Adds

theorem refl (w : World) : Adds none none w w where
  live _ ht := .inl ht
  points _ _ hp _ := .inl hp
  now := Nat.le_refl _
  fixed _ ht := ht
  strategy := rfl
  discipline := rfl
  snapshots := Nat.le_refl _

theorem trans (hx : Adds none none w u) (hy : Adds k x u v) : Adds k x w v where
  live t ht := (hy.live t ht).imp_left fun hu => (hx.live t hu).resolve_right nofun
  points a p hp hn := (hy.points a p hp hn).imp_left fun hu => (hx.points a p hu hn).resolve_right nofun
  now := Nat.le_trans hx.now hy.now
  fixed t ht := hy.fixed t (hx.fixed t ht)
  strategy := hy.strategy.trans hx.strategy
  discipline := hy.discipline.trans hx.discipline
  snapshots := Nat.le_trans hx.snapshots hy.snapshots

theorem weaken (hx : Adds none x w u) : Adds k x w u :=
  { hx with live := fun t ht => .inl ((hx.live t ht).resolve_right nofun) }

/-- A change of other parts of the engine. -/
theorem same (hx : Adds k x w u) (hs : v.schedule = u.schedule) (ho : v.operations = u.operations)
    (hn : v.now = u.now) (ht : v.trigger = u.trigger) (hst : v.strategy = u.strategy)
    (hm : u.nextSnapshot ≤ v.nextSnapshot) : Adds k x w v where
  live := hs ▸ hx.live
  points a p hp := hx.points a p (by rwa [World.point?, ← ho])
  now := hn ▸ hx.now
  fixed t h := ht.trans (hx.fixed t h)
  strategy := hst.trans hx.strategy
  discipline := (congrArg Schedule.discipline hs).trans hx.discipline
  snapshots := Nat.le_trans hx.snapshots hm

section parts

variable (hx : Adds k x w u)

include hx

theorem publish (e : Entry) (c : LeaseChange) : Adds k x w (u.publish e c) :=
  hx.same rfl rfl rfl rfl rfl (Nat.le_refl _)

theorem tally (m : Mark) : Adds k x w (u.tally m) := hx.same rfl rfl rfl rfl rfl (Nat.le_refl _)

theorem updateGauge : Adds k x w u.updateGauge := hx.same rfl rfl rfl rfl rfl (Nat.le_refl _)

theorem modify (h : Handle) (f : Entry → Entry) : Adds k x w (u.modify h f) :=
  hx.same rfl rfl rfl rfl rfl (Nat.le_refl _)

theorem forget (h : Handle) : Adds k x w (u.forget h) := hx.same rfl rfl rfl rfl rfl (Nat.le_refl _)

theorem mint (l : Lease) (d : SecretData) : Adds k x w (u.mint l d).2 :=
  hx.same rfl rfl rfl rfl rfl (Nat.le_succ _)

theorem enroll : Adds k x w u.enroll.2 := hx.same rfl rfl rfl rfl rfl (Nat.le_refl _)

theorem askTrigger (left : Span) : Adds k x w (u.askTrigger left).2 :=
  { hx with
    fixed := fun t ht => by
      show (u.trigger.next (u.draws u.drawn) left).2 = _
      rw [hx.fixed t ht]
      rfl }

/-- An operation comes to a point where it is after no snapshot. -/
theorem setPoint (op : Nat) {p : Point} (hp : p.pursued? = none) : Adds k x w (u.setPoint op p) :=
  { hx with
    points := fun a q hq hn => by
      rw [point?_setPoint] at hq
      split at hq
      · cases hq
        exact absurd hp hn
      · exact hx.points a q hq hn }

theorem call (op : Nat) (h : Handle) (c : Call) {p : Point} (hp : p.pursued? = none) :
    Adds k x w (u.call op h c p) :=
  (hx.setPoint op hp).same rfl rfl rfl rfl rfl (Nat.le_refl _)

/-! ## Tasks -/

theorem cancelTask (h : Handle) : Adds k x w (u.cancelTask h) := by
  unfold World.cancelTask
  split
  · exact hx
  · rename_i f _
    refine { hx with live := fun t ht => ?_, discipline := ?_ }
    · change t ∈ (u.schedule.cancel? f.slot).live at ht
      rw [Schedule.live_cancel?] at ht
      exact hx.live t (List.mem_of_mem_filter ht)
    · exact (Schedule.discipline_cancel? ..).trans hx.discipline

omit hx in
theorem cancelTasks (hx : Adds k x w u) (hs : List Handle) :
    Adds k x w (hs.foldl World.cancelTask u) := by
  induction hs generalizing u with
  | nil => exact hx
  | cons h hs ih => exact ih (hx.cancelTask h)

theorem reap : Adds k x w u.reap := by
  unfold World.reap
  split
  · exact hx
  · exact hx.cancelTasks _

theorem finish (op : Nat) (o : Outcome) : Adds k x w (u.finish op o) := by
  refine .reap { hx with points := fun a p hp hn => hx.points a p ?_ hn }
  change (u.operations.filter (·.1 != op)).lookup a = some p at hp
  rw [lookup_filter] at hp
  exact (Option.ite_none_left_eq_some.mp hp).2

theorem unlock (op : Nat) (h : Handle) : Adds k x w (u.unlock op h) := hx.modify ..

theorem install (h : Handle) (s : Option Snapshot) : Adds k x w (u.install h s) := hx.modify ..

theorem leave (op : Nat) (h : Handle) (o : Outcome) : Adds k x w (u.leave op h o) :=
  (hx.unlock op h).finish op o

omit hx in
theorem replaceTask (hx : Adds none x w u) (h : Handle) (delay : Span) (s : Snapshot) (a : Action) :
    Adds (some (u.schedule.next u.now delay ⟨h, s, a⟩)) x w (u.replaceTask h delay s a) := by
  unfold World.replaceTask
  split
  · exact hx.weaken
  · rename_i f _
    refine { hx with live := fun t ht => ?_, discipline := ?_ }
    · change t ∈ ((u.schedule.add u.now delay ⟨h, s, a⟩).2.cancel? f.slot).live at ht
      rw [Schedule.live_cancel?] at ht
      rcases Schedule.mem_live_of_add (List.mem_of_mem_filter ht) with ht | rfl
      · exact .inl ((hx.live t ht).resolve_right nofun)
      · exact .inr rfl
    · exact (Schedule.discipline_cancel? ..).trans hx.discipline

omit hx in
/-- What is scheduled for a snapshot is aimed at it. -/
theorem scheduleCare (hx : Adds none x w u) (e : Entry) (s : Snapshot) :
    ∃ k, (∀ t ∈ k, t.job.snapshot = s) ∧ Adds k x w (u.scheduleCare e s) := by
  have hnone : ∀ t ∈ (none : Option (Task Job)), t.job.snapshot = s := nofun
  have hnew : ∀ {v : World} {delay a}, ∀ t ∈ some (v.schedule.next v.now delay ⟨e.handle, s, a⟩),
      t.job.snapshot = s := fun t ht => by
    cases ht
    rfl
  have ha := hx.askTrigger (s.lease.remaining u.now)
  unfold World.scheduleCare
  split
  · exact ⟨_, hnone, hx⟩
  split
  · exact ⟨_, hnone, hx.cancelTask _⟩
  split
  · exact ⟨_, hnew, hx.replaceTask ..⟩
  split <;> rename_i hq <;> rw [hq] at ha
  · exact ⟨_, hnone, ha.cancelTask _⟩
  · exact ⟨_, hnew, ha.replaceTask ..⟩

omit hx in
/-- A snapshot that was installed is told and looked after, if its secret still is. -/
theorem cares (hx : Adds none x w u) (e : Entry) (s : Snapshot) (c : LeaseChange) (live : Bool) :
    ∃ k, (∀ t ∈ k, t.job.snapshot = s) ∧
      Adds k x w (if live then (u.publish e c).scheduleCare e s else u) := by
  cases live with
  | true => exact (hx.publish e c).scheduleCare e s
  | false => exact ⟨none, nofun, hx⟩

/-! ## Removing -/

theorem childEnded (parent : Nat) : Adds k x w (u.childEnded parent) := by
  unfold World.childEnded
  split
  · split
    · exact hx.finish ..
    · exact hx.setPoint _ rfl
  · exact hx

theorem endRemoval (op : Nat) (remover : Remover) (found : Bool) :
    Adds k x w (u.endRemoval op remover found) := by
  cases remover with
  | caller | registration => exact hx.finish ..
  | shutdown parent => exact (hx.finish ..).childEnded parent

theorem takeOut (op : Nat) (e : Entry) (remover : Remover) : Adds k x w (u.takeOut op e remover) := by
  have hi := hx.install e.handle none
  have hend := (hi.unlock op e.handle).endRemoval op remover true
  unfold World.takeOut
  split
  · exact hend
  · split
    · exact hi.call _ _ _ rfl
    · exact hend

theorem remove (op : Nat) (h : Handle) (remover : Remover) : Adds k x w (u.remove op h remover) := by
  unfold World.remove
  split
  · exact hx.endRemoval ..
  · have hg := (((hx.modify h fun e => { e with standing := .removed }).cancelTask h).updateGauge).modify h
      fun e => { e with lock := e.lock ++ [op] }
    dsimp only
    split
    · exact hg.takeOut ..
    · exact hg.setPoint _ rfl

theorem afterRevocation (op : Nat) (h : Handle) (s : Snapshot) (remover : Remover)
    (r : Except Fault Unit) : Adds k x w (u.afterRevocation op h s remover r) := by
  unfold World.afterRevocation
  split
  · exact hx
  · refine .endRemoval (.unlock ?_ ..) ..
    cases r with
    | ok _ => exact hx.publish ..
    | error f => exact hx.publish ..

/-! ## Losing, and fetching again -/

theorem expire (op : Nat) (e : Entry) (s : Snapshot) : Adds k x w (u.expire op e s) := by
  have hp := hx.publish e (.expired s.lease)
  unfold World.expire
  dsimp only
  split
  · exact hp.call _ _ _ rfl
  · exact ((hp.cancelTask _).install ..).leave ..

theorem endFetch (op : Nat) (e : Entry) (cause : Cause) (f : Fault) :
    Adds k x w (u.endFetch op e cause f) := by
  cases cause with
  | caller => exact hx.leave ..
  | loss =>
    refine .leave ?_ ..
    split
    · exact (hx.cancelTask _).install ..
    · exact hx.cancelTask _

/-! ## Registering, and shutting down -/

theorem add (op : Nat) (request : SecretRequest) (source : String) :
    Adds k x w (u.add op request source) := by
  unfold World.add
  split
  · exact hx.finish ..
  · refine .call ?_ _ _ _ rfl
    exact hx.same rfl rfl rfl rfl rfl (Nat.le_refl _)

omit hx in
/-- An entry is made known, or removed again. -/
theorem register (hx : Adds none x w u) (op : Nat) (e : Entry) (s : Option Snapshot)
    {tell : World → World} (ht : Adds k x w (tell (u.modify e.handle fun e =>
      { e with snapshot := s, standing := .registered }).updateGauge)) :
    Adds k x w (u.register op e s tell) := by
  unfold World.register
  dsimp only
  split
  · exact (((hx.modify ..).updateGauge.unlock ..).remove ..).weaken
  · exact ht.leave ..

omit hx in
theorem enrollRemovals (hx : Adds k x w u) (parent : Nat) (hs : List Handle) :
    Adds k x w (hs.foldl (enrollRemoval parent) u) := by
  induction hs generalizing u with
  | nil => exact hx
  | cons h hs ih => exact ih (hx.enroll.setPoint _ rfl)

theorem destroy (op : Nat) : Adds k x w (u.destroy op) := by
  have hd : Adds k x w { u with destroyed := true } := hx.same rfl rfl rfl rfl rfl (Nat.le_refl _)
  unfold World.destroy
  dsimp only
  split
  · exact hx.finish ..
  split
  · exact hd.finish ..
  · exact (hd.setPoint _ rfl).enrollRemovals ..

end parts

/-! ## Getting the lock -/

/-- An operation comes to a point where it may be after a snapshot. -/
theorem goes (hx : Adds k none w u) (op : Nat) (p : Point) : Adds k (some (op, p)) w (u.setPoint op p) :=
  { hx with
    points := fun a q hq hn => by
      rw [point?_setPoint] at hq
      split at hq
      · cases hq
        exact .inr (by simp [*])
      · exact .inl ((hx.points a q hq hn).resolve_right nofun) }

/-- With the lock in hand, an operation renews the snapshot that it has come for, or is after none any
more. -/
theorem act (hx : Adds none none w u) (op : Nat) (e : Entry) (s : Snapshot) (a : Action) :
    Adds none none w (u.withLock op e (.act s a)) ∨
      (u.withLock op e (.act s a)).point? op = some (.renewing e.handle s u.now) ∧
        Adds none (some (op, .renewing e.handle s u.now)) w (u.withLock op e (.act s a)) := by
  unfold World.withLock
  dsimp only
  split
  · cases a with
    | renew =>
      refine .inr ⟨?_, ?_⟩
      · exact (point?_setPoint ..).trans (if_pos rfl)
      · exact (hx.goes op _).same rfl rfl rfl rfl rfl (Nat.le_refl _)
    | expire => exact .inl (hx.expire ..)
  · exact .inl (hx.leave ..)

/-- Any other errand is after no snapshot. -/
theorem withLock (hx : Adds k x w u) (op : Nat) (e : Entry) {errand : Errand}
    (he : ∀ s a, errand ≠ .act s a) : Adds k x w (u.withLock op e errand) := by
  cases errand with
  | act s a => exact absurd rfl (he s a)
  | rotate =>
    unfold World.withLock
    dsimp only
    split
    · exact hx.call _ _ _ rfl
    · exact hx.leave ..
  | remove remover => exact hx.takeOut ..

theorem rotate (hx : Adds k x w u) (op : Nat) (h : Handle) : Adds k x w (u.rotate op h) := by
  unfold World.rotate
  split
  · exact hx.finish ..
  split
  · exact hx.finish ..
  · rename_i e _
    have hq := hx.modify e.handle fun e => { e with lock := e.lock ++ [op] }
    unfold World.want
    dsimp only
    split
    · exact hq.withLock _ _ nofun
    · exact hq.setPoint _ rfl

/-- What is left in the schedule when a task has been started. -/
theorem starts {t : Task Job} {q : Schedule Job} (hs : w.schedule.Starts t q)
    (hd : q.discipline = w.schedule.discipline) : Adds none none w { w with schedule := q } :=
  { refl w with live := fun _ ht => .inl (hs.not_mem ht).1, discipline := hd }

theorem stop (w : World) : Adds none none w w.stop := by
  unfold World.stop
  rcases w.schedule.stop_cases with h | h <;> rw [h]
  · exact refl w
  · refine { refl w with live := fun t ht => ?_ }
    rw [Schedule.live_of_stopped rfl] at ht
    cases ht

end Adds

/-! ## What a step does -/

/-- What a step does to those who are after a snapshot. -/
inductive Pursuit (w : World) (m : Move) (v : World) : Prop
  /-- None is added. -/
  | eases : Adds none none w v → Pursuit w m v
  /-- A snapshot that has just arrived gets a task. -/
  | arrives {t : Task Job} : Adds (some t) none w v → w.nextSnapshot ≤ t.job.snapshot.serial →
    t.job.snapshot.serial < v.nextSnapshot → Pursuit w m v
  /-- A task turns into an operation that waits for the lock, or renews at once. -/
  | comes {t : Task Job} {q : Schedule Job} {p : Point} : w.Fires m t q →
    p.pursued? = some t.job.snapshot → t ∉ v.schedule.live →
    Adds none (some (w.nextOperation, p)) w v → Pursuit w m v
  /-- Who has waited for the lock renews. -/
  | enters {op : Nat} {h : Handle} {s : Snapshot} {a : Action} {i : Instant} :
    w.point? op = some (.queued h (.act s a)) → v.point? op = some (.renewing h s i) →
    Adds none (some (op, .renewing h s i)) w v → Pursuit w m v
  /-- A renewal that failed is scheduled again, while there is time. -/
  | retries {op draw : Nat} {h : Handle} {s : Snapshot} {since : Instant} {delay : Span} {t : Task Job} :
    w.point? op = some (.renewing h s since) → v.point? op = none → Adds (some t) none w v →
    t.job.snapshot = s → t.due = w.now.plus delay → delay < s.lease.remaining w.now →
    (w.trigger.next draw (s.lease.remaining w.now)).1 = some delay → Pursuit w m v

/-- What becomes of `w` when the renewal of a snapshot of an entry has failed: it is tried again if the
strategy keeps the lease and there is time, else the lease is lost. -/
inductive Fails (w : World) (op : Nat) (e : Entry) (s : Snapshot) (f : Fault) : World → Prop
  | retried {delay : Span} : w.strategy.retains f = true →
    (w.trigger.next (w.draws w.drawn) (s.lease.remaining w.now)).1 = some delay →
    delay < s.lease.remaining w.now →
    Fails w op e s f ((((w.publish e (.failed s.lease f)).askTrigger (s.lease.remaining w.now)).2.replaceTask
      e.handle delay s .renew).leave op e.handle .finished)
  | tooLate : w.strategy.retains f = true →
    (∀ delay, (w.trigger.next (w.draws w.drawn) (s.lease.remaining w.now)).1 = some delay →
      ¬ delay < s.lease.remaining w.now) →
    Fails w op e s f
      (((w.publish e (.failed s.lease f)).askTrigger (s.lease.remaining w.now)).2.expire op e s)
  | failed : w.strategy.retains f = false →
    Fails w op e s f ((w.publish e (.failed s.lease f)).expire op e s)

theorem fails_afterFailure (w : World) (op : Nat) (e : Entry) (s : Snapshot) (f : Fault) :
    Fails w op e s f (w.afterFailure op e s f) := by
  have hask : ∀ {d : Option Span} {v : World},
      (w.publish e (.failed s.lease f)).askTrigger (s.lease.remaining w.now) = (d, v) →
        (w.trigger.next (w.draws w.drawn) (s.lease.remaining w.now)).1 = d ∧
          v = ((w.publish e (.failed s.lease f)).askTrigger (s.lease.remaining w.now)).2 := fun hq =>
    ⟨congrArg Prod.fst hq, (congrArg Prod.snd hq).symm⟩
  unfold World.afterFailure
  dsimp only
  split
  · rename_i hr
    split <;> rename_i hq <;> obtain ⟨hd, rfl⟩ := hask hq
    · split
      · rename_i hlt
        exact .retried hr hd hlt
      · rename_i hlt
        refine .tooLate hr fun d hd' => ?_
        cases hd.symm.trans hd'
        exact hlt
    · exact .tooLate hr fun d hd' => by cases hd.symm.trans hd'
  · rename_i hr
    exact .failed (Bool.not_eq_true _ ▸ hr)

namespace Pursuit

/-- A snapshot has just arrived, and what is next for it may have been scheduled. -/
theorem of_arrival {l : Lease} {d : SecretData} (hu : w.nextSnapshot = u.nextSnapshot)
    (hw : Adds none none w u) (hk : ∀ t ∈ k, t.job.snapshot = (u.mint l d).1)
    (hx : Adds k none (u.mint l d).2 v) : Pursuit w m v := by
  have hy : Adds k none w v := (hw.mint l d).trans hx
  cases k with
  | none => exact .eases hy
  | some t =>
    have ht := congrArg Snapshot.serial (hk t rfl)
    exact .arrives hy (Nat.le_of_eq (hu.trans ht.symm)) (ht ▸ hx.snapshots)

theorem of_firstFetch (op : Nat) (h : Handle) (r : Except Fault (Option Secret)) :
    Pursuit w m (w.afterFirstFetch op h r) := by
  have hx := Adds.refl w
  unfold World.afterFirstFetch
  split
  · exact .eases hx
  rename_i e _
  have hforget : ∀ f, Pursuit w m ((w.forget h).finish op (.refused f)) :=
    fun f => .eases ((hx.forget h).finish ..)
  match r with
  | .ok (some secret) =>
    obtain ⟨k, hk, hc⟩ := ((((Adds.refl (w.mint secret.lease secret.data).2).modify e.handle fun e =>
      { e with snapshot := some (w.mint secret.lease secret.data).1, standing := .registered }).updateGauge
        ).publish e (.created secret.lease secret.data)).scheduleCare { e with standing := .registered }
          (w.mint secret.lease secret.data).1
    exact of_arrival rfl hx hk ((Adds.refl _).register op e _ hc)
  | .ok none =>
    dsimp only
    split
    · exact hforget _
    · exact .eases (hx.register _ _ _ ((hx.modify ..).updateGauge.publish ..))
  | .error f =>
    dsimp only
    split
    · exact hforget _
    · exact .eases (hx.register _ _ _ ((hx.modify ..).updateGauge.publish ..))

theorem of_fetch (op : Nat) (h : Handle) (previous : Lease) (cause : Cause)
    (r : Except Fault (Option Secret)) : Pursuit w m (w.afterFetch op h previous cause r) := by
  have hx := Adds.refl w
  unfold World.afterFetch
  split
  · exact .eases hx
  rename_i e _
  have ht := fun ok => hx.tally (.rotation e.request.mode ok)
  match r with
  | .ok (some secret) =>
    obtain ⟨k, hk, hc⟩ := ((Adds.refl ((w.tally (.rotation e.request.mode true)).mint secret.lease
      secret.data).2).install h (some ((w.tally (.rotation e.request.mode true)).mint secret.lease
        secret.data).1)).cares e ((w.tally (.rotation e.request.mode true)).mint secret.lease
          secret.data).1 (.rotated previous secret.lease secret.data) (w.isLive e)
    exact of_arrival (u := w.tally (.rotation e.request.mode true)) rfl (ht true) hk (hc.leave ..)
  | .ok none =>
    refine .eases (.endFetch ?_ ..)
    split
    · exact (ht false).publish e .notFound
    · exact ht false
  | .error f =>
    refine .eases (.endFetch ?_ ..)
    split
    · exact (ht false).publish e (.failed previous f)
    · exact ht false

theorem of_renewal (op : Nat) (h : Handle) (s : Snapshot) (l : Lease) :
    Pursuit w m (w.afterRenewal op h s (.ok l)) := by
  have hx := Adds.refl w
  unfold World.afterRenewal
  split
  · exact .eases hx
  rename_i e _
  obtain ⟨k, hk, hc⟩ := ((Adds.refl ((w.tally (.renewal .lease true)).mint l s.data).2).install h
    (some ((w.tally (.renewal .lease true)).mint l s.data).1)).cares e
      ((w.tally (.renewal .lease true)).mint l s.data).1 (.renewed s.lease l) (w.isLive e)
  exact of_arrival (u := w.tally (.renewal .lease true)) rfl (hx.tally _) hk (hc.leave ..)

/-- A renewal that failed is tried again while there is time, or the lease is lost. -/
theorem of_failure {since : Instant} (hp : w.point? op = some (.renewing h s since)) (f : Fault) :
    Pursuit w m (w.afterRenewal op h s (.error f)) := by
  have hx := (Adds.refl w).tally (.renewal .lease false)
  unfold World.afterRenewal
  split
  · exact .eases (.refl w)
  rename_i e _
  dsimp only
  split
  · have hy := hx.publish e (.failed s.lease f)
    have hf := fails_afterFailure (w.tally (.renewal .lease false)) op e s f
    generalize World.afterFailure _ op e s f = v at hf
    cases hf with
    | retried _ hd hlt =>
      refine .retries hp ?_ (((hy.askTrigger _).replaceTask ..).leave ..) rfl rfl hlt hd
      exact (point?_finish ..).trans (if_pos rfl)
    | tooLate _ _ => exact .eases ((hy.askTrigger _).expire ..)
    | failed _ => exact .eases (hy.expire ..)
  · exact .eases (hx.leave ..)

/-- A task that has been started comes to the lock. -/
theorem of_task {t : Task Job} {q : Schedule Job} (hb : w.Booked) (hf : w.Fires m t q) :
    Pursuit w m (({ w with schedule := q } : World).run t.job) := by
  have hd : q.discipline = w.schedule.discipline := by
    cases hf with
    | due h => exact Schedule.discipline_startDue h
    | next h => exact Schedule.discipline_startNext h
  have hst := hf.starts hb.numbered
  have hstarts := Adds.starts hst hd
  have hcomes : ∀ {v : World} {p : Point}, p.pursued? = some t.job.snapshot →
      Adds none (some (w.nextOperation, p)) { w with schedule := q } v → Pursuit w m v := fun hp hv =>
    .comes hf hp (fun ht => (hst.not_mem ((hv.live t ht).resolve_right nofun)).2 rfl) (hstarts.trans hv)
  have hx := (Adds.refl ({ w with schedule := q } : World)).enroll
  unfold World.run
  split
  · split
    · exact .eases hstarts
    · rename_i e _
      have hq := hx.modify e.handle fun e => { e with lock := e.lock ++ [w.nextOperation] }
      dsimp only [World.want]
      split
      · rcases hq.act w.nextOperation e t.job.snapshot t.job.action with hq | ⟨-, hq⟩
        · exact .eases (hstarts.trans hq)
        · exact hcomes rfl hq
      · exact hcomes rfl (hq.goes _ _)
  · exact .eases hstarts

end Pursuit

/-- Whatever a step does, it adds one task or operation at most. -/
theorem Pursuit.adds (hp : Pursuit w m v) : ∃ k x, Adds k x w v := by
  cases hp with
  | eases hx | arrives hx _ _ | comes _ _ _ hx | enters _ _ hx | retries _ _ hx _ _ _ _ =>
    exact ⟨_, _, hx⟩

theorem pursuit_of_step (hb : w.Booked) (hs : step w m = some v) : Pursuit w m v := by
  have hx := Adds.refl w
  have ht := turn_of_step hs
  cases ht with
  | @begins r _ =>
    cases r with
    | add request source => exact .eases (hx.enroll.add ..)
    | remove h => exact .eases (hx.enroll.remove ..)
    | rotate h => exact .eases (hx.enroll.rotate ..)
    | destroy => exact .eases (hx.enroll.destroy ..)
  | runs hf => exact .of_task hb hf
  | @enters op h errand e hp he _ =>
    obtain rfl := find_handle he
    cases errand with
    | act s a =>
      rcases hx.act op e s a with hx | ⟨hv, hx⟩
      · exact .eases hx
      · exact .enters hp hv hx
    | rotate | remove => exact .eases (hx.withLock _ _ nofun)
  | opens _ => exact .eases (hx.remove ..)
  | fetchedFirst _ => exact .of_firstFetch ..
  | fetchedAgain _ => exact .of_fetch ..
  | @renewed _ _ _ _ r hp =>
    cases r with
    | ok l => exact .of_renewal ..
    | error f => exact .of_failure hp f
  | revoked _ => exact .eases (hx.afterRevocation ..)
  | @elapses t =>
    simp only [step, World.elapse] at hs
    split at hs
    · rename_i hle
      exact .eases { hx with now := hle.1 }
    · cases hs
  | releases =>
    refine .eases (.reap ?_)
    exact hx.same rfl rfl rfl rfl rfl (Nat.le_refl _)
  | stops => exact .eases (.stop w)
  | listens | unlistens => exact .eases (hx.same rfl rfl rfl rfl rfl (Nat.le_refl _))

/-! ## One hand for each snapshot -/

/-- A task that can still start, or an operation, is after a snapshot. -/
inductive Pursues (w : World) (s : Snapshot) : Task Job ⊕ Nat → Prop
  | waits {t : Task Job} : t ∈ w.schedule.live → t.job.snapshot = s → Pursues w s (.inl t)
  | works {a : Nat} {p : Point} : w.point? a = some p → p.pursued? = some s → Pursues w s (.inr a)

/-- No two are after the same snapshot, no two snapshots that somebody is after have the same number,
and none of these numbers is yet to come. -/
structure Sole (w : World) : Prop where
  one : ∀ s r x y, Pursues w s x → Pursues w r y → s.serial = r.serial → s = r ∧ x = y
  fresh : ∀ s x, Pursues w s x → s.serial < w.nextSnapshot

variable {r : Snapshot} {y : Task Job ⊕ Nat}

/-- Whoever is after a snapshot was so before, or has been added. -/
theorem Adds.pursues (hx : Adds k x w v) (hp : Pursues v r y) : Pursues w r y ∨
    (∃ t ∈ k, t.job.snapshot = r ∧ y = .inl t) ∨
      ∃ a p, (a, p) ∈ x ∧ v.point? a = some p ∧ p.pursued? = some r ∧ y = .inr a := by
  cases hp with
  | waits ht hr =>
    rcases hx.live _ ht with ht | ht
    · exact .inl (.waits ht hr)
    · exact .inr (.inl ⟨_, ht, hr, rfl⟩)
  | works ha hr =>
    rcases hx.points _ _ ha (by simp [hr]) with hw | hw
    · exact .inl (.works hw hr)
    · exact .inr (.inr ⟨_, _, hw, ha, hr, rfl⟩)

namespace Sole

/-- Nobody else has come to be after a snapshot. -/
theorem of_subset (hw : Sole w) (hn : w.nextSnapshot ≤ v.nextSnapshot)
    (hold : ∀ r y, Pursues v r y → Pursues w r y) : Sole v :=
  ⟨fun s r x y hx hy => hw.one s r x y (hold s x hx) (hold r y hy),
    fun s x hx => Nat.lt_of_lt_of_le (hw.fresh s x (hold s x hx)) hn⟩

/-- Somebody is after a snapshot that has just arrived. -/
theorem arrives (hw : Sole w) {z : Task Job ⊕ Nat} (hge : w.nextSnapshot ≤ s.serial)
    (hlt : s.serial < v.nextSnapshot)
    (hold : ∀ r y, Pursues v r y → Pursues w r y ∨ r = s ∧ y = z) : Sole v := by
  refine ⟨fun a b x y hx hy he => ?_, fun a x hx => ?_⟩
  · rcases hold a x hx with hx | ⟨rfl, rfl⟩ <;> rcases hold b y hy with hy | ⟨rfl, rfl⟩
    · exact hw.one a b x y hx hy he
    · exact absurd (hw.fresh a x hx) (Nat.not_lt.mpr (he ▸ hge))
    · exact absurd (hw.fresh b y hy) (Nat.not_lt.mpr (he ▸ hge))
    · exact ⟨rfl, rfl⟩
  · rcases hold a x hx with hx | ⟨rfl, -⟩
    · exact Nat.lt_of_lt_of_le (hw.fresh a x hx) (Nat.le_trans hge (Nat.le_of_lt hlt))
    · exact hlt

/-- Somebody takes a snapshot over from who was after it. -/
theorem hands (hw : Sole w) (z z' : Task Job ⊕ Nat) (hn : w.nextSnapshot ≤ v.nextSnapshot)
    (hz : Pursues w s z)
    (hold : ∀ r y, Pursues v r y → Pursues w r y ∧ y ≠ z ∨ r = s ∧ y = z') : Sole v := by
  refine ⟨fun a b x y hx hy he => ?_, fun a x hx => ?_⟩
  · rcases hold a x hx with ⟨hx, hne⟩ | ⟨rfl, rfl⟩ <;> rcases hold b y hy with ⟨hy, hne'⟩ | ⟨rfl, rfl⟩
    · exact hw.one a b x y hx hy he
    · exact absurd (hw.one a b x z hx hz he).2 hne
    · exact absurd (hw.one b a y z hy hz he.symm).2 hne'
    · exact ⟨rfl, rfl⟩
  · rcases hold a x hx with ⟨hx, -⟩ | ⟨rfl, -⟩
    · exact Nat.lt_of_lt_of_le (hw.fresh a x hx) hn
    · exact Nat.lt_of_lt_of_le (hw.fresh a z hz) hn

end Sole

theorem sole_initial (settings : Settings) (d : Discipline) (draws : Nat → Nat) :
    Sole (initial settings d draws) := by
  have hno : ∀ s x, ¬ Pursues (initial settings d draws) s x := fun s x hx => by
    cases hx with
    | waits ht _ => cases ht
    | works hp _ => cases hp
  exact ⟨fun s _ x _ hx => absurd hx (hno s x), fun s x hx => absurd hx (hno s x)⟩

theorem sole_of_step (hw : Sole w) (hb : w.Booked) (hs : step w m = some v) : Sole v := by
  cases pursuit_of_step hb hs with
  | eases hx =>
    refine hw.of_subset hx.snapshots fun r y hy => ?_
    rcases hx.pursues hy with hy | ⟨t, ht, -⟩ | ⟨_, _, ha, -⟩
    · exact hy
    · cases ht
    · cases ha
  | @arrives t hx hge hlt =>
    refine hw.arrives (z := .inl t) hge hlt fun r y hy => ?_
    rcases hx.pursues hy with hy | ⟨t', ht, rfl, rfl⟩ | ⟨_, _, ha, -⟩
    · exact .inl hy
    · cases ht
      exact .inr ⟨rfl, rfl⟩
    · cases ha
  | @comes t q p hf hp hgone hx =>
    refine hw.hands (.inl t) (.inr w.nextOperation) hx.snapshots
      (.waits (hf.starts hb.numbered).mem rfl) fun r y hy => ?_
    rcases hx.pursues hy with hold | ⟨_, ht, -⟩ | ⟨_, _, ha, -, hr, rfl⟩
    · refine .inl ⟨hold, fun he => ?_⟩
      subst he
      cases hy with
      | waits ht _ => exact hgone ht
    · cases ht
    · cases ha
      exact .inr ⟨(Option.some.inj (hp.symm.trans hr)).symm, rfl⟩
  | @enters op h s a i hp hv hx =>
    refine hw.hands (.inr op) (.inr op) hx.snapshots (.works hp rfl) fun r y hy => ?_
    rcases hx.pursues hy with hold | ⟨_, ht, -⟩ | ⟨_, _, ha, -, hr, rfl⟩
    · by_cases he : y = .inr op
      · subst he
        cases hy with
        | works ha hr =>
          cases hv.symm.trans ha
          exact .inr ⟨(Option.some.inj hr).symm, rfl⟩
      · exact .inl ⟨hold, he⟩
    · cases ht
    · cases ha
      exact .inr ⟨(Option.some.inj hr).symm, rfl⟩
  | @retries op _ h s _ _ t hp hv hx ht _ _ _ =>
    refine hw.hands (.inr op) (.inl t) hx.snapshots (.works hp rfl) fun r y hy => ?_
    rcases hx.pursues hy with hold | ⟨t', ht', rfl, rfl⟩ | ⟨_, _, ha, -⟩
    · refine .inl ⟨hold, fun he => ?_⟩
      subst he
      cases hy with
      | works ha _ => cases hv.symm.trans ha
    · cases ht'
      exact .inr ⟨ht, rfl⟩
    · cases ha

end Leases

end LeaseKeeper
