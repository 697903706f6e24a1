import LeaseKeeper.Proofs.Leases.Reflection

/-!
# How engines go on mirroring each other

After a step about the secret, which is taken in both engines, these mirror each other again
(`Reflected.mirrors`). A step about another secret is not taken in the engine in which the secret is
alone; the numbers that are given out next are others then (`Mirrors.foreign`). Time passes in both.
When nobody holds the shared engine any more, the other one is let go, and nothing is left to be done
in it (`Deserted`).
-/

namespace LeaseKeeper.Leases

open World

variable {c : Prop} {r : Renaming} {h : Handle} {w w' u u' : World} {m m' : Move} {op : Nat}

/-! ## Steps about the secret -/

/-- After a step that is taken in both, the engines mirror each other if the shared one is still
held. -/
theorem Reflected.mirrors (hr : Reflected r h w u m w' m' u' op) (ho : Orderly w') (ho' : Orderly u')
    (ha : w'.isAlive = true) : Mirrors r h w' u' := by
  have hx := hr.ended
  have hm := hx.base
  obtain ⟨_, _, _, _, _, hfw⟩ := hx.shared.frame
  obtain ⟨_, _, _, _, _, hfu⟩ := hx.alone.frame
  have hpoints : ∀ {a q}, u'.point? a = some q → a ≠ op → u.point? a = some q :=
    fun hq hn => hfu.points _ hn ▸ hq
  exact
    { shared := ho
      alone := ho'
      now := hx.now
      fixed := hx.fixed
      strategy := hx.shared.strategy.trans (hm.strategy.trans hx.alone.strategy.symm)
      increment := hx.shared.increment.trans (hm.increment.trans hx.alone.increment.symm)
      unlocked := hx.unlocked
      timed := ⟨hx.shared.discipline.trans hm.timed.1, hx.alone.discipline.trans hm.timed.2⟩
      stopped := hx.stopped
      alive := ha
      held := hx.held
      face := hx.face
      points := fun a => by
        by_cases hn : a = op
        · rw [hn]
          exact hx.point
        · rw [hfw.points _ fun h => hn (r.op_injective h), hfu.points a hn]
          exact hm.points a
      onto := fun b q hq hw => by
        by_cases hn : b = r.op op
        · exact ⟨op, hn.symm⟩
        · exact hm.onto b q (hfw.points b hn ▸ hq) hw
      plan := hx.plan ha
      ops := hx.ops
      serials := hx.serials
      next := hx.next
      faceDated := hx.faceDated
      pointsDated := fun a q s hq hs => by
        by_cases hn : a = op
        · exact hx.pointDated q s (hn ▸ hq) hs
        · exact Nat.lt_of_lt_of_le (hm.pointsDated a q s (hpoints hq hn) hs) hx.alone.snapshots
      planDated := hx.planDated
      faces := fun k hk => (hfu.faces k hk).trans (hm.faces k hk)
      wants := fun a q hq => by
        by_cases hn : a = op
        · exact hx.alone.point q (hn ▸ hq)
        · exact hm.wants a q (hpoints hq hn)
      live := fun t ht => by
        by_contra hne
        exact hne (hm.live t (hfu.others t ht hne)) }

/-- If nobody holds the shared engine, in which every operation on the secret is, then nothing is under
way in the other one. -/
theorem operations_eq_nil (hp : ∀ a q, u.point? a = some q → w.point? (r.op a) = some (q.rename r))
    (ha : w.isAlive = false) : u.operations = [] := by
  cases hops : u.operations with
  | nil => rfl
  | cons x xs =>
    have hx : u.point? x.1 = some x.2 := by
      rw [World.point?, hops, List.lookup_cons, beq_self_eq_true]
    exact absurd (isAlive_of_point? (hp _ _ hx)) (by rw [ha]; decide)

theorem Reflected.operations_eq_nil (hr : Reflected r h w u m w' m' u' op)
    (ha : w'.isAlive = false) : u'.operations = [] := by
  have hx := hr.ended
  obtain ⟨_, _, _, _, _, hfw⟩ := hx.shared.frame
  obtain ⟨_, _, _, _, _, hfu⟩ := hx.alone.frame
  refine Leases.operations_eq_nil (r := r) (fun a q hq => ?_) ha
  by_cases hn : a = op
  · subst hn
    rw [hx.point, hq]
    rfl
  · rw [hfw.points _ fun h => hn (r.op_injective h), hx.base.points, ← hfu.points a hn, hq]
    rfl

/-! ## Steps about other secrets -/

/-- A step about another secret leaves the tasks of the secret alone while the engine is held. -/
theorem Confined.plan_eq {k : Handle} (hx : Confined (w'.isAlive = true) w w' op k) (hb : w.Booked)
    (hk : k ≠ h) (ha : w'.isAlive = true) : w'.plan h = w.plan h := by
  obtain ⟨_, _, _, _, _, hf⟩ := hx.frame
  by_cases ht : ∃ t ∈ w.schedule.live, t.job.handle = h
  · obtain ⟨t, ht, rfl⟩ := ht
    rw [hb.plan_eq ht rfl, hf.booked.plan_eq (hf.spared ha t ht (Ne.symm hk)) rfl]
  · simp only [not_exists, not_and] at ht
    rw [plan_eq_nil ht, plan_eq_nil fun t hl hh => ht t (hf.others t hl fun hj => hk (hj.symm.trans hh)) hh]

/-- No operation on the secret gets on in a step about another one. -/
theorem Mirrors.op_ne (hm : Mirrors r h w u) {k : Handle} (hw : Wanting w op k) (hk : k ≠ h) {a : Nat}
    (ha : a < u.nextOperation) : r.op a ≠ op := fun hop => by
  rcases hw with rfl | ⟨q', hq', hwant⟩
  · exact Nat.ne_of_lt ha (r.op_injective (hop.trans (hm.ops 0).symm))
  · obtain ⟨q, hq, rfl⟩ := Option.map_eq_some_iff.mp ((hm.points a).symm.trans (hop ▸ hq'))
    rw [Point.wants?_rename, hm.wants a q hq] at hwant
    exact hk (Option.some.inj hwant).symm

theorem Mirrors.operations_eq_nil (hm : Mirrors r h w u) {k : Handle} (hx : Confined c w w' op k)
    (hw : Wanting w op k) (hk : k ≠ h) (ha : w'.isAlive = false) : u.operations = [] := by
  obtain ⟨_, _, _, _, _, hf⟩ := hx.frame
  refine Leases.operations_eq_nil (r := r) (fun a q hq => ?_) ha
  rw [hf.points _ (hm.op_ne hw hk (hm.alone.calm.fresh _ _ hq)), hm.points, hq]
  rfl

/-- A step about another secret need not be taken; only the numbers that are given out next are
others. -/
theorem Mirrors.foreign (hm : Mirrors r h w u) {k : Handle}
    (hx : Confined (w'.isAlive = true) w w' op k) (hw : Wanting w op k) (hk : k ≠ h)
    (ho : Orderly w') (ha : w'.isAlive = true) :
    ∃ r', Mirrors r' h w' u ∧ ∀ a < u.nextOperation, r'.op a = r.op a := by
  obtain ⟨_, _, _, _, _, hf⟩ := hx.frame
  obtain ⟨f, hfi, hfl, hfr⟩ := Renaming.exists_resumed r.op_injective hm.ops hf.nextOperation
  obtain ⟨g, hgi, hgl, hgr⟩ := Renaming.exists_resumed r.serial_injective hm.serials hx.snapshots
  obtain ⟨t, htw, htu, hrand⟩ := hm.fixed
  have hlt : ∀ {a q}, u.point? a = some q → a < u.nextOperation := fun hq => hm.alone.calm.fresh _ _ hq
  refine ⟨⟨f, g, hfi, hgi⟩, { hm with
    shared := ho
    now := hx.now.trans hm.now
    fixed := ⟨t, hf.fixed t htw, htu, hrand⟩
    strategy := hx.strategy.trans hm.strategy
    increment := hx.increment.trans hm.increment
    unlocked := ⟨hx.destroyed.trans hm.unlocked.1, hm.unlocked.2⟩
    timed := ⟨hx.discipline.trans hm.timed.1, hm.timed.2⟩
    stopped := hf.stopped.trans hm.stopped
    alive := ha
    face := ?_
    points := fun a => ?_
    onto := fun b q hq hwant => ?_
    plan := ?_
    ops := hfl
    serials := hgl
    next := fun hle => hm.next (Nat.le_trans hf.nextHandle hle) }, hfr⟩
  · rw [hf.faces h (Ne.symm hk), hm.face]
    refine Option.map_congr fun e he => (Entry.rename_congr (fun a ha => ?_) fun s hs => ?_).symm
    · obtain ⟨q, hq, -⟩ := (hm.alone.mem_lock h e he a).mp ha
      exact hfr a (hlt hq)
    · exact hgr _ (hm.faceDated e s he hs)
  · show w'.point? (f a) = (u.point? a).map (·.rename ⟨f, g, hfi, hgi⟩)
    by_cases hlt' : a < u.nextOperation
    · rw [hfr a hlt', hf.points _ (hm.op_ne hw hk hlt'), hm.points]
      exact Option.map_congr fun q hq =>
        (Point.rename_congr fun s hs => hgr _ (hm.pointsDated a q s hq hs)).symm
    · obtain ⟨j, rfl⟩ := Nat.exists_eq_add_of_le (Nat.not_lt.mp hlt')
      have hnone : ∀ {v : World} {n : Nat}, Orderly v → v.point? (v.nextOperation + n) = none :=
        fun {v n} hv => by
          cases hq : v.point? (v.nextOperation + n) with
          | none => rfl
          | some q => exact absurd (hv.calm.fresh _ _ hq) (Nat.not_lt.mpr (Nat.le_add_right ..))
      rw [hfl, hnone ho, hnone hm.alone]
      rfl
  · have hop : b ≠ op := fun hb => by
      subst hb
      exact hk (Option.some.inj ((hx.point q hq).symm.trans hwant))
    rw [hf.points b hop] at hq
    obtain ⟨a, q', rfl, hq', -⟩ := hm.point hq hwant
    exact ⟨a, hfr a (hlt hq')⟩
  · rw [hx.plan_eq hm.shared.booked hk ha, hm.plan]
    refine List.map_congr_left fun x hx' => ?_
    have hsnap : x.2.snapshot.rename ⟨f, g, hfi, hgi⟩ = x.2.snapshot.rename r :=
      Snapshot.rename_congr (hgr _ (hm.planDated x hx'))
    exact congrArg (fun s => (x.1, { x.2 with snapshot := s })) hsnap.symm

/-! ## Steps about no secret -/

namespace Mirrors

/-- Time passes in both; no task is left behind, for the tasks of the secret are due at the same
times. -/
theorem elapse (hm : Mirrors r h w u) {t : Instant} (hs : w.elapse t = some w') :
    w' = { w with now := t } ∧ u.elapse t = some { u with now := t } ∧
      Mirrors r h { w with now := t } { u with now := t } := by
  unfold World.elapse at hs
  split at hs <;> simp only [Option.some.injEq, reduceCtorEq] at hs
  rename_i hpass
  obtain ⟨hle, hpunctual⟩ := hpass
  have hpunctual' : u.isPunctual t = true := by
    simp only [World.isPunctual, hm.timed.1, hm.timed.2, List.all_eq_true, decide_eq_true_eq] at hpunctual ⊢
    intro x hx
    have hplan := hm.plan
    rw [hm.alone.booked.plan_eq hx (hm.live x hx)] at hplan
    obtain ⟨y, hy, hdue⟩ := List.mem_map.mp (show (x.due, x.job.rename r) ∈ w.plan h from
      hplan ▸ List.mem_singleton_self _)
    have := hpunctual y (mem_tasks.mp hy).1
    rwa [show y.due = x.due from congrArg Prod.fst hdue] at this
  have hstep : u.elapse t = some { u with now := t } := if_pos ⟨hm.now ▸ hle, hpunctual'⟩
  have hw : step w (.elapse t) = some { w with now := t } := if_pos ⟨hle, hpunctual⟩
  exact ⟨hs.symm, hstep, { hm with
    shared := orderly_of_step hm.shared hw hm.unlocked.1
    alone := orderly_of_step (m := .elapse t) hm.alone hstep hm.unlocked.2
    now := rfl }⟩

/-- The scheduler is stopped in both. -/
theorem stop (hm : Mirrors r h w u) : Mirrors r h w.stop u.stop := by
  have hstop : ∀ {v : World}, v.schedule.discipline = .timed → v.schedule.stop.stopped = true ∧
      v.schedule.stop.discipline = .timed := fun {v} hv => by
    unfold Schedule.stop
    split
    · exact absurd (hv.symm.trans ‹_›) (by decide)
    · exact ⟨rfl, hv⟩
  obtain ⟨hsw, hdw⟩ := hstop hm.timed.1
  obtain ⟨hsu, hdu⟩ := hstop hm.timed.2
  have hplan : ∀ {v : World}, v.schedule.stopped = true → v.plan h = [] := fun hv =>
    plan_eq_nil fun t ht => by
      rw [Schedule.live_of_stopped hv] at ht
      cases ht
  have hw : w.stop.plan h = [] := hplan hsw
  have hu : u.stop.plan h = [] := hplan hsu
  exact { hm with
    shared := orderly_of_step (m := .stop) hm.shared rfl hm.unlocked.1
    alone := orderly_of_step (m := .stop) hm.alone rfl hm.unlocked.2
    timed := ⟨hdw, hdu⟩
    stopped := hsw.trans hsu.symm
    plan := by
      rw [hw, hu]
      rfl
    planDated := fun x hx => by
      rw [hu] at hx
      cases hx
    live := fun t ht => by
      rw [show u.stop.schedule.live = [] from Schedule.live_of_stopped hsu] at ht
      cases ht }

/-- That observers come and go in the shared engine is of no account in the other one. -/
theorem hear (hm : Mirrors r h w u) {a : Audience LeaseEvent View}
    (ho : Orderly { w with audience := a }) : Mirrors r h { w with audience := a } u :=
  { hm with shared := ho }

/-- Nor is it that somebody lets go, as long as another one holds the shared engine. -/
theorem release (hm : Mirrors r h w u) (ha : w.release.isAlive = true) : Mirrors r h w.release u := by
  have ho := orderly_of_step (m := .release) hm.shared rfl
    ((destroyed_reap { w with held := false }).trans hm.unlocked.1)
  have heq := release_of_isAlive ha
  rw [heq] at ho ha ⊢
  exact { hm with shared := ho, alive := ha }

end Mirrors

/-! ## Engines that nobody holds -/

/-- Nobody holds either engine any more, and there is nothing left to be done in the one. -/
structure Deserted (r : Renaming) (h : Handle) (w u : World) : Prop where
  now : w.now = u.now
  face : w.face? h = (u.face? h).map (·.rename r)
  shared : w.isAlive = false
  alone : u.isAlive = false
  idle : u.schedule.live = []

/-- The tasks of an engine that nobody holds are cancelled if their entries can be found. -/
theorem live_of_reap (hb : w.Booked) (ha : w.isAlive = false) {t : Task Job}
    (ht : t ∈ w.reap.schedule.live) : t ∈ w.schedule.live ∧ t.job.handle ∉ w.handles := by
  have hall : ∀ (hs : List Handle) {v : World}, v.Booked →
      t ∈ (hs.foldl World.cancelTask v).schedule.live →
        t ∈ v.schedule.live ∧ t.job.handle ∉ hs := fun hs => by
    induction hs with
    | nil => exact fun _ ht => ⟨ht, List.not_mem_nil⟩
    | cons k hs ih =>
      intro v hv ht
      obtain ⟨hb, hl⟩ := hv.cancelTask k
      obtain ⟨htk, hths⟩ := ih hb ht
      obtain ⟨htv, hne⟩ := (hl t).mp htk
      exact ⟨htv, fun hmem => (List.mem_cons.mp hmem).elim hne hths⟩
  rw [show w.reap = w.handles.foldl World.cancelTask w from if_neg (by rw [ha]; decide)] at ht
  exact hall w.handles hb ht

/-- An engine in which no operation is under way is deserted by its last holder. -/
theorem deserted_of_release (ho : Orderly u) (hops : u.operations = []) (hn : w.now = u.now)
    (hf : w.face? h = (u.face? h).map (·.rename r)) (ha : w.isAlive = false) :
    Deserted r h w u.release := by
  have hdead : World.isAlive { u with held := false } = false := by
    simp [World.isAlive, hops]
  have hb : World.Booked { u with held := false } := ho.booked.same rfl fun _ => rfl
  have hdead' := hdead
  rw [← isAlive_reap] at hdead'
  refine ⟨?_, hf.trans (congrArg _ (hb.reap.2.2 h).symm), ha, hdead',
    List.eq_nil_iff_forall_not_mem.mpr fun t ht => ?_⟩
  · obtain ⟨_, _, he, -⟩ := reap_eq { u with held := false }
    rw [show u.release = _ from he]
    exact hn
  · obtain ⟨hlive, hnot⟩ := live_of_reap hb hdead ht
    -- Every task is of an entry that is registered.
    obtain ⟨e, he, -⟩ := ho.booked.slot_live t hlive
    have hst := ho.calm.working t hlive _ (face?_some he)
    refine hnot (List.mem_map.mpr
      ⟨e, List.mem_filter.mpr ⟨List.mem_of_find?_eq_some he, ?_⟩, find_handle he⟩)
    rw [Entry.isRegistered, show e.standing = .registered from hst]
    rfl

/-- Once the shared engine was let go by its last holder, so is the other one. -/
theorem Mirrors.deserted (hm : Mirrors r h w u) (ha : w.release.isAlive = false) :
    Deserted r h w.release u.release := by
  obtain ⟨_, _, he, -⟩ := reap_eq { w with held := false }
  have hnow : w.release.now = u.now := by
    rw [show w.release = _ from he]
    exact hm.now
  have hface : w.release.face? h = w.face? h :=
    (hm.shared.booked.same (u := { w with held := false }) rfl fun _ => rfl).reap.2.2 h
  have hops : u.operations = [] := Leases.operations_eq_nil (w := w.release) (r := r) (fun a q hq => by
    rw [show w.release = _ from he]
    exact (hm.points a).trans (by rw [hq]; rfl)) ha
  exact deserted_of_release hm.alone hops hnow (hface.trans hm.face) ha

/-- Time passes in deserted engines, and that is all that happens. -/
theorem Deserted.turn (hd : Deserted r h w u) (hb : w.Booked) (ht : Turn w m w') :
    (∃ t, m = .elapse t ∧ w' = { w with now := t }) ∨
      Deserted r h w' u ∧ w'.history = w.history ∧ ∀ k, w'.face? k = w.face? k := by
  have hdead : ¬ w.isAlive = true := by rw [hd.shared]; decide
  have hpoint : ∀ {op p}, w.point? op = some p → False := fun hp => hdead (isAlive_of_point? hp)
  cases ht with
  | begins hh => exact absurd (isAlive_iff.mpr (.inl hh)) hdead
  | @runs _ t s _ =>
    rw [show ({ w with schedule := s } : World).run t.job = { w with schedule := s } from if_neg hdead]
    exact .inr ⟨{ hd with }, rfl, fun _ => rfl⟩
  | elapses => exact .inl ⟨_, rfl, rfl⟩
  | releases =>
    have hf := (hb.same (u := { w with held := false }) rfl fun _ => rfl).reap.2.2
    have ha : w.release.isAlive = false := by
      cases hal : w.release.isAlive with
      | false => rfl
      | true => exact absurd (alive_of_turn .releases hal) hdead
    obtain ⟨_, _, he, -⟩ := reap_eq { w with held := false }
    unfold World.release at ha ⊢
    rw [he] at hf ha ⊢
    exact .inr ⟨{ hd with face := (hf h).trans hd.face, shared := ha }, rfl, hf⟩
  | stops | listens | unlistens => exact .inr ⟨{ hd with }, rfl, fun _ => rfl⟩
  | _ => exact (hpoint ‹_›).elim

theorem Deserted.elapse (hd : Deserted r h w u) {t : Instant} (hle : w.now ≤ t) :
    u.elapse t = some { u with now := t } ∧ Deserted r h { w with now := t } { u with now := t } := by
  refine ⟨if_pos ⟨hd.now ▸ hle, ?_⟩, { hd with now := rfl }⟩
  unfold World.isPunctual
  rw [hd.idle]
  split <;> rfl

end LeaseKeeper.Leases
