import LeaseKeeper.Proofs.Leases.Onward
import LeaseKeeper.Proofs.Leases.Renaming

/-!
# Two engines that are alike for one secret

An engine in which a secret is alone mirrors one that it shares with others if the two differ, as far
as that secret is concerned, in the numbers that they have given out and in nothing else (`Mirrors`).
On the way of an operation on the secret they stay so (`Alike`): whatever a part that steps are made
of does in the one, it does in the other. Here are the parts, one by one.
-/

namespace LeaseKeeper.Leases

namespace World

/-- When the tasks of an entry are due, and what they do. -/
def plan (w : World) (h : Handle) : List (Instant × Job) := (w.tasks h).map fun t => (t.due, t.job)

variable {w : World} {h : Handle} {e : Entry}

theorem Booked.plan_eq (hb : w.Booked) {t : Task Job} (ht : t ∈ w.schedule.live)
    (hh : t.job.handle = h) : w.plan h = [(t.due, t.job)] := by
  rw [plan, hb.tasks_eq (mem_tasks.mpr ⟨ht, hh⟩)]
  rfl

theorem plan_eq_nil (hn : ∀ t ∈ w.schedule.live, t.job.handle ≠ h) : w.plan h = [] := by
  rw [plan, List.map_eq_nil_iff, List.eq_nil_iff_forall_not_mem]
  exact fun t ht => hn t (mem_tasks.mp ht).1 (mem_tasks.mp ht).2

theorem Booked.plan_cancelTask (hb : w.Booked) (h : Handle) : (w.cancelTask h).plan h = [] :=
  plan_eq_nil fun t ht => (((hb.cancelTask h).2 t).mp ht).2

theorem Booked.plan_replaceTask (hb : w.Booked) (he : w.entry? h = some e) (delay : Span)
    (s : Snapshot) (a : Action) : (w.replaceTask h delay s a).plan h =
      if w.schedule.stopped then [] else [(w.now.plus delay, ⟨h, s, a⟩)] := by
  obtain ⟨hb', -, hsup⟩ := hb.replaceTask he delay s a
  cases hr : w.schedule.stopped with
  | false => exact hb'.plan_eq (hsup hr _ (.inr rfl)) rfl
  | true =>
    refine plan_eq_nil fun t ht => ?_
    have hstop : (w.replaceTask h delay s a).schedule.stopped = true := by
      unfold World.replaceTask
      rw [he]
      exact (Schedule.stopped_cancel? ..).trans hr
    rw [Schedule.live_of_stopped hstop] at ht
    cases ht

end World

open World

/-- An entry of an engine has those numbers in place of the ones in another. -/
structure Twins (r : Renaming) (h : Handle) (e f : Entry) : Prop where
  handle : e.handle = h
  handle' : f.handle = h
  request : e.request = f.request
  source : e.source = f.source
  standing : e.standing = f.standing
  snapshot : e.snapshot = f.snapshot.map (·.rename r)
  lock : e.lock = f.lock.map r.op

/-- Only that secret is in the engine `u`, which somebody holds, and it is there as in `w`, under other
numbers. -/
structure Mirrors (r : Renaming) (h : Handle) (w u : World) : Prop where
  shared : Orderly w
  alone : Orderly u
  now : w.now = u.now
  fixed : ∃ t : FixedTrigger, w.trigger = .fixed t ∧ u.trigger = .fixed t ∧ t.isRandom = false
  strategy : w.strategy = u.strategy
  increment : w.increment = u.increment
  unlocked : w.destroyed = false ∧ u.destroyed = false
  timed : w.schedule.discipline = .timed ∧ u.schedule.discipline = .timed
  stopped : w.schedule.stopped = u.schedule.stopped
  alive : w.isAlive = true
  held : u.held = true
  face : w.face? h = (u.face? h).map (·.rename r)
  points : ∀ a, w.point? (r.op a) = (u.point? a).map (·.rename r)
  onto : ∀ b q, w.point? b = some q → q.wants? = some h → ∃ a, r.op a = b
  plan : w.plan h = (u.plan h).map fun x => (x.1, x.2.rename r)
  ops : ∀ k, r.op (u.nextOperation + k) = w.nextOperation + k
  serials : ∀ k, r.serial (u.nextSnapshot + k) = w.nextSnapshot + k
  next : w.nextHandle ≤ h.serial → u.nextHandle = h.serial
  faceDated : ∀ e s, u.face? h = some e → e.snapshot = some s → s.serial < u.nextSnapshot
  pointsDated : ∀ a q s, u.point? a = some q → q.snapshot? = some s → s.serial < u.nextSnapshot
  planDated : ∀ x ∈ u.plan h, x.2.snapshot.serial < u.nextSnapshot
  faces : ∀ k, k ≠ h → u.face? k = none
  wants : ∀ a q, u.point? a = some q → q.wants? = some h
  live : ∀ t ∈ u.schedule.live, t.job.handle = h

/-- On the way from two engines that mirror each other the operation `op` on the secret has done the
same in both. That the tasks of the secret are the same is known where `c` holds. -/
structure Alike (c : Prop) (r : Renaming) (h : Handle) (w₀ u₀ : World) (op : Nat) (w u : World) :
    Prop where
  base : Mirrors r h w₀ u₀
  shared : Confined False w₀ w (r.op op) h
  alone : Confined False u₀ u op h
  face : w.face? h = (u.face? h).map (·.rename r)
  point : w.point? (r.op op) = (u.point? op).map (·.rename r)
  plan : c → w.plan h = (u.plan h).map fun x => (x.1, x.2.rename r)
  ops : ∀ k, r.op (u.nextOperation + k) = w.nextOperation + k
  serials : ∀ k, r.serial (u.nextSnapshot + k) = w.nextSnapshot + k
  next : w.nextHandle ≤ h.serial → u.nextHandle = h.serial
  history : ∃ hs, u.history = hs ++ u₀.history ∧ w.history = hs.map (·.rename r.op) ++ w₀.history
  faceDated : ∀ e s, u.face? h = some e → e.snapshot = some s → s.serial < u.nextSnapshot
  pointDated : ∀ q s, u.point? op = some q → q.snapshot? = some s → s.serial < u.nextSnapshot
  planDated : ∀ x ∈ u.plan h, x.2.snapshot.serial < u.nextSnapshot

/-- The step is over; tasks are lost in an engine that nobody holds any more. -/
abbrev Ended (r : Renaming) (h : Handle) (w₀ u₀ : World) (op : Nat) (w u : World) : Prop :=
  Alike (w.isAlive = true) r h w₀ u₀ op w u

/-- A change that leaves the task of an entry alone. -/
structure Untied (f : Entry → Entry) : Prop where
  handle : ∀ e, (f e).handle = e.handle
  slot : ∀ e, (f e).slot = e.slot
  bare : ∀ e, (f e).bare = f e.bare

namespace Untied

theorem snapshot (s : Option Snapshot) : Untied fun e => { e with snapshot := s } :=
  ⟨fun _ => rfl, fun _ => rfl, fun _ => rfl⟩

theorem standing (s : Standing) : Untied fun e => { e with standing := s } :=
  ⟨fun _ => rfl, fun _ => rfl, fun _ => rfl⟩

theorem lock (f : List Nat → List Nat) : Untied fun e => { e with lock := f e.lock } :=
  ⟨fun _ => rfl, fun _ => rfl, fun _ => rfl⟩

end Untied

variable {c : Prop} {r : Renaming} {h : Handle} {w₀ u₀ w u : World} {op : Nat} {e f : Entry}
  {s : Snapshot}

namespace Twins

theorem isRotating (ht : Twins r h e f) : e.isRotating = f.isRotating := by
  rw [Entry.isRotating, ht.request]
  rfl

theorem isCurrent (ht : Twins r h e f) (s : Snapshot) : e.isCurrent (s.rename r) = f.isCurrent s := by
  unfold Entry.isCurrent
  rw [ht.snapshot, Option.any_map]
  congr 1
  funext s'
  exact decide_eq_decide.mpr r.serial_injective.eq_iff

end Twins

namespace Alike

/-! ## What is the same -/

section same

variable (hx : Alike c r h w₀ u₀ op w u)

include hx

theorem weaken {c' : Prop} (hc : c' → c) : Alike c' r h w₀ u₀ op w u :=
  { hx with plan := fun h' => hx.plan (hc h') }

theorem now : w.now = u.now := hx.shared.now.trans (hx.base.now.trans hx.alone.now.symm)

theorem unlocked : w.destroyed = false ∧ u.destroyed = false :=
  ⟨hx.shared.destroyed.trans hx.base.unlocked.1, hx.alone.destroyed.trans hx.base.unlocked.2⟩

theorem held : u.held = true := hx.alone.held.trans hx.base.held

theorem fixed : ∃ t : FixedTrigger, w.trigger = .fixed t ∧ u.trigger = .fixed t ∧ t.isRandom = false := by
  obtain ⟨t, hw, hu, hr⟩ := hx.base.fixed
  obtain ⟨_, _, _, _, _, hfw⟩ := hx.shared.frame
  obtain ⟨_, _, _, _, _, hfu⟩ := hx.alone.frame
  exact ⟨t, hfw.fixed t hw, hfu.fixed t hu, hr⟩

theorem threshold : w.trigger.thresholdFor = u.trigger.thresholdFor := by
  obtain ⟨t, hw, hu, -⟩ := hx.fixed
  rw [hw, hu]

theorem stopped : w.schedule.stopped = u.schedule.stopped := by
  obtain ⟨_, _, _, _, _, hfw⟩ := hx.shared.frame
  obtain ⟨_, _, _, _, _, hfu⟩ := hx.alone.frame
  exact hfw.stopped.trans (hx.base.stopped.trans hfu.stopped.symm)

theorem booked : w.Booked ∧ u.Booked :=
  have ⟨_, _, _, _, _, hfw⟩ := hx.shared.frame
  have ⟨_, _, _, _, _, hfu⟩ := hx.alone.frame
  ⟨hfw.booked, hfu.booked⟩

theorem isLive (ht : Twins r h e f) : w.isLive e = u.isLive f := by
  rw [World.isLive, World.isLive, hx.unlocked.1, hx.unlocked.2, ht.standing]

/-- Without jitter, the trigger of both engines tells the same. -/
theorem asks (left : Span) : ∃ d, w.askTrigger left = (some d, (w.askTrigger left).2) ∧
    u.askTrigger left = (some d, (u.askTrigger left).2) := by
  obtain ⟨t, hw, hu, hr⟩ := hx.fixed
  have hdelay : ∀ draw, t.delay draw left = Span.longer (left - t.lead - Span.zero) t.minDelay :=
    fun draw => by rw [FixedTrigger.delay, FixedTrigger.jitter, hr]; rfl
  refine ⟨_, Prod.ext ?_ rfl, Prod.ext (?_ : _ = some (t.delay 0 left)) rfl⟩
  · show (w.trigger.next _ left).1 = some (t.delay 0 left)
    rw [hw, hdelay, ← hdelay (w.draws w.drawn)]
    rfl
  · show (u.trigger.next _ left).1 = some (t.delay 0 left)
    rw [hu, hdelay, ← hdelay (u.draws u.drawn)]
    rfl

/-- The entry of the secret is in both engines, or in neither. -/
theorem entry (he : u.entry? h = some f) : ∃ e, w.entry? h = some e ∧ Twins r h e f := by
  have hface := hx.face
  rw [face?_some he] at hface
  obtain ⟨e, hentry, heq⟩ := Option.map_eq_some_iff.mp hface
  refine ⟨e, hentry, find_handle hentry, find_handle he, ?_, ?_, ?_, ?_, ?_⟩
  · exact (congrArg Entry.request heq : e.bare.request = _)
  · exact (congrArg Entry.source heq : e.bare.source = _)
  · exact (congrArg Entry.standing heq : e.bare.standing = _)
  · exact (congrArg Entry.snapshot heq : e.bare.snapshot = _)
  · exact (congrArg Entry.lock heq : e.bare.lock = _)

theorem entry_none (he : u.entry? h = none) : w.entry? h = none := by
  have hface := hx.face
  rw [face?_none.mpr he] at hface
  exact face?_none.mp hface

/-- The secret can be found in both engines, or in neither. -/
theorem registered : w.registered? h = none ∧ u.registered? h = none ∨
    ∃ e f, w.registered? h = some e ∧ u.registered? h = some f ∧ u.entry? h = some f ∧
      Twins r h e f := by
  unfold registered?
  cases hf : u.entry? h with
  | none =>
    rw [hx.entry_none hf]
    exact .inl ⟨rfl, rfl⟩
  | some f =>
    obtain ⟨e, he, ht⟩ := hx.entry hf
    have hreg : e.isRegistered = f.isRegistered := by
      rw [Entry.isRegistered, ht.standing]
      rfl
    rw [he, Option.filter_some, Option.filter_some, hreg]
    by_cases hr : f.isRegistered = true
    · rw [if_pos hr, if_pos hr]
      exact .inr ⟨e, f, rfl, rfl, rfl, ht⟩
    · rw [if_neg hr, if_neg hr]
      exact .inl ⟨rfl, rfl⟩

/-- The snapshot that is installed has its number. -/
theorem dated (he : u.entry? h = some f) : ∀ s, f.snapshot = some s → s.serial < u.nextSnapshot :=
  fun s => hx.faceDated f.bare s (face?_some he)

end same

/-! ## The parts -/

section parts

variable (hx : Alike c r h w₀ u₀ op w u)

include hx

theorem mint (l : Lease) (d : SecretData) : Alike c r h w₀ u₀ op (w.mint l d).2 (u.mint l d).2 :=
  { hx with
    shared := hx.shared.mint l d
    alone := hx.alone.mint l d
    serials := fun k => by
      have hk := hx.serials (k + 1)
      show r.serial (u.nextSnapshot + 1 + k) = w.nextSnapshot + 1 + k
      rw [Nat.add_assoc, Nat.add_assoc, Nat.add_comm 1 k, hk]
    faceDated := fun e s he hs => Nat.lt_succ_of_lt (hx.faceDated e s he hs)
    pointDated := fun q s hq hs => Nat.lt_succ_of_lt (hx.pointDated q s hq hs)
    planDated := fun x hx' => Nat.lt_succ_of_lt (hx.planDated x hx') }

/-- What is minted next is the same under the two numbers. -/
theorem mint_fst (l : Lease) (d : SecretData) : (w.mint l d).1 = (u.mint l d).1.rename r := by
  show (⟨w.nextSnapshot, l, d⟩ : Snapshot) = ⟨r.serial u.nextSnapshot, l, d⟩
  rw [show r.serial u.nextSnapshot = w.nextSnapshot from hx.serials 0]

theorem tally (m : Mark) : Alike c r h w₀ u₀ op (w.tally m) (u.tally m) :=
  { hx with shared := hx.shared.tally m, alone := hx.alone.tally m }

theorem updateGauge : Alike c r h w₀ u₀ op w.updateGauge u.updateGauge :=
  { hx with shared := hx.shared.updateGauge, alone := hx.alone.updateGauge }

theorem askTrigger (left : Span) :
    Alike c r h w₀ u₀ op (w.askTrigger left).2 (u.askTrigger left).2 :=
  { hx with shared := hx.shared.askTrigger left, alone := hx.alone.askTrigger left }

theorem note_history {x : Happening} :
    ∃ hs, (u.note x).history = hs ++ u₀.history ∧
      (w.note (x.rename r.op)).history = hs.map (·.rename r.op) ++ w₀.history := by
  obtain ⟨hs, hu, hw⟩ := hx.history
  exact ⟨x :: hs, congrArg _ hu, congrArg _ hw⟩

theorem publish (ht : Twins r h e f) (m : LeaseChange) :
    Alike c r h w₀ u₀ op (w.publish e m) (u.publish f m) :=
  { hx with
    shared := hx.shared.publish ht.handle m
    alone := hx.alone.publish ht.handle' m
    history := by
      have heq : (⟨e.handle, e.request.path, m⟩ : LeaseEvent) = ⟨f.handle, f.request.path, m⟩ := by
        rw [ht.handle, ht.handle', ht.request]
      have hh := hx.note_history (x := .published ⟨f.handle, f.request.path, m⟩)
      rw [show (w.publish e m).history = .published ⟨e.handle, e.request.path, m⟩ :: w.history from rfl,
        heq]
      exact hh }

/-- The entry is changed in the same way, in a part other than its task. -/
theorem modify {f g : Entry → Entry} (hf : Untied f) (hg : Untied g)
    (hfg : ∀ e, f (e.rename r) = (g e).rename r)
    (hd : ∀ e s, (g e).snapshot = some s → e.snapshot = some s ∨ s.serial < u.nextSnapshot) :
    Alike c r h w₀ u₀ op (w.modify h f) (u.modify h g) := by
  have hface : (u.modify h g).face? h = (u.face? h).map g := by
    rw [face?_modify u h g hg.handle hg.bare, if_pos rfl]
  exact { hx with
    shared := hx.shared.modify hf.handle hf.slot hf.bare
    alone := hx.alone.modify hg.handle hg.slot hg.bare
    face := by
      rw [face?_modify w h f hf.handle hf.bare, if_pos rfl, hface, hx.face, Option.map_map,
        Option.map_map]
      exact congrArg (Option.map · (u.face? h)) (funext hfg)
    faceDated := fun e s he hs => by
      rw [hface] at he
      obtain ⟨e', he', rfl⟩ := Option.map_eq_some_iff.mp he
      exact (hd e' s hs).elim (hx.faceDated e' s he') id }

theorem install {s : Option Snapshot} (hs : ∀ x, s = some x → x.serial < u.nextSnapshot) :
    Alike c r h w₀ u₀ op (w.install h (s.map (·.rename r))) (u.install h s) :=
  hx.modify (f := fun e => { e with snapshot := s.map (·.rename r) })
    (g := fun e => { e with snapshot := s }) (.snapshot _) (.snapshot _) (fun _ => rfl)
    fun _ x hx => .inr (hs x hx)

theorem unlock : Alike c r h w₀ u₀ op (w.unlock (r.op op) h) (u.unlock op h) :=
  hx.modify (f := fun e => { e with lock := e.lock.filter (· != r.op op) })
    (g := fun e => { e with lock := e.lock.filter (· != op) }) (.lock _) (.lock _)
    (fun e => by
      have hl : (e.lock.map r.op).filter (· != r.op op) = (e.lock.filter (· != op)).map r.op := by
        rw [List.filter_map]
        refine congrArg _ (List.filter_congr fun a _ => ?_)
        simp [bne, r.op_injective.eq_iff]
      show ({ (e.rename r) with lock := (e.lock.map r.op).filter (· != r.op op) } : Entry) = _
      rw [hl]
      rfl)
    fun _ _ hs => .inl hs

/-- The operation queues up. -/
theorem join : Alike c r h w₀ u₀ op (w.modify h fun e => { e with lock := e.lock ++ [r.op op] })
    (u.modify h fun e => { e with lock := e.lock ++ [op] }) :=
  hx.modify (f := fun e => { e with lock := e.lock ++ [r.op op] })
    (g := fun e => { e with lock := e.lock ++ [op] }) (.lock (· ++ [r.op op])) (.lock (· ++ [op]))
    (fun e => by
      show ({ (e.rename r) with lock := e.lock.map r.op ++ [r.op op] } : Entry) = _
      rw [show e.lock.map r.op ++ [r.op op] = (e.lock ++ [op]).map r.op by simp]
      rfl)
    fun _ _ hs => .inl hs

theorem setPoint {p : Point} (hp : p.wants? = some h)
    (hs : ∀ s, p.snapshot? = some s → s.serial < u.nextSnapshot) :
    Alike c r h w₀ u₀ op (w.setPoint (r.op op) (p.rename r)) (u.setPoint op p) :=
  { hx with
    shared := hx.shared.setPoint ((Point.wants?_rename r p).trans hp)
    alone := hx.alone.setPoint hp
    point := by
      rw [point?_setPoint, if_pos rfl, point?_setPoint, if_pos rfl]
      rfl
    pointDated := fun q s hq => by
      rw [point?_setPoint, if_pos rfl] at hq
      cases hq
      exact hs s }

theorem call {p : Point} (hp : p.wants? = some h)
    (hs : ∀ s, p.snapshot? = some s → s.serial < u.nextSnapshot) (a : Call) :
    Alike c r h w₀ u₀ op (w.call (r.op op) h a (p.rename r)) (u.call op h a p) :=
  have hp' := hx.setPoint hp hs
  { hp' with
    shared := hx.shared.call ((Point.wants?_rename r p).trans hp) a
    alone := hx.alone.call hp a
    history := hp'.note_history (x := .called op h a) }

theorem cancelTask : Alike c r h w₀ u₀ op (w.cancelTask h) (u.cancelTask h) := by
  have hw := hx.booked.1.plan_cancelTask h
  have hu := hx.booked.2.plan_cancelTask h
  have hs := hx.shared.cancelTask
  have ha := hx.alone.cancelTask
  have hface := hx.face
  have hdate := hx.faceDated
  rw [← face?_cancelTask w h h, ← face?_cancelTask u h h] at hface
  rw [← face?_cancelTask u h h] at hdate
  obtain ⟨_, _, he, -⟩ := w.cancelTask_eq h
  obtain ⟨_, _, he', -⟩ := u.cancelTask_eq h
  rw [he] at hw hs hface ⊢
  rw [he'] at hu ha hface hdate ⊢
  exact { hx with
    shared := hs
    alone := ha
    face := hface
    plan := fun _ => by rw [hw, hu]; rfl
    faceDated := hdate
    planDated := fun x hx' => by rw [hu] at hx'; cases hx' }

theorem replaceTask (delay : Span) (a : Action) (hs : s.serial < u.nextSnapshot) :
    Alike c r h w₀ u₀ op (w.replaceTask h delay (s.rename r) a) (u.replaceTask h delay s a) := by
  cases hf : u.entry? h with
  | none =>
    rw [show w.replaceTask h delay (s.rename r) a = w by
        unfold World.replaceTask; rw [hx.entry_none hf],
      show u.replaceTask h delay s a = u by unfold World.replaceTask; rw [hf]]
    exact hx
  | some f =>
    obtain ⟨e, he, -⟩ := hx.entry hf
    have hw := hx.booked.1.plan_replaceTask he delay (s.rename r) a
    have hu := hx.booked.2.plan_replaceTask hf delay s a
    have hsh := hx.shared.replaceTask delay (s.rename r) a
    have hal := hx.alone.replaceTask delay s a
    have hface := hx.face
    have hdate := hx.faceDated
    rw [← face?_replaceTask w h delay (s.rename r) a h, ← face?_replaceTask u h delay s a h] at hface
    rw [← face?_replaceTask u h delay s a h] at hdate
    rw [hx.now, hx.stopped] at hw
    have heq : ∀ {v : World} {x : Snapshot}, ∃ t es,
        v.replaceTask h delay x a = { v with schedule := t, entries := es } := fun {v x} => by
      unfold World.replaceTask
      split
      · exact ⟨_, _, rfl⟩
      · exact ⟨_, _, rfl⟩
    obtain ⟨_, _, hew⟩ := @heq w (s.rename r)
    obtain ⟨_, _, heu⟩ := @heq u s
    rw [hew] at hw hsh hface ⊢
    rw [heu] at hu hal hface hdate ⊢
    exact { hx with
      shared := hsh
      alone := hal
      face := hface
      plan := fun _ => by
        rw [hw, hu]
        split <;> rfl
      faceDated := hdate
      planDated := fun x hx' => by
        rw [hu] at hx'
        split at hx'
        · cases hx'
        · cases List.mem_singleton.mp hx'
          exact hs }

theorem enlist (hw : w.face? h = none) (hu : u.face? h = none) (hn : w.nextHandle = h.serial)
    (ht : Twins r h e f) (hs : e.slot = none) (hs' : f.slot = none) (hf : f.snapshot = none) :
    Alike c r h w₀ u₀ op (w.enlist e) (u.enlist f) := by
  have hface : ∀ {v : World} {g : Entry}, v.face? h = none → g.handle = h →
      (v.enlist g).face? h = some g.bare := fun {v g} hv hg => by
    rw [World.face?, find_enlist, if_pos hg, face?_none.mp hv]
    rfl
  have hbare : e.bare = f.bare.rename r := by
    have heq : e = { f.rename r with slot := none } := by
      cases e
      cases f
      obtain ⟨h1, h2, h3, h4, h5, h6, h7⟩ := ht
      simp only at h1 h2 h3 h4 h5 h6 h7 hs
      subst h1 h2 h3 h4 h5 h6 h7 hs
      rfl
    rw [heq]
    rfl
  exact { hx with
    shared := hx.shared.enlist ht.handle hw hs
    alone := hx.alone.enlist ht.handle' hu hs'
    face := by
      rw [hface hw ht.handle, hface hu ht.handle', hbare]
      rfl
    next := fun hle => absurd (hn ▸ hle) (Nat.not_succ_le_self _)
    faceDated := fun g s hg hs => by
      rw [hface hu ht.handle'] at hg
      cases hg
      cases hf.symm.trans hs }

theorem forget (hw : ∀ t ∈ w.schedule.live, t.job.handle ≠ h)
    (hu : ∀ t ∈ u.schedule.live, t.job.handle ≠ h) :
    Alike c r h w₀ u₀ op (w.forget h) (u.forget h) := by
  have hface : ∀ v : World, (v.forget h).face? h = none := fun v => by
    rw [face?_none, find_forget, if_pos rfl]
  exact { hx with
    shared := hx.shared.forget hw
    alone := hx.alone.forget hu
    face := by
      rw [hface, hface]
      rfl
    faceDated := fun g s hg => by
      rw [hface] at hg
      cases hg }

end parts

/-! ## The end of an operation -/

/-- Somebody holds the engine in which the secret is alone; in the other the tasks are kept if anybody
does. -/
theorem finish (hx : Alike True r h w₀ u₀ op w u) {o : Outcome} (ho : o.IsOf h) :
    Ended r h w₀ u₀ op (w.finish (r.op op) o) (u.finish op o) := by
  have hw := hx.shared.finish ho False.elim
  have hu := hx.alone.finish ho False.elim
  have halive : (({ u with operations := u.operations.filter (·.1 != op) } : World).note
      (.ended op o)).isAlive = true := isAlive_iff.mpr (.inl hx.held)
  have hequ : u.finish op o = ({ u with operations := u.operations.filter (·.1 != op) } : World).note
      (.ended op o) := if_pos halive
  obtain ⟨-, -, hface⟩ := (hx.booked.1.same (u := ({ w with
    operations := w.operations.filter (·.1 != r.op op) } : World).note (.ended (r.op op) o)) rfl
      fun _ => rfl).reap
  have hplan : (w.finish (r.op op) o).isAlive = true → (w.finish (r.op op) o).plan h = w.plan h :=
    fun ha => by
      rw [show w.finish (r.op op) o = _ from reap_of_isAlive ha]
      rfl
  obtain ⟨s, es, hew, -⟩ : ∃ s es, w.finish (r.op op) o = { ({ w with
      operations := w.operations.filter (·.1 != r.op op) } : World).note (.ended (r.op op) o) with
        schedule := s, entries := es } ∧ _ := World.reap_eq _
  rw [show World.reap _ = _ from hew] at hface
  rw [hequ] at hu ⊢
  rw [hew] at hw hplan ⊢
  have hgone : ∀ (v : World) (a : Nat), (v.operations.filter (·.1 != a)).lookup a = none := fun v a => by
    rw [lookup_filter, if_pos rfl]
  exact { hx with
    shared := hw
    alone := hu
    face := (hface h).trans hx.face
    point := by
      show (w.operations.filter (·.1 != r.op op)).lookup (r.op op) =
        ((u.operations.filter (·.1 != op)).lookup op).map _
      rw [hgone, hgone]
      rfl
    plan := fun ha => (hplan ha).trans (hx.plan trivial)
    history := hx.note_history (x := .ended op o)
    pointDated := fun q s hq => by
      rw [show World.point? _ op = (u.operations.filter (·.1 != op)).lookup op from rfl, hgone] at hq
      cases hq }

theorem leave (hx : Alike True r h w₀ u₀ op w u) {o : Outcome} (ho : o.IsOf h) :
    Ended r h w₀ u₀ op (w.leave (r.op op) h o) (u.leave op h o) :=
  hx.unlock.finish ho

end Alike

end LeaseKeeper.Leases
