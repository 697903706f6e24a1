import LeaseKeeper.Proofs.Leases.Tending

/-!
# Steps are confined to one secret

A move is about one secret at most (`World.subject?`), and what happens in its step is confined to
the entry of that secret, to its tasks and to the operation that gets on (`Confined`): the clock, the
settings and everything that belongs to other secrets stay as they are, and what is told and called
is about that secret. The parts that steps are made of are followed one by one;
`confined_of_turn` puts them together for an engine that is not shut down.
-/

namespace LeaseKeeper.Leases

/-- It makes no secret known but that one. -/
def Outcome.IsOf (k : Handle) : Outcome → Prop
  | registered h => h = k
  | _ => True

/-- It is about that secret, and by that operation. -/
def Happening.IsOf (op : Nat) (k : Handle) : Happening → Prop
  | published event => event.handle = k
  | called a h _ => a = op ∧ h = k
  | ended a o => a = op ∧ o.IsOf k

namespace World

/-- The secret that a move is about. -/
def subject? (w : World) : Move → Option Handle
  | .begin (.add _ _) => some ⟨w.nextHandle⟩
  | .begin (.remove h) => some h
  | .begin (.rotate h) => some h
  | .fire id => (w.schedule.live.find? (·.id == id)).map (·.job.handle)
  | .fireNext => w.schedule.live.head?.map (·.job.handle)
  | .enter op => (w.point? op).bind Point.wants?
  | .answer op _ => (w.point? op).bind Point.wants?
  | _ => none

theorem discipline_cancelTask (w : World) (h : Handle) :
    (w.cancelTask h).schedule.discipline = w.schedule.discipline := by
  unfold cancelTask
  split
  · rfl
  · exact Schedule.discipline_cancel? ..

theorem discipline_replaceTask (w : World) (h : Handle) (delay : Span) (s : Snapshot) (a : Action) :
    (w.replaceTask h delay s a).schedule.discipline = w.schedule.discipline := by
  unfold replaceTask
  split
  · rfl
  · exact Schedule.discipline_cancel? ..

theorem discipline_reap (w : World) : w.reap.schedule.discipline = w.schedule.discipline := by
  have hall : ∀ (hs : List Handle) (u : World),
      (hs.foldl cancelTask u).schedule.discipline = u.schedule.discipline := fun hs => by
    induction hs with
    | nil => exact fun _ => rfl
    | cons h hs ih => exact fun u => (ih _).trans (u.discipline_cancelTask h)
  unfold reap
  split
  · rfl
  · exact hall ..

end World

open World

/-- On the way from `w`, only the entry of `k`, its tasks and the operation `op` have changed. -/
structure Confined (c : Prop) (w u : World) (op : Nat) (k : Handle) : Prop where
  frame : ∃ face p added care n, Frame c w u op k face p added care n
  now : u.now = w.now
  strategy : u.strategy = w.strategy
  increment : u.increment = w.increment
  held : u.held = w.held
  snapshots : w.nextSnapshot ≤ u.nextSnapshot
  discipline : u.schedule.discipline = w.schedule.discipline
  point : ∀ q, u.point? op = some q → q.wants? = some k
  history : ∃ hs, u.history = hs ++ w.history ∧ ∀ x ∈ hs, x.IsOf op k

namespace Confined

variable {c : Prop} {w u : World} {op : Nat} {k : Handle} {e : Entry}

theorem refl (hb : w.Booked) (hop : op < w.nextOperation)
    (hp : ∀ q, w.point? op = some q → q.wants? = some k) : Confined c w w op k :=
  ⟨⟨_, _, _, _, _, .refl hb hop k⟩, rfl, rfl, rfl, rfl, Nat.le_refl _, rfl, hp, [], rfl,
    fun _ hx => by cases hx⟩

/-- An operation that wants the entry gets on. -/
theorem stands (ho : Orderly w) {q : Point} (hq : w.point? op = some q) (hk : q.wants? = some k) :
    Confined c w w op k :=
  .refl ho.booked (ho.calm.fresh _ _ hq) fun q' hq' => by
    cases hq.symm.trans hq'
    exact hk

/-- A new operation begins. -/
theorem enroll (ho : Orderly w) : Confined c w w.enroll.2 w.nextOperation k :=
  ⟨⟨_, _, _, _, _, .enroll ho.booked k⟩, rfl, rfl, rfl, rfl, Nat.le_refl _, rfl,
    fun _ hq => (by cases ho.point?_next.symm.trans hq), [], rfl, fun _ hx => by cases hx⟩

/-- A task of the entry is started, and its operation begins. -/
theorem starts (ho : Orderly w) {t : Task Job} {s : Schedule Job} (hs : w.schedule.Starts t s)
    (hd : s.discipline = w.schedule.discipline) (ht : t.job.handle = k) :
    Confined c w ({ w with schedule := s } : World).enroll.2 w.nextOperation k :=
  ⟨⟨_, _, _, _, _, .starts ho.booked hs ht⟩, rfl, rfl, rfl, rfl, Nat.le_refl _, hd,
    fun _ hq => (by cases ho.point?_next.symm.trans hq), [], rfl, fun _ hx => by cases hx⟩

theorem destroyed (hx : Confined c w u op k) : u.destroyed = w.destroyed :=
  have ⟨_, _, _, _, _, hf⟩ := hx.frame
  hf.destroyed

/-! ## The parts -/

section parts

variable (hx : Confined c w u op k)

include hx

theorem mint (l : Lease) (d : SecretData) : Confined c w (u.mint l d).2 op k :=
  have ⟨_, _, _, _, _, hf⟩ := hx.frame
  { hx with frame := ⟨_, _, _, _, _, hf.mint l d⟩, snapshots := Nat.le_succ_of_le hx.snapshots }

theorem tally (m : Mark) : Confined c w (u.tally m) op k :=
  have ⟨_, _, _, _, _, hf⟩ := hx.frame
  { hx with frame := ⟨_, _, _, _, _, hf.tally m⟩ }

theorem updateGauge : Confined c w u.updateGauge op k :=
  have ⟨_, _, _, _, _, hf⟩ := hx.frame
  { hx with frame := ⟨_, _, _, _, _, hf.updateGauge⟩ }

theorem askTrigger (left : Span) : Confined c w (u.askTrigger left).2 op k :=
  have ⟨_, _, _, _, _, hf⟩ := hx.frame
  { hx with frame := ⟨_, _, _, _, _, hf.askTrigger left⟩ }

/-- Something is noted that is about the secret, or the operation. -/
theorem note_history {x : Happening} (hxk : x.IsOf op k) :
    ∃ hs, (u.note x).history = hs ++ w.history ∧ ∀ x ∈ hs, x.IsOf op k := by
  obtain ⟨hs, hh, hall⟩ := hx.history
  refine ⟨x :: hs, congrArg _ hh, fun y hy => ?_⟩
  rcases List.mem_cons.mp hy with rfl | hy
  · exact hxk
  · exact hall y hy

theorem publish (he : e.handle = k) (m : LeaseChange) : Confined c w (u.publish e m) op k :=
  have ⟨_, _, _, _, _, hf⟩ := hx.frame
  { hx with
    frame := ⟨_, _, _, _, _, hf.publish he m⟩
    history := hx.note_history (x := .published ⟨e.handle, e.request.path, m⟩) he }

theorem modify {f : Entry → Entry} (hh : ∀ e, (f e).handle = e.handle)
    (hs : ∀ e, (f e).slot = e.slot) (hb : ∀ e, (f e).bare = f e.bare) :
    Confined c w (u.modify k f) op k :=
  have ⟨_, _, _, _, _, hf⟩ := hx.frame
  { hx with frame := ⟨_, _, _, _, _, hf.modify hh hs hb⟩ }

theorem install (s : Option Snapshot) : Confined c w (u.install k s) op k :=
  hx.modify (fun _ => rfl) (fun _ => rfl) fun _ => rfl

theorem unlock (a : Nat) : Confined c w (u.unlock a k) op k :=
  hx.modify (fun _ => rfl) (fun _ => rfl) fun _ => rfl

theorem enlist (he : e.handle = k) (hn : u.face? k = none) (hs : e.slot = none) :
    Confined c w (u.enlist e) op k :=
  have ⟨_, _, _, _, _, hf⟩ := hx.frame
  { hx with frame := ⟨_, _, _, _, _, Frame.enlist (hn ▸ hf.face ▸ hf) he hs⟩ }

theorem forget (hn : ∀ t ∈ u.schedule.live, t.job.handle ≠ k) : Confined c w (u.forget k) op k :=
  have ⟨_, _, _, _, _, hf⟩ := hx.frame
  { hx with frame := ⟨_, _, _, _, _, hf.forget hn⟩ }

theorem setPoint {p : Point} (hp : p.wants? = some k) : Confined c w (u.setPoint op p) op k :=
  have ⟨_, _, _, _, _, hf⟩ := hx.frame
  { hx with
    frame := ⟨_, _, _, _, _, hf.setPoint p⟩
    point := fun q hq => by
      rw [point?_setPoint, if_pos rfl] at hq
      cases hq
      exact hp }

theorem call {p : Point} (hp : p.wants? = some k) (a : Call) : Confined c w (u.call op k a p) op k :=
  have ⟨_, _, _, _, _, hf⟩ := hx.frame
  { hx.setPoint hp with
    frame := ⟨_, _, _, _, _, hf.call k a p⟩
    history := (hx.setPoint hp).note_history (x := .called op k a) ⟨rfl, rfl⟩ }

theorem cancelTask : Confined c w (u.cancelTask k) op k := by
  obtain ⟨_, _, _, _, _, hf⟩ := hx.frame
  have hc := hf.cancelTask
  have hd := discipline_cancelTask u k
  obtain ⟨s, es, he, -⟩ := u.cancelTask_eq k
  rw [he] at hc hd ⊢
  exact { hx with frame := ⟨_, _, _, _, _, hc⟩, discipline := hd.trans hx.discipline }

theorem replaceTask (delay : Span) (s : Snapshot) (a : Action) :
    Confined c w (u.replaceTask k delay s a) op k := by
  obtain ⟨face, _, _, _, _, hf⟩ := hx.frame
  have hd := discipline_replaceTask u k delay s a
  cases face with
  | none =>
    have hn := World.face?_none.mp hf.face
    rw [show u.replaceTask k delay s a = u by unfold World.replaceTask; rw [hn]]
    exact hx
  | some f =>
    have hr := hf.replaceTask delay s a
    obtain ⟨t, es, he⟩ : ∃ t es, u.replaceTask k delay s a = { u with schedule := t, entries := es } := by
      unfold World.replaceTask
      split
      · exact ⟨_, _, rfl⟩
      · exact ⟨_, _, rfl⟩
    rw [he] at hr hd ⊢
    exact { hx with frame := ⟨_, _, _, _, _, hr⟩, discipline := hd.trans hx.discipline }

theorem finish {o : Outcome} (ho : o.IsOf k) (hc : c → (u.finish op o).isAlive = true) :
    Confined c w (u.finish op o) op k := by
  obtain ⟨_, _, _, _, _, hf⟩ := hx.frame
  have hr := hf.finish o hc
  have hd : (u.finish op o).schedule.discipline = u.schedule.discipline := discipline_reap _
  have hh := hx.note_history (x := .ended op o) ⟨rfl, ho⟩
  obtain ⟨s, es, he, -⟩ : ∃ s es, u.finish op o = { ({ u with
      operations := u.operations.filter (·.1 != op) } : World).note (.ended op o) with
        schedule := s, entries := es } ∧ _ := World.reap_eq _
  rw [he] at hr hd ⊢
  refine { hx with
    frame := ⟨_, _, _, _, _, hr⟩
    discipline := hd.trans hx.discipline
    history := hh
    point := fun q hq => ?_ }
  cases hr.point.symm.trans hq

theorem leave {o : Outcome} (ho : o.IsOf k) (hc : c → (u.leave op k o).isAlive = true) :
    Confined c w (u.leave op k o) op k :=
  (hx.unlock op).finish ho hc

end parts

/-! ## What operations go through -/

section operations

variable {s : Snapshot}

theorem scheduleCare (hx : Confined c w u op e.handle) (s : Snapshot) :
    Confined c w (u.scheduleCare e s) op e.handle := by
  unfold World.scheduleCare
  split
  · exact hx
  split
  · exact hx.cancelTask
  split
  · exact hx.replaceTask ..
  · have ha := hx.askTrigger (s.lease.remaining u.now)
    generalize u.askTrigger (s.lease.remaining u.now) = q at ha ⊢
    obtain ⟨_ | delay, v⟩ := q
    · exact ha.cancelTask
    · exact ha.replaceTask ..

theorem expire (hx : Confined c w u op e.handle) (s : Snapshot)
    (hc : c → (u.expire op e s).isAlive = true) : Confined c w (u.expire op e s) op e.handle := by
  have hp := hx.publish rfl (.expired s.lease)
  unfold World.expire at hc ⊢
  dsimp only at hc ⊢
  split at hc
  · rw [if_pos ‹_›]
    exact hp.call rfl _
  · rw [if_neg ‹_›]
    exact (hp.cancelTask.install none).leave trivial hc

theorem afterFailure (hx : Confined c w u op e.handle) (s : Snapshot) (f : Fault)
    (hc : c → (u.afterFailure op e s f).isAlive = true) :
    Confined c w (u.afterFailure op e s f) op e.handle := by
  have hp := hx.publish rfl (.failed s.lease f)
  unfold World.afterFailure at hc ⊢
  generalize u.publish e (.failed s.lease f) = v at hp hc ⊢
  dsimp only at hc ⊢
  split at hc
  · rw [if_pos ‹_›]
    have ha := hp.askTrigger (s.lease.remaining v.now)
    generalize v.askTrigger (s.lease.remaining v.now) = q at ha hc ⊢
    obtain ⟨_ | delay, v'⟩ := q
    · exact ha.expire s hc
    · dsimp only at hc ⊢
      split at hc
      · rw [if_pos ‹_›]
        exact (ha.replaceTask ..).leave trivial hc
      · rw [if_neg ‹_›]
        exact ha.expire s hc
  · rw [if_neg ‹_›]
    exact hp.expire s hc

theorem endFetch (hx : Confined c w u op e.handle) (cause : Cause) (f : Fault)
    (hc : c → (u.endFetch op e cause f).isAlive = true) :
    Confined c w (u.endFetch op e cause f) op e.handle := by
  cases cause with
  | caller => exact hx.leave trivial hc
  | loss =>
    unfold World.endFetch at hc ⊢
    dsimp only at hc ⊢
    split at hc
    · rw [if_pos ‹_›]
      exact (hx.cancelTask.install none).leave trivial hc
    · rw [if_neg ‹_›]
      exact hx.cancelTask.leave trivial hc

/-- A change that is told while the entry is looked after. -/
theorem publish_ite (hx : Confined c w u op e.handle) (p : Prop) [Decidable p] (m : LeaseChange) :
    Confined c w (if p then u.publish e m else u) op e.handle := by
  split
  · exact hx.publish rfl m
  · exact hx

/-- A snapshot that has arrived is told and looked after while the entry is. -/
theorem care_ite (hx : Confined c w u op e.handle) (p : Prop) [Decidable p] (m : LeaseChange)
    (s : Snapshot) :
    Confined c w (if p then (u.publish e m).scheduleCare e s else u) op e.handle := by
  split
  · exact (hx.publish rfl m).scheduleCare s
  · exact hx

theorem afterFetch (hx : Confined c w u op k) (previous : Lease) (cause : Cause)
    (r : Except Fault (Option Secret))
    (hc : c → (u.afterFetch op k previous cause r).isAlive = true) :
    Confined c w (u.afterFetch op k previous cause r) op k := by
  unfold World.afterFetch at hc ⊢
  cases he : u.entry? k with
  | none => exact hx
  | some e =>
    obtain rfl := find_handle he
    rw [he] at hc
    match r with
    | .ok (some secret) =>
      exact ((((hx.tally _).mint secret.lease secret.data).install _).care_ite _ _ _).leave trivial hc
    | .ok none => exact ((hx.tally _).publish_ite _ _).endFetch _ _ hc
    | .error f => exact ((hx.tally _).publish_ite _ _).endFetch _ _ hc

theorem afterRenewal (hx : Confined c w u op k) (s : Snapshot) (r : Except Fault Lease)
    (hc : c → (u.afterRenewal op k s r).isAlive = true) :
    Confined c w (u.afterRenewal op k s r) op k := by
  unfold World.afterRenewal at hc ⊢
  cases he : u.entry? k with
  | none => exact hx
  | some e =>
    obtain rfl := find_handle he
    rw [he] at hc
    match r with
    | .ok lease => exact ((((hx.tally _).mint lease s.data).install _).care_ite _ _ _).leave trivial hc
    | .error f =>
      dsimp only at hc ⊢
      split at hc
      · rw [if_pos ‹_›]
        exact (hx.tally _).afterFailure s f hc
      · rw [if_neg ‹_›]
        exact (hx.tally _).leave trivial hc

theorem takeOut (hx : Confined c w u op e.handle)
    (hc : c → (u.takeOut op e .caller).isAlive = true) :
    Confined c w (u.takeOut op e .caller) op e.handle := by
  have hi := hx.install none
  unfold World.takeOut at hc ⊢
  dsimp only at hc ⊢
  split at hc
  · exact hi.leave trivial hc
  · split at hc
    · rw [if_pos ‹_›]
      exact hi.call rfl _
    · rw [if_neg ‹_›]
      exact hi.leave trivial hc

theorem remove (hx : Confined c w u op k) (hc : c → (u.remove op k .caller).isAlive = true) :
    Confined c w (u.remove op k .caller) op k := by
  unfold World.remove at hc ⊢
  split at hc
  · exact hx.finish trivial hc
  · rename_i e he
    obtain rfl := find_handle (registered?_some he).1
    have hq := ((hx.modify (f := fun e => { e with standing := .removed }) (fun _ => rfl)
      (fun _ => rfl) fun _ => rfl).cancelTask.updateGauge).modify
        (f := fun e => { e with lock := e.lock ++ [op] }) (fun _ => rfl) (fun _ => rfl) fun _ => rfl
    dsimp only at hc ⊢
    split at hc
    · rw [if_pos ‹_›]
      exact hq.takeOut hc
    · rw [if_neg ‹_›]
      exact hq.setPoint rfl

theorem afterRevocation (hx : Confined c w u op k) (s : Snapshot) (r : Except Fault Unit)
    (hc : c → (u.afterRevocation op k s .caller r).isAlive = true) :
    Confined c w (u.afterRevocation op k s .caller r) op k := by
  unfold World.afterRevocation at hc ⊢
  cases he : u.entry? k with
  | none => exact hx
  | some e =>
    obtain rfl := find_handle he
    rw [he] at hc
    match r with
    | .ok _ => exact (hx.publish rfl _).leave trivial hc
    | .error f => exact (hx.publish rfl _).leave trivial hc

/-- An errand of whoever gets the lock; nobody but a caller removes an entry of an engine that is
not shut down. -/
theorem withLock (hx : Confined c w u op e.handle) {errand : Errand}
    (hr : ∀ remover, errand = .remove remover → remover = .caller)
    (hc : c → (u.withLock op e errand).isAlive = true) :
    Confined c w (u.withLock op e errand) op e.handle := by
  cases errand with
  | act s a =>
    unfold World.withLock at hc ⊢
    dsimp only at hc ⊢
    split at hc
    · rw [if_pos ‹_›]
      cases a with
      | renew => exact hx.call rfl _
      | expire => exact hx.expire s hc
    · rw [if_neg ‹_›]
      exact hx.leave trivial hc
  | rotate =>
    unfold World.withLock at hc ⊢
    dsimp only at hc ⊢
    split at hc
    · rw [if_pos ‹_›]
      exact hx.call rfl _
    · rw [if_neg ‹_›]
      exact hx.leave trivial hc
  | remove remover =>
    obtain rfl := hr remover rfl
    exact hx.takeOut hc

theorem want (hx : Confined c w u op e.handle) {errand : Errand}
    (hr : ∀ remover, errand = .remove remover → remover = .caller)
    (hc : c → (u.want op e errand).isAlive = true) :
    Confined c w (u.want op e errand) op e.handle := by
  have hq := hx.modify (f := fun e => { e with lock := e.lock ++ [op] }) (fun _ => rfl)
    (fun _ => rfl) fun _ => rfl
  unfold World.want at hc ⊢
  dsimp only at hc ⊢
  split at hc
  · rw [if_pos ‹_›]
    exact hq.withLock hr hc
  · rw [if_neg ‹_›]
    exact hq.setPoint rfl

theorem rotate (hx : Confined c w u op k) (hc : c → (u.rotate op k).isAlive = true) :
    Confined c w (u.rotate op k) op k := by
  unfold World.rotate at hc ⊢
  split at hc
  · rw [if_pos ‹_›]
    exact hx.finish trivial hc
  · rw [if_neg ‹_›]
    split at hc
    · exact hx.finish trivial hc
    · rename_i e he
      obtain rfl := find_handle (registered?_some he).1
      exact hx.want (fun _ h => by cases h) hc

/-- The first fetch has ended, in an engine that is not shut down. -/
theorem afterFirstFetch (hx : Confined c w u op k) (hd : u.destroyed = false)
    (hn : ∀ t ∈ u.schedule.live, t.job.handle ≠ k) (r : Except Fault (Option Secret))
    (hc : c → (u.afterFirstFetch op k r).isAlive = true) :
    Confined c w (u.afterFirstFetch op k r) op k := by
  unfold World.afterFirstFetch at hc ⊢
  cases he : u.entry? k with
  | none => exact hx
  | some e =>
    obtain rfl := find_handle he
    rw [he] at hc
    have hr : ∀ {v : World}, Confined c w v op e.handle → ∀ s : Option Snapshot,
        Confined c w (v.modify e.handle fun e =>
          { e with snapshot := s, standing := .registered }).updateGauge op e.handle :=
      fun hv s => (hv.modify (f := fun e => { e with snapshot := s, standing := .registered })
        (fun _ => rfl) (fun _ => rfl) fun _ => rfl).updateGauge
    match r with
    | .ok (some secret) =>
      dsimp only at hc ⊢
      rw [register_eq (u := (u.mint secret.lease secret.data).2) hd] at hc ⊢
      exact (((hr (hx.mint _ _) _).publish rfl _).scheduleCare (e := { e with standing := .registered })
        _).leave rfl hc
    | .ok none =>
      dsimp only at hc ⊢
      split at hc
      · rw [if_pos ‹_›]
        exact (hx.forget hn).finish trivial hc
      · rw [if_neg ‹_›]
        rw [register_eq hd] at hc ⊢
        exact ((hr hx none).publish rfl _).leave rfl hc
    | .error f =>
      dsimp only at hc ⊢
      split at hc
      · rw [if_pos ‹_›]
        exact (hx.forget hn).finish trivial hc
      · rw [if_neg ‹_›]
        rw [register_eq hd] at hc ⊢
        exact ((hr hx none).publish rfl _).leave rfl hc

end operations

end Confined

/-! ## Turns -/

variable {w w' : World} {m : Move}

/-- The operation that gets on has just begun, or has wanted the entry. -/
def Wanting (w : World) (op : Nat) (k : Handle) : Prop :=
  op = w.nextOperation ∨ ∃ q, w.point? op = some q ∧ q.wants? = some k

/-- A step is about a secret: only its entry, its tasks and an operation on it have changed. -/
def ConfinedTo (w w' : World) (k : Handle) : Prop :=
  ∃ op, Confined (w'.isAlive = true) w w' op k ∧ Wanting w op k

theorem confined_fetchedFirst (ho : Orderly w) (hd : w.destroyed = false) {op : Nat} {k : Handle}
    (hp : w.point? op = some (.registering k)) (r : Except Fault (Option Secret)) :
    ConfinedTo w (w.afterFirstFetch op k r) k := by
  have hx : ∀ c, Confined c w w op k := fun c => .stands ho hp rfl
  refine ⟨op, (hx _).afterFirstFetch hd (fun t ht hh => ?_) r id, .inr ⟨_, hp, rfl⟩⟩
  obtain ⟨e, he, hs⟩ := ho.face?_of_live ht
  cases ((ho.calm.pending op _ _ e hp rfl (hh ▸ he)).mpr rfl).symm.trans hs

/-- A secret that is to be looked after is put last, and fetched for the first time. -/
theorem begin_add (hd : w.destroyed = false) (r : SecretRequest) (source : String) :
    w.begin (.add r source) = (w.enroll.2.enlist
      ⟨⟨w.nextHandle⟩, r, source, none, none, [w.nextOperation], .pending⟩).call w.nextOperation
        ⟨w.nextHandle⟩ (.fetch source r.path) (.registering ⟨w.nextHandle⟩) := by
  show w.enroll.2.add w.nextOperation r source = _
  unfold World.add
  rw [if_neg (by rw [show w.enroll.2.destroyed = w.destroyed from rfl, hd]; decide)]
  rfl

/-- A registered secret is fetched again by an operation that wants its entry. -/
theorem begin_rotate {h : Handle} {e : Entry} (hd : w.destroyed = false)
    (he : w.registered? h = some e) :
    w.begin (.rotate h) = w.enroll.2.want w.nextOperation e .rotate := by
  show w.enroll.2.rotate w.nextOperation h = _
  unfold World.rotate
  rw [if_neg (by rw [show w.enroll.2.destroyed = w.destroyed from rfl, hd]; decide),
    show w.enroll.2.registered? h = some e from he]

/-- One that is not registered is not. -/
theorem begin_rotate_none {h : Handle} (hd : w.destroyed = false) (he : w.registered? h = none) :
    w.begin (.rotate h) = w.enroll.2.finish w.nextOperation (.refused (.notFound h.text)) := by
  show w.enroll.2.rotate w.nextOperation h = _
  unfold World.rotate
  rw [if_neg (by rw [show w.enroll.2.destroyed = w.destroyed from rfl, hd]; decide),
    show w.enroll.2.registered? h = none from he]

/-- The handle that is given out next is of no entry. -/
theorem face?_nextHandle (ho : Orderly w) : w.face? ⟨w.nextHandle⟩ = none := by
  cases he : w.face? ⟨w.nextHandle⟩ with
  | none => rfl
  | some e => exact absurd (ho.calm.known _ _ he) (Nat.lt_irrefl _)

theorem confined_begin (ho : Orderly w) (hd : w.destroyed = false) {r : Request} {k : Handle}
    (hk : w.subject? (.begin r) = some k) : ConfinedTo w (w.begin r) k := by
  have hx : ∀ c, Confined c w w.enroll.2 w.nextOperation k := fun c => .enroll ho
  cases r with
  | add r source =>
    cases hk
    have hn := face?_nextHandle ho
    rw [begin_add hd]
    exact ⟨w.nextOperation, ((hx _).enlist rfl hn rfl).call rfl _, .inl rfl⟩
  | remove h =>
    cases hk
    exact ⟨w.nextOperation, (hx _).remove id, .inl rfl⟩
  | rotate h =>
    cases hk
    exact ⟨w.nextOperation, (hx _).rotate id, .inl rfl⟩
  | destroy => cases hk

theorem confined_run (ho : Orderly w) {t : Task Job} {s : Schedule Job} (hf : w.Fires m t s)
    (ha : w.isAlive = true) : ConfinedTo w ({ w with schedule := s }.run t.job) t.job.handle := by
  have hs := hf.starts ho.booked.numbered
  have hdis : s.discipline = w.schedule.discipline := by
    cases hf with
    | due h => exact Schedule.discipline_startDue h
    | next h => exact Schedule.discipline_startNext h
  refine ⟨w.nextOperation, ?_, .inl rfl⟩
  have hx : ∀ c, Confined c w ({ w with schedule := s } : World).enroll.2 w.nextOperation t.job.handle :=
    fun c => .starts ho hs hdis rfl
  obtain ⟨e, he, -⟩ := ho.booked.slot_live t hs.mem
  rw [run_of_isAlive ha he]
  rw [← find_handle he] at hx ⊢
  exact (hx _).want (fun _ h => by cases h) id

theorem subject?_of_fires (hb : w.Booked) {t : Task Job} {s : Schedule Job} (hf : w.Fires m t s) :
    w.subject? m = some t.job.handle := by
  cases hf with
  | due h =>
    obtain ⟨hs, rfl, -⟩ := Schedule.starts_of_startDue hb.numbered h
    have hfind : w.schedule.live.find? (·.id == t.id) = some t := by
      cases hu : w.schedule.live.find? (·.id == t.id) with
      | none =>
        have := List.find?_eq_none.mp hu t hs.mem
        simp at this
      | some u =>
        have hid : u.id = t.id := by simpa using List.find?_some hu
        rw [hb.numbered.live_inj (List.mem_of_find?_eq_some hu) hs.mem hid]
    simp only [World.subject?, hfind, Option.map_some]
  | next h =>
    obtain ⟨-, hl⟩ := Schedule.starts_of_startNext hb.numbered h
    simp only [World.subject?, hl, List.head?_cons, Option.map_some]

/-- A step that is about no secret: time passes, the last holder lets go, the scheduler is stopped, or
observers come and go. -/
inductive Idles (w : World) : Move → World → Prop
  | elapses {t : Instant} : Idles w (.elapse t) { w with now := t }
  | releases : Idles w .release w.release
  | stops : Idles w .stop w.stop
  | listens {channel : Channel} {o : Observer} : Idles w (.listen channel o) (w.listen channel o).2
  | unlistens {channel : Channel} {id : Nat} :
    Idles w (.unlisten channel id) (w.unlisten channel id).2

/-- A turn of an engine that is not shut down is confined to the secret that the move is about, or
it is about none. -/
theorem confined_of_turn (ho : Orderly w) (ht : Turn w m w') (hd' : w'.destroyed = false)
    (ha : w.isAlive = true) :
    (∃ k, w.subject? m = some k ∧ ConfinedTo w w' k) ∨ w.subject? m = none ∧ Idles w m w' := by
  have hd := destroyed_of_turn ht hd'
  have hstands : ∀ {op : Nat} {p : Point} {k : Handle}, w.point? op = some p → p.wants? = some k →
      ∀ c, Confined c w w op k := fun hp hw c => .stands ho hp hw
  cases ht with
  | @begins r _ =>
    cases hk : w.subject? (.begin r) with
    | some k => exact .inl ⟨k, rfl, confined_begin ho hd hk⟩
    | none =>
      cases r with
      | destroy => cases (destroyed_destroy w.enroll.2 _).symm.trans hd'
      | _ => cases hk
  | runs hf => exact .inl ⟨_, subject?_of_fires ho.booked hf, confined_run ho hf ha⟩
  | @enters op h errand e hp he _ =>
    refine .inl ⟨h, by simp only [World.subject?, hp]; rfl, op, ?_, .inr ⟨_, hp, rfl⟩⟩
    have hx := hstands hp rfl
    rw [← find_handle he] at hx ⊢
    refine (hx _).withLock (fun remover hr => ?_) id
    subst hr
    simpa [Point.isClosing] using ho.calm.unclosed op _ hp
  | opens hp => cases ho.calm.unclosed _ _ hp
  | @fetchedFirst op h r hp =>
    exact .inl ⟨h, by simp only [World.subject?, hp]; rfl, confined_fetchedFirst ho hd hp r⟩
  | @fetchedAgain op h previous cause r hp =>
    exact .inl ⟨h, by simp only [World.subject?, hp]; rfl, op,
      (hstands hp rfl _).afterFetch _ _ _ id, .inr ⟨_, hp, rfl⟩⟩
  | @renewed op h s since r hp =>
    exact .inl ⟨h, by simp only [World.subject?, hp]; rfl, op,
      (hstands hp rfl _).afterRenewal _ _ id, .inr ⟨_, hp, rfl⟩⟩
  | @revoked op h s remover r hp =>
    have hr : remover = .caller := by simpa [Point.isClosing] using ho.calm.unclosed op _ hp
    subst hr
    exact .inl ⟨h, by simp only [World.subject?, hp]; rfl, op,
      (hstands hp rfl _).afterRevocation _ _ id, .inr ⟨_, hp, rfl⟩⟩
  | elapses => exact .inr ⟨rfl, .elapses⟩
  | releases => exact .inr ⟨rfl, .releases⟩
  | stops => exact .inr ⟨rfl, .stops⟩
  | listens => exact .inr ⟨rfl, .listens⟩
  | unlistens => exact .inr ⟨rfl, .unlistens⟩

/-- What an engine is built with stays as it is. -/
structure Fixtures (w w' : World) : Prop where
  strategy : w'.strategy = w.strategy
  increment : w'.increment = w.increment
  discipline : w'.schedule.discipline = w.schedule.discipline

theorem fixtures_of_turn (ho : Orderly w) (ht : Turn w m w') (hd' : w'.destroyed = false)
    (ha : w.isAlive = true) : Fixtures w w' := by
  rcases confined_of_turn ho ht hd' ha with ⟨k, -, op, hx, -⟩ | ⟨-, hi⟩
  · exact ⟨hx.strategy, hx.increment, hx.discipline⟩
  · cases hi with
    | releases =>
      have hd := World.discipline_reap { w with held := false }
      obtain ⟨_, _, he, -⟩ := World.reap_eq { w with held := false }
      unfold World.release
      rw [he] at hd ⊢
      exact ⟨rfl, rfl, hd⟩
    | stops =>
      refine ⟨rfl, rfl, ?_⟩
      show w.schedule.stop.discipline = _
      rcases w.schedule.stop_cases with h | h <;> rw [h]
    | _ => exact ⟨rfl, rfl, rfl⟩

/-- Only shutting it down shuts an engine down. -/
theorem destroyed_of_other_turn (ht : Turn w m w') (hm : m ≠ .begin .destroy) :
    w'.destroyed = w.destroyed := by
  cases ht with
  | @begins r _ =>
    cases r with
    | add r source => exact destroyed_add w.enroll.2 ..
    | remove k => exact destroyed_remove w.enroll.2 ..
    | rotate k => exact destroyed_rotate w.enroll.2 ..
    | destroy => exact absurd rfl hm
  | runs _ => exact destroyed_run ..
  | enters _ _ _ => exact destroyed_withLock ..
  | opens _ => exact destroyed_remove ..
  | fetchedFirst _ => exact destroyed_afterFirstFetch ..
  | fetchedAgain _ => exact destroyed_afterFetch ..
  | renewed _ => exact destroyed_afterRenewal ..
  | revoked _ => exact destroyed_afterRevocation ..
  | releases => exact destroyed_reap { w with held := false }
  | _ => rfl

/-- An engine that is not shut down stays orderly. -/
theorem orderly_of_step (ho : Orderly w) (hs : step w m = some w') (hd : w'.destroyed = false) :
    Orderly w' :=
  ho.of_advance (advance_of_turn ho.booked ho.calm (turn_of_step hs) hd)

end LeaseKeeper.Leases
