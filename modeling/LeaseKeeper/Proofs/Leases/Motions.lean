import LeaseKeeper.Proofs.Leases.Asides

/-!
# How operations move

Where operations stand after a step, whatever it does to entries and tasks. A step moves at most one
operation, which has just begun or is named by the move, and the shutdown that waits for the end of
its removal may hear of it; or it shuts the engine down, which makes room for the removals
(`Motion`, `motion_of_turn`). An operation that goes on to give a lease back comes from a removal
that has just begun, from one that waited for its entry, or from a registration that came too late
(`Yields`).
-/

namespace LeaseKeeper.Leases

/-- The shutdown that waits for a removal. -/
def Remover.parent? : Remover → Option Nat
  | shutdown op => some op
  | _ => none

/-- The shutdown that waits for an errand. -/
def Errand.parent? : Errand → Option Nat
  | remove remover => remover.parent?
  | _ => none

namespace Point

/-- The shutdown that waits for the removal of which an operation stands there. -/
def parent? : Point → Option Nat
  | opening _ parent => some parent
  | queued _ errand => errand.parent?
  | revoking _ _ remover => remover.parent?
  | _ => none

/-- Whether an operation waits there for removals to end. -/
def isJoining : Point → Bool
  | joining _ => true
  | _ => false

/-- Whether an operation waits there for the server. -/
def isCall : Point → Bool
  | registering _ => true
  | renewing _ _ _ => true
  | rotating _ _ _ => true
  | revoking _ _ _ => true
  | _ => false

end Point

/-- The operation that a move resumes. -/
def Move.mover? : Move → Option Nat
  | enter op => some op
  | openNext op => some op
  | answer op _ => some op
  | _ => none

namespace World

/-- Operations are where they were on the way from `w` to `u`, and none has ended. -/
structure Still (w u : World) : Prop where
  operations : u.operations = w.operations
  nextOperation : w.nextOperation ≤ u.nextOperation
  destroyed : u.destroyed = w.destroyed
  held : u.held = w.held
  ended : ∀ a o, .ended a o ∈ u.history → .ended a o ∈ w.history

/-- An operation has just begun, or is named by the move; that shutdown waits for its removal, if
any does. -/
def Stands (w : World) (m : Move) (op : Nat) (parent? : Option Nat) : Prop :=
  op = w.nextOperation ∧ m.mover? = none ∧ parent? = none ∨
    ∃ q, w.point? op = some q ∧ m.mover? = some op ∧ q.parent? = parent? ∧ q.isJoining = false

/-- How an operation comes to give the lease of a snapshot back. -/
inductive Yields (w : World) (m : Move) (op : Nat) (h : Handle) (s : Snapshot) (remover : Remover) : Prop
  /-- The removal has just begun. -/
  | removes {e : Entry} : Removes w m op h remover → w.registered? h = some e → e.snapshot = some s →
    Yields w m op h s remover
  /-- The removal has waited for its entry. -/
  | waited {e : Entry} : m = .enter op → w.point? op = some (.queued h (.remove remover)) →
    w.entry? h = some e → e.lock.head? = some op → e.snapshot = some s → Yields w m op h s remover
  /-- The secret was fetched after the engine had been shut down. -/
  | late {secret : Secret} : m = .answer op (.fetched (.ok (some secret))) →
    w.point? op = some (.registering h) → w.destroyed = true → s.lease = secret.lease →
    Yields w m op h s remover

/-- An operation begins to remove an entry that is registered, or that was to be. -/
def Departs (w : World) (op : Nat) (h : Handle) : Prop :=
  (∃ e, w.registered? h = some e) ∨ w.point? op = some (.registering h)

/-- What is asked of the point that an operation moves to. -/
structure Arrives (w : World) (m : Move) (op : Nat) (q : Point) : Prop where
  stays : q.isJoining = false
  yields : ∀ h s remover, q = .revoking h s remover → s.lease.hasId = true ∧ w.Yields m op h s remover
  registers : ∀ h, q = .registering h → w.destroyed = false
  queues : ∀ h remover, q = .queued h (.remove remover) → w.Departs op h

/-- On the way from `w`, an operation has been picked out that is to move. -/
structure Turning (w : World) (m : Move) (op : Nat) (parent? : Option Nat) (u : World) : Prop where
  still : Still w u
  stands : w.Stands m op parent?
  lt : op < u.nextOperation

/-- What a step does to the operations. -/
inductive Motion (w : World) (m : Move) (w' : World) : Prop
  | rests : m.mover? = none → Still w w' → Motion w m w'
  | ends {u : World} {op : Nat} {o : Outcome} : Turning w m op none u → w' = u.finish op o →
    Motion w m w'
  | moves {u : World} {op : Nat} {q : Point} : Turning w m op q.parent? u → w.Arrives m op q →
    Still (u.setPoint op q) w' → Motion w m w'
  /-- A removal ends for which a shutdown waits. -/
  | tells {u : World} {op parent : Nat} {o : Outcome} : Turning w m op (some parent) u →
    w' = (u.finish op o).childEnded parent → Motion w m w'
  /-- The engine is shut down. -/
  | shuts {hs : List Handle} : m = .begin .destroy → w.destroyed = false →
    w' = hs.foldl (enrollRemoval w.nextOperation)
      (({ w.enroll.2 with destroyed := true } : World).setPoint w.nextOperation (.joining hs.length)) →
    Motion w m w'
  /-- The engine is shut down, and there is nothing to remove. -/
  | shutsBare {o : Outcome} : m = .begin .destroy → w.destroyed = false →
    w' = ({ w.enroll.2 with destroyed := true } : World).finish w.nextOperation o → Motion w m w'

variable {w u v w' : World} {m : Move} {op : Nat} {h : Handle} {e : Entry} {parent? : Option Nat}

/-! ## Parts that move nothing -/

namespace Still

theorem refl (w : World) : Still w w := ⟨rfl, Nat.le_refl _, rfl, rfl, fun _ _ => id⟩

theorem trans (h : Still w u) (k : Still u v) : Still w v :=
  ⟨k.operations.trans h.operations, Nat.le_trans h.nextOperation k.nextOperation,
    k.destroyed.trans h.destroyed, k.held.trans h.held, fun a o hx => h.ended a o (k.ended a o hx)⟩

/-- A change of other parts of the engine. -/
theorem same (h : Still w u) (ho : v.operations = u.operations) (hn : u.nextOperation ≤ v.nextOperation)
    (hd : v.destroyed = u.destroyed) (hl : v.held = u.held) (hh : v.history = u.history) : Still w v :=
  h.trans ⟨ho, hn, hd, hl, fun _ _ hx => hh ▸ hx⟩

/-- Something is noted that is not the end of an operation. -/
theorem note (h : Still w u) {x : Happening} (hx : ∀ a o, x ≠ .ended a o) : Still w (u.note x) :=
  h.trans ⟨rfl, Nat.le_refl _, rfl, rfl, fun a o hm =>
    (List.mem_cons.mp hm).resolve_left fun he => hx a o he.symm⟩

theorem publish (h : Still w u) (e : Entry) (c : LeaseChange) : Still w (u.publish e c) :=
  (h.note (x := .published ⟨e.handle, e.request.path, c⟩) nofun).same rfl (Nat.le_refl _) rfl rfl rfl

theorem modify (hs : Still w u) (h : Handle) (f : Entry → Entry) : Still w (u.modify h f) :=
  hs.same rfl (Nat.le_refl _) rfl rfl rfl

theorem install (hs : Still w u) (h : Handle) (s : Option Snapshot) : Still w (u.install h s) :=
  hs.modify _ _

theorem unlock (hs : Still w u) (op : Nat) (h : Handle) : Still w (u.unlock op h) := hs.modify _ _

theorem tally (h : Still w u) (k : Mark) : Still w (u.tally k) := h.same rfl (Nat.le_refl _) rfl rfl rfl

theorem updateGauge (h : Still w u) : Still w u.updateGauge := h.same rfl (Nat.le_refl _) rfl rfl rfl

theorem mint (h : Still w u) (l : Lease) (d : SecretData) : Still w (u.mint l d).2 :=
  h.same rfl (Nat.le_refl _) rfl rfl rfl

theorem askTrigger (h : Still w u) (left : Span) : Still w (u.askTrigger left).2 :=
  h.same rfl (Nat.le_refl _) rfl rfl rfl

theorem forget (hs : Still w u) (h : Handle) : Still w (u.forget h) :=
  hs.same rfl (Nat.le_refl _) rfl rfl rfl

theorem cancelTask (hs : Still w u) (h : Handle) : Still w (u.cancelTask h) := by
  obtain ⟨_, _, he, -⟩ := u.cancelTask_eq h
  rw [he]
  exact hs.same rfl (Nat.le_refl _) rfl rfl rfl

theorem replaceTask (hs : Still w u) (h : Handle) (delay : Span) (s : Snapshot) (a : Action) :
    Still w (u.replaceTask h delay s a) := by
  unfold World.replaceTask
  split
  · exact hs
  · exact hs.same rfl (Nat.le_refl _) rfl rfl rfl

theorem scheduleCare (h : Still w u) (e : Entry) (s : Snapshot) : Still w (u.scheduleCare e s) := by
  unfold World.scheduleCare
  split
  · exact h
  split
  · exact h.cancelTask _
  split
  · exact h.replaceTask _ _ _ _
  · have ha := h.askTrigger (s.lease.remaining u.now)
    split <;> rename_i he <;> rw [he] at ha
    · exact ha.cancelTask _
    · exact ha.replaceTask _ _ _ _

end Still

/-! ## Operations that get on -/

namespace Turning

theorem after (h : Turning w m op parent? u) (hs : Still u v) : Turning w m op parent? v :=
  ⟨h.still.trans hs, h.stands, Nat.lt_of_lt_of_le h.lt hs.nextOperation⟩

theorem begins (hs : Still w u) (hm : m.mover? = none) (hn : w.nextOperation < u.nextOperation) :
    Turning w m w.nextOperation none u :=
  ⟨hs, .inl ⟨rfl, hm, rfl⟩, hn⟩

theorem resumes {q : Point} (hw : Sound w) (hq : w.point? op = some q) (hm : m.mover? = some op)
    (hj : q.isJoining = false) : Turning w m op q.parent? w :=
  ⟨.refl w, .inr ⟨q, hq, hm, rfl, hj⟩, hw.fresh _ _ hq⟩

theorem finish (h : Turning w m op none u) (o : Outcome) : Motion w m (u.finish op o) := .ends h rfl

theorem leave (ht : Turning w m op none u) (h : Handle) (o : Outcome) : Motion w m (u.leave op h o) :=
  (ht.after ((Still.refl u).unlock op h)).finish o

theorem setPoint {q : Point} (h : Turning w m op q.parent? u) (hq : w.Arrives m op q) :
    Motion w m (u.setPoint op q) :=
  .moves h hq (.refl _)

theorem call {q : Point} (ht : Turning w m op q.parent? u) (hq : w.Arrives m op q) (h : Handle)
    (c : Call) : Motion w m (u.call op h c q) :=
  .moves ht hq ((Still.refl _).note nofun)

theorem endRemoval {remover : Remover} (h : Turning w m op remover.parent? u) (found : Bool) :
    Motion w m (u.endRemoval op remover found) := by
  cases remover with
  | caller => exact finish h _
  | registration => exact finish h _
  | shutdown parent => exact .tells h rfl

/-! ## Removing -/

theorem takeOut {remover : Remover} (ht : Turning w m op remover.parent? u)
    (hy : ∀ s, e.snapshot = some s → w.Yields m op e.handle s remover) :
    Motion w m (u.takeOut op e remover) := by
  have hi := ht.after ((Still.refl u).install e.handle none)
  unfold World.takeOut
  cases hs : e.snapshot with
  | none => exact (hi.after ((Still.refl _).unlock op e.handle)).endRemoval true
  | some s =>
    show Motion w m (ite (s.lease.hasId = true) _ _)
    by_cases hid : s.lease.hasId = true
    · rw [if_pos hid]
      refine call (q := .revoking e.handle s remover) hi ⟨rfl, fun h s' r hq => ?_, nofun, nofun⟩ _ _
      cases hq
      exact ⟨hid, hy s hs⟩
    · rw [if_neg hid]
      exact (hi.after ((Still.refl _).unlock op e.handle)).endRemoval true

theorem remove {remover : Remover} (ht : Turning w m op remover.parent? u)
    (hd : (∃ e, u.registered? h = some e) → w.Departs op h)
    (hy : ∀ e s, u.registered? h = some e → e.snapshot = some s → w.Yields m op h s remover) :
    Motion w m (u.remove op h remover) := by
  unfold World.remove
  split
  · exact ht.endRemoval false
  rename_i e he
  obtain rfl := find_handle (registered?_some he).1
  have hk : ∀ f g : Entry → Entry,
      Still u ((((u.modify e.handle f).cancelTask e.handle).updateGauge).modify e.handle g) := fun f g =>
    ((((Still.refl u).modify _ f).cancelTask e.handle).updateGauge).modify _ g
  show Motion w m (ite (e.lock.isEmpty = true) _ _)
  by_cases hl : e.lock.isEmpty = true
  · rw [if_pos hl]
    exact (ht.after (hk _ _)).takeOut fun s hs => hy e s he hs
  · rw [if_neg hl]
    refine setPoint (q := .queued e.handle (.remove remover)) (ht.after (hk _ _))
      ⟨rfl, nofun, nofun, fun h r hq => ?_⟩
    cases hq
    exact hd ⟨e, he⟩

theorem afterRevocation {s : Snapshot} {remover : Remover} (ht : Turning w m op remover.parent? u)
    (he : u.entry? h = some e) (r : Except Fault Unit) :
    Motion w m (u.afterRevocation op h s remover r) := by
  simp only [World.afterRevocation, he]
  cases r with
  | ok _ =>
    exact (ht.after (((Still.refl u).publish e (.revoked s.lease)).unlock op h)).endRemoval true
  | error f =>
    exact (ht.after (((Still.refl u).publish e (.failed s.lease f)).unlock op h)).endRemoval true

/-! ## Working on an entry -/

theorem fetchAgain (ht : Turning w m op none u) (e : Entry) (previous : Lease) (cause : Cause) :
    Motion w m (u.fetchAgain op e previous cause) :=
  call (q := .rotating e.handle previous cause) ht ⟨rfl, nofun, nofun, nofun⟩ _ _

theorem expire (ht : Turning w m op none u) (e : Entry) (s : Snapshot) :
    Motion w m (u.expire op e s) := by
  have hp := ht.after ((Still.refl u).publish e (.expired s.lease))
  show Motion w m (ite (e.isRotating = true) _ _)
  by_cases hr : e.isRotating = true
  · rw [if_pos hr]
    exact hp.fetchAgain e s.lease .loss
  · rw [if_neg hr]
    exact (hp.after (((Still.refl _).cancelTask e.handle).install e.handle none)).leave _ _

theorem renew (ht : Turning w m op none u) (e : Entry) (s : Snapshot) : Motion w m (u.renew op e s) :=
  call (q := .renewing e.handle s u.now) ht ⟨rfl, nofun, nofun, nofun⟩ _ _

theorem afterFailure (ht : Turning w m op none u) (e : Entry) (s : Snapshot) (f : Fault) :
    Motion w m (u.afterFailure op e s f) := by
  have hp := ht.after ((Still.refl u).publish e (.failed s.lease f))
  have ha := hp.after ((Still.refl _).askTrigger
    (s.lease.remaining (u.publish e (.failed s.lease f)).now))
  unfold World.afterFailure
  show Motion w m (ite (u.strategy.retains f = true) _ _)
  split
  · dsimp only
    split <;> rename_i he <;> rw [he] at ha
    · split
      · exact (ha.after ((Still.refl _).replaceTask e.handle _ s .renew)).leave _ _
      · exact ha.expire e s
    · exact ha.expire e s
  · exact hp.expire e s

theorem afterRenewal {s : Snapshot} (ht : Turning w m op none u) (he : u.entry? h = some e)
    (r : Except Fault Lease) : Motion w m (u.afterRenewal op h s r) := by
  simp only [World.afterRenewal, he]
  cases r with
  | ok lease =>
    have hi := ht.after ((((Still.refl u).tally (.renewal .lease true)).mint lease s.data).install h
      (some ⟨u.nextSnapshot, lease, s.data⟩))
    refine leave ?_ _ _
    show Turning w m op none (ite _ _ _)
    split
    · exact hi.after (((Still.refl _).publish e _).scheduleCare e _)
    · exact hi
  | error f =>
    have hk := ht.after ((Still.refl u).tally (.renewal .lease false))
    show Motion w m (ite _ _ _)
    split
    · exact hk.afterFailure e s f
    · exact hk.leave _ _

theorem endFetch (ht : Turning w m op none u) (e : Entry) (cause : Cause) (f : Fault) :
    Motion w m (u.endFetch op e cause f) := by
  cases cause with
  | caller => exact ht.leave _ _
  | loss =>
    have hc := ht.after ((Still.refl u).cancelTask e.handle)
    refine leave ?_ _ _
    show Turning w m op none (ite _ _ _)
    split
    · exact hc.after ((Still.refl _).install e.handle none)
    · exact hc

theorem afterFetch {previous : Lease} {cause : Cause} (ht : Turning w m op none u)
    (he : u.entry? h = some e) (r : Except Fault (Option Secret)) :
    Motion w m (u.afterFetch op h previous cause r) := by
  simp only [World.afterFetch, he]
  have htell : ∀ c, Turning w m op none (let u := u.tally (.rotation e.request.mode false)
      if u.isLive e then u.publish e c else u) := fun c => by
    have hk := ht.after ((Still.refl u).tally (.rotation e.request.mode false))
    show Turning w m op none (ite _ _ _)
    split
    · exact hk.after ((Still.refl _).publish e c)
    · exact hk
  match r with
  | .ok (some secret) =>
    have hi := ht.after ((((Still.refl u).tally (.rotation e.request.mode true)).mint secret.lease
      secret.data).install h (some ⟨u.nextSnapshot, secret.lease, secret.data⟩))
    refine leave ?_ _ _
    show Turning w m op none (ite _ _ _)
    split
    · exact hi.after (((Still.refl _).publish e _).scheduleCare e _)
    · exact hi
  | .ok none => exact (htell _).endFetch e cause _
  | .error f => exact (htell _).endFetch e cause f

/-! ## Waiting for an entry -/

theorem withLock {errand : Errand} (ht : Turning w m op errand.parent? u)
    (hy : ∀ remover s, errand = .remove remover → e.snapshot = some s →
      w.Yields m op e.handle s remover) : Motion w m (u.withLock op e errand) := by
  cases errand with
  | act s action =>
    show Motion w m (ite _ _ _)
    split
    · cases action with
      | renew => exact renew ht e s
      | expire => exact expire ht e s
    · exact leave ht _ _
  | rotate =>
    show Motion w m (ite _ _ _)
    split
    · exact fetchAgain ht e _ _
    · exact leave ht _ _
  | remove remover => exact takeOut ht fun s hs => hy remover s rfl hs

/-- Only a removal makes an operation give something back once it has the lock. -/
theorem want {errand : Errand} (ht : Turning w m op none u) (he : errand.parent? = none)
    (hr : ∀ remover, errand ≠ .remove remover) : Motion w m (u.want op e errand) := by
  have hk := ht.after ((Still.refl u).modify e.handle fun e => { e with lock := e.lock ++ [op] })
  rw [← he] at hk
  show Motion w m (ite (e.lock.isEmpty = true) _ _)
  split
  · exact hk.withLock fun remover _ hrem => absurd hrem (hr remover)
  · exact setPoint (q := .queued e.handle errand) hk
      ⟨rfl, nofun, nofun, fun _ remover hq => absurd (Point.queued.inj hq).2 (hr remover)⟩

theorem rotate (ht : Turning w m op none u) (h : Handle) : Motion w m (u.rotate op h) := by
  unfold World.rotate
  split
  · exact ht.finish _
  split
  · exact ht.finish _
  · exact ht.want rfl nofun

/-! ## Registering -/

/-- What is found under a handle whose entry has been changed. -/
theorem modified {f : Entry → Entry} (hf : ∀ e, (f e).handle = e.handle)
    (he : World.entry? (w.modify h f) h = some e) : ∃ g, w.entry? h = some g ∧ e = f g := by
  rw [find_modify w h f hf, if_pos rfl] at he
  obtain ⟨g, hg, rfl⟩ := Option.map_eq_some_iff.mp he
  exact ⟨g, hg, rfl⟩

theorem add (ht : Turning w m op none u) (request : SecretRequest) (source : String) :
    Motion w m (u.add op request source) := by
  show Motion w m (ite (u.destroyed = true) _ _)
  by_cases hd : u.destroyed = true
  · rw [if_pos hd]
    exact ht.finish _
  · rw [if_neg hd]
    refine call (q := .registering ⟨u.nextHandle⟩) (ht.after ?_) ⟨rfl, nofun, fun _ _ => ?_, nofun⟩ _ _
    · exact (Still.refl u).same rfl (Nat.le_refl _) rfl rfl rfl
    · rw [← ht.still.destroyed]
      simpa using hd

theorem register {s : Option Snapshot} {tell : World → World} (ht : Turning w m op none u)
    (htell : ∀ v, Still v (tell v)) (hq : w.Departs op e.handle)
    (hy : w.destroyed = true → ∀ t, s = some t → w.Yields m op e.handle t .registration) :
    Motion w m (u.register op e s tell) := by
  have hk := ht.after (((Still.refl u).modify e.handle fun e =>
    { e with snapshot := s, standing := .registered }).updateGauge)
  unfold World.register
  show Motion w m (ite (u.destroyed = true) _ _)
  by_cases hd : u.destroyed = true
  · rw [if_pos hd]
    refine remove (hk.after ((Still.refl _).unlock op e.handle)) (fun _ => hq) fun f t hf hft => ?_
    -- What is registered now shows what the fetch has brought.
    refine hy (ht.still.destroyed ▸ hd) t ?_
    obtain ⟨g, hg, rfl⟩ := modified (h := e.handle)
      (f := fun e => { e with lock := e.lock.filter (· != op) }) (fun _ => rfl) (registered?_some hf).1
    obtain ⟨_, -, rfl⟩ := modified (w := u) (h := e.handle)
      (f := fun e => { e with snapshot := s, standing := .registered }) (fun _ => rfl) hg
    exact hft
  · rw [if_neg hd]
    exact (hk.after (htell _)).leave _ _

theorem afterFirstFetch (ht : Turning w m op none u) {r : Except Fault (Option Secret)}
    (hm : m = .answer op (.fetched r)) (hq : w.point? op = some (.registering h))
    (he : u.entry? h = some e) : Motion w m (u.afterFirstFetch op h r) := by
  simp only [World.afterFirstFetch, he]
  obtain rfl := find_handle he
  match r with
  | .ok (some secret) =>
    refine register (ht.after ((Still.refl u).mint secret.lease secret.data))
      (fun v => ((Still.refl v).publish e _).scheduleCare _ _) (.inr hq) fun hd t hs => ?_
    cases hs
    exact .late hm hq hd rfl
  | .ok none =>
    show Motion w m (ite _ _ _)
    split
    · exact (ht.after ((Still.refl u).forget _)).finish _
    · exact ht.register (fun v => (Still.refl v).publish e _) (.inr hq) nofun
  | .error f =>
    show Motion w m (ite _ _ _)
    split
    · exact (ht.after ((Still.refl u).forget _)).finish _
    · exact ht.register (fun v => (Still.refl v).publish e _) (.inr hq) nofun

end Turning

/-! ## Every turn is such a motion -/

theorem motion_destroy (w : World) : Motion w (.begin .destroy) (w.enroll.2.destroy w.nextOperation) := by
  show Motion w _ (ite (w.destroyed = true) _ _)
  by_cases hd : w.destroyed = true
  · rw [if_pos hd]
    refine (Turning.begins ?_ rfl (Nat.lt_succ_self _)).finish _
    exact (Still.refl w).same rfl (Nat.le_succ _) rfl rfl rfl
  · rw [if_neg hd]
    simp only [Bool.not_eq_true] at hd
    dsimp only
    split
    · exact .shutsBare rfl hd rfl
    · exact .shuts rfl hd rfl

theorem motion_of_turn (hw : Sound w) (hm : m ≠ .release) (ht : Turn w m w') : Motion w m w' := by
  have hn : Still w w.enroll.2 := (Still.refl w).same rfl (Nat.le_succ _) rfl rfl rfl
  have hbegin : ∀ {r}, Turning w (.begin r) w.nextOperation none w.enroll.2 :=
    .begins hn rfl (Nat.lt_succ_self _)
  -- Whoever waits for the server does so for an entry.
  have hentry : ∀ {op h q}, w.point? op = some q → q.wants? = some h → ∃ e, w.entry? h = some e :=
    fun hq hh => by
      obtain ⟨_, he⟩ := hw.wanted _ _ _ hq hh
      obtain ⟨e, he, -⟩ := Option.map_eq_some_iff.mp he
      exact ⟨e, he⟩
  cases ht with
  | @begins r _ =>
    cases r with
    | add request source => exact hbegin.add request source
    | remove h =>
      show Motion w _ (w.enroll.2.remove w.nextOperation h .caller)
      refine Turning.remove hbegin .inl fun e s he hs => ?_
      exact .removes (.asked rfl rfl) he hs
    | rotate h => exact hbegin.rotate h
    | destroy => exact motion_destroy w
  | @runs _ t s hf =>
    have hk : Still w ({ w with schedule := s } : World) :=
      (Still.refl w).same rfl (Nat.le_refl _) rfl rfl rfl
    have hmv : m.mover? = none := by cases hf <;> rfl
    show Motion w m (ite _ _ _)
    split
    · split
      · exact .rests hmv hk
      · rename_i e _
        show Motion w m (World.want ({ w with schedule := s } : World).enroll.2 w.nextOperation e
          (.act t.job.snapshot t.job.action))
        refine Turning.want (.begins (hk.same rfl ?_ rfl rfl rfl) hmv ?_) rfl nofun
        · exact Nat.le_succ w.nextOperation
        · exact Nat.lt_succ_self w.nextOperation
    · exact .rests hmv hk
  | enters hq he hl =>
    refine Turning.withLock (.resumes hw hq rfl rfl) fun remover s hr hs => ?_
    subst hr
    obtain rfl := find_handle he
    exact .waited rfl hq he hl hs
  | @opens _ parent _ hq =>
    show Motion w _ (w.remove _ _ (.shutdown parent))
    refine Turning.remove (.resumes hw hq rfl rfl) .inl fun e s he hs => ?_
    exact .removes (.opened rfl hq) he hs
  | fetchedFirst hq =>
    obtain ⟨e, he⟩ := hentry hq rfl
    exact Turning.afterFirstFetch (.resumes hw hq rfl rfl) rfl hq he
  | fetchedAgain hq =>
    obtain ⟨e, he⟩ := hentry hq rfl
    exact Turning.afterFetch (.resumes hw hq rfl rfl) he _
  | renewed hq =>
    obtain ⟨e, he⟩ := hentry hq rfl
    exact Turning.afterRenewal (.resumes hw hq rfl rfl) he _
  | revoked hq =>
    obtain ⟨e, he⟩ := hentry hq rfl
    exact Turning.afterRevocation (.resumes hw hq rfl rfl) he _
  | elapses => exact .rests rfl ((Still.refl w).same rfl (Nat.le_refl _) rfl rfl rfl)
  | releases => exact absurd rfl hm
  | stops => exact .rests rfl ((Still.refl w).same rfl (Nat.le_refl _) rfl rfl rfl)
  | listens | unlistens => exact .rests rfl ((Still.refl w).same rfl (Nat.le_refl _) rfl rfl rfl)

end World

end LeaseKeeper.Leases
