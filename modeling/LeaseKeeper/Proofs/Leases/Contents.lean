import LeaseKeeper.Leases.Step
import LeaseKeeper.Proofs.Operations
import LeaseKeeper.Proofs.Substitution
import Mathlib.Tactic.Simps.Basic

/-!
# Lease engines with other data

A lease engine never looks at the data of a secret. With other data in the answers of the server
(`Move.refill`) it does the same in every step (`step_refill`) and so in every run (`run?_refill`), with
the other data in the places of the first (`World.refill`).
-/

namespace LeaseKeeper

/-- The secret with other data. -/
def Secret.refill (f : SecretData → SecretData) (s : Secret) : Secret := { s with data := f s.data }

def LeaseChange.refill (f : SecretData → SecretData) : LeaseChange → LeaseChange
  | created l d => created l (f d)
  | rotated p l d => rotated p l (f d)
  | c => c

def LeaseEvent.refill (f : SecretData → SecretData) (e : LeaseEvent) : LeaseEvent :=
  { e with change := e.change.refill f }

namespace Leases

variable (f : SecretData → SecretData)

def Snapshot.refill (s : Snapshot) : Snapshot := { s with data := f s.data }

def Job.refill (j : Job) : Job := { j with snapshot := j.snapshot.refill f }

def Entry.refill (e : Entry) : Entry := { e with snapshot := e.snapshot.map (·.refill f) }

def Errand.refill : Errand → Errand
  | act s a => act (s.refill f) a
  | rotate => rotate
  | remove r => remove r

def Point.refill : Point → Point
  | registering h => registering h
  | queued h errand => queued h (errand.refill f)
  | renewing h s since => renewing h (s.refill f) since
  | rotating h l cause => rotating h l cause
  | revoking h s r => revoking h (s.refill f) r
  | opening h n => opening h n
  | joining n => joining n

def Happening.refill : Happening → Happening
  | published e => published (e.refill f)
  | called op h c => called op h c
  | ended op o => ended op o

def View.refill (v : View) : View := ⟨v.snapshot.map (·.refill f), v.count⟩

def Reply.refill : Reply → Reply
  | fetched r => fetched (r.map (Option.map (·.refill f)))
  | renewal r => renewal r
  | revocation r => revocation r

/-- The move with other data in the answer that it brings. -/
def Move.refill : Move → Move
  | answer op r => answer op (r.refill f)
  | m => m

/-- The lease engine with other data in the same places. -/
@[simps]
def World.refill (w : World) : World :=
  { w with
    schedule := w.schedule.map (·.refill f)
    entries := w.entries.map (·.refill f)
    operations := w.operations.map fun x => (x.1, x.2.refill f)
    audience := w.audience.map (·.refill f) (·.refill f)
    history := w.history.map (·.refill f) }

end Leases

/-! ## What data does not show in -/

section event

variable (f : SecretData → SecretData) (e : LeaseEvent)

@[simp] theorem LeaseEvent.isError_refill : (e.refill f).isError = e.isError := by
  rcases e with ⟨_, _, _ | _⟩ <;> rfl

@[simp] theorem LeaseEvent.kind_refill : (e.refill f).kind = e.kind := by
  rcases e with ⟨_, _, _ | _⟩ <;> rfl

@[simp] theorem LeaseEvent.logLine_refill : (e.refill f).logLine = e.logLine := by
  rcases e with ⟨_, _, _ | _⟩ <;> rfl

end event

namespace Leases.World

variable (f : SecretData → SecretData) (w : World)

@[simp] theorem entry?_refill (h : Handle) :
    World.entry? (w.refill f) h = (w.entry? h).map (·.refill f) :=
  List.find?_map ..

@[simp] theorem registered?_refill (h : Handle) :
    (w.refill f).registered? h = (w.registered? h).map (·.refill f) := by
  rw [registered?, entry?_refill]
  exact Option.filter_map ..

@[simp] theorem registered_refill : (w.refill f).registered = w.registered.map (·.refill f) :=
  List.filter_map ..

@[simp] theorem handles_refill : (w.refill f).handles = w.handles := by
  simp [handles, Function.comp_def, Entry.refill]

@[simp] theorem count_refill : (w.refill f).count = w.count := by simp [count]

theorem snapshot?_refill (h : Handle) :
    (w.refill f).snapshot? h = (w.snapshot? h).map (·.refill f) := by
  rw [snapshot?, registered?_refill, snapshot?]
  cases w.registered? h <;> rfl

theorem view_refill (h : Handle) : (w.refill f).view h = (w.view h).refill f := by
  rw [view, snapshot?_refill, count_refill]
  rfl

@[simp] theorem isAlive_refill : (w.refill f).isAlive = w.isAlive := by simp [isAlive]

@[simp] theorem point?_refill (op : Nat) : (w.refill f).point? op = (w.point? op).map (·.refill f) := by
  simp [point?, lookup_map_snd]

@[simp] theorem isLive_refill (e : Entry) : (w.refill f).isLive (e.refill f) = w.isLive e := rfl

@[simp] theorem isCurrent_refill (e : Entry) (s : Snapshot) :
    (e.refill f).isCurrent (s.refill f) = e.isCurrent s := by
  simp [Entry.isCurrent, Option.any_map, Entry.refill, Snapshot.refill]

/-! ## What is done with it -/

theorem refill_note (x : Happening) : (w.note x).refill f = (w.refill f).note (x.refill f) := rfl

theorem refill_setPoint (op : Nat) (p : Point) :
    (w.setPoint op p).refill f = (w.refill f).setPoint op (p.refill f) := by
  simp [setPoint, refill, List.filter_map, Function.comp_def]

theorem refill_modify (h : Handle) {g k : Entry → Entry} (hg : ∀ e, (g e).refill f = k (e.refill f)) :
    (w.modify h g).refill f = (w.refill f).modify h k := by
  have he : (w.entries.map fun e => if e.handle = h then g e else e).map (·.refill f) =
      (w.entries.map (·.refill f)).map fun e => if e.handle = h then k e else e := by
    simp only [List.map_map]
    refine List.map_congr_left fun e _ => ?_
    simp only [Function.comp, apply_ite (Entry.refill f), hg]
    rfl
  exact congrArg (fun es => { w.refill f with entries := es }) he

theorem refill_publish (e : Entry) (c : LeaseChange) :
    (w.publish e c).refill f = (w.refill f).publish (e.refill f) (c.refill f) := by
  have hn : ∀ x : LeaseEvent, (⟨x.refill f, (x.refill f).isError, (x.refill f).logLine,
      .leaseEvent (x.refill f).kind, if w.held then some ((w.refill f).view e.handle) else none⟩ :
      Announcement LeaseEvent View) = Announcement.map (LeaseEvent.refill f) (View.refill f)
        ⟨x, x.isError, x.logLine, .leaseEvent x.kind, if w.held then some (w.view e.handle) else none⟩ :=
    fun x => by
      simp only [Announcement.map, LeaseEvent.isError_refill, LeaseEvent.logLine_refill,
        LeaseEvent.kind_refill, view_refill, apply_ite (Option.map _)]
      rfl
  have ha := congrArg ((w.audience.map (LeaseEvent.refill f) (View.refill f)).hear w.now)
    (hn ⟨e.handle, e.request.path, c⟩)
  rw [Audience.hear_map] at ha
  exact congrArg (fun a => { (w.refill f).note (.published ⟨e.handle, e.request.path, c.refill f⟩) with
    audience := a }) ha.symm

theorem refill_cancelTask (h : Handle) : (w.cancelTask h).refill f = (w.refill f).cancelTask h := by
  unfold cancelTask
  rw [entry?_refill]
  cases w.entry? h with
  | none => rfl
  | some e =>
    refine (refill_modify f { w with schedule := w.schedule.cancel? e.slot } h
      (k := fun e => { e with slot := none }) fun _ => rfl).trans ?_
    simp [refill, Entry.refill]

theorem refill_replaceTask (h : Handle) (delay : Span) (s : Snapshot) (a : Action) :
    (w.replaceTask h delay s a).refill f = (w.refill f).replaceTask h delay (s.refill f) a := by
  have hadd : (w.refill f).schedule.add w.now delay ⟨h, s.refill f, a⟩ = _ :=
    w.schedule.add_map (Job.refill f) w.now delay ⟨h, s, a⟩
  unfold replaceTask
  rw [entry?_refill]
  cases w.entry? h with
  | none => rfl
  | some e =>
    rw [Option.map_some, refill_now, hadd]
    refine (refill_modify f { w with schedule := (w.schedule.add w.now delay ⟨h, s, a⟩).2.cancel? e.slot }
      h (k := fun e => { e with slot := some (w.schedule.add w.now delay ⟨h, s, a⟩).1 })
      fun _ => rfl).trans ?_
    simp [refill, Entry.refill]

theorem refill_cancelTasks (hs : List Handle) :
    (hs.foldl cancelTask w).refill f = hs.foldl cancelTask (w.refill f) := by
  induction hs generalizing w with
  | nil => rfl
  | cons h hs ih =>
    rw [List.foldl_cons, ih, refill_cancelTask]
    rfl

theorem refill_reap : w.reap.refill f = (w.refill f).reap := by
  unfold reap
  rw [isAlive_refill, handles_refill]
  split
  · rfl
  · exact refill_cancelTasks f w _

theorem refill_finish (op : Nat) (o : Outcome) :
    (w.finish op o).refill f = (w.refill f).finish op o := by
  unfold finish
  rw [refill_reap]
  simp only [note, refill, List.filter_map, Function.comp_def]
  rfl

theorem refill_unlock (op : Nat) (h : Handle) : (w.unlock op h).refill f = (w.refill f).unlock op h :=
  refill_modify f w h (k := fun e => { e with lock := e.lock.filter (· != op) }) fun _ => rfl

theorem refill_install (h : Handle) (s : Option Snapshot) :
    (w.install h s).refill f = (w.refill f).install h (s.map (·.refill f)) :=
  refill_modify f w h (k := fun e => { e with snapshot := s.map (·.refill f) }) fun _ => rfl

theorem refill_call (op : Nat) (h : Handle) (c : Call) (p : Point) :
    (w.call op h c p).refill f = (w.refill f).call op h c (p.refill f) := by
  rw [call, refill_note, refill_setPoint]
  rfl

theorem refill_leave (op : Nat) (h : Handle) (o : Outcome) :
    (w.leave op h o).refill f = (w.refill f).leave op h o := by
  rw [leave, refill_finish, refill_unlock]
  rfl

theorem refill_scheduleCare (e : Entry) (s : Snapshot) :
    (w.scheduleCare e s).refill f = (w.refill f).scheduleCare (e.refill f) (s.refill f) := by
  have hw : wantsCare (e.refill f) (s.refill f).lease = wantsCare e s.lease := rfl
  have ha : (w.refill f).askTrigger ((s.refill f).lease.remaining (w.refill f).now) =
    ((w.askTrigger (s.lease.remaining w.now)).1,
      (w.askTrigger (s.lease.remaining w.now)).2.refill f) := rfl
  unfold scheduleCare
  rw [isLive_refill, hw, ha]
  split
  · rfl
  split
  · exact refill_cancelTask ..
  refine apply_ite_congr (refill f) (fun _ => ?_) fun _ => ?_
  · exact refill_replaceTask ..
  · rcases w.askTrigger (s.lease.remaining w.now) with ⟨_ | delay, w'⟩
    · exact refill_cancelTask ..
    · exact refill_replaceTask ..

/-! ## Removing -/

theorem refill_childEnded (parent : Nat) :
    (w.childEnded parent).refill f = (w.refill f).childEnded parent := by
  unfold childEnded
  rw [point?_refill]
  match w.point? parent with
  | some (.joining left) =>
    refine apply_ite_congr (refill f) (fun _ => ?_) fun _ => ?_
    · exact refill_finish ..
    · exact refill_setPoint ..
  | none | some (.registering _) | some (.queued _ _) | some (.renewing _ _ _)
  | some (.rotating _ _ _) | some (.revoking _ _ _) | some (.opening _ _) => rfl

theorem refill_endRemoval (op : Nat) (remover : Remover) (found : Bool) :
    (w.endRemoval op remover found).refill f = (w.refill f).endRemoval op remover found := by
  cases remover with
  | caller | registration => exact refill_finish ..
  | shutdown parent =>
    refine (refill_childEnded ..).trans ?_
    rw [refill_finish]
    rfl

theorem refill_takeOut (op : Nat) (e : Entry) (remover : Remover) :
    (w.takeOut op e remover).refill f = (w.refill f).takeOut op (e.refill f) remover := by
  have hend : (((w.install e.handle none).unlock op e.handle).endRemoval op remover true).refill f =
      (((w.refill f).install e.handle none).unlock op e.handle).endRemoval op remover true := by
    rw [refill_endRemoval, refill_unlock, refill_install]
    rfl
  unfold takeOut
  rw [Entry.refill]
  cases e.snapshot with
  | none => exact hend
  | some s =>
    refine apply_ite_congr (refill f) (fun _ => ?_) fun _ => hend
    rw [refill_call, refill_install]
    rfl

theorem refill_updateGauge : w.updateGauge.refill f = (w.refill f).updateGauge := by
  unfold updateGauge
  rw [count_refill]
  rfl

theorem refill_queue (op : Nat) (h : Handle) :
    (w.modify h fun e => { e with lock := e.lock ++ [op] }).refill f =
      (w.refill f).modify h fun e => { e with lock := e.lock ++ [op] } :=
  refill_modify f w h fun _ => rfl

theorem refill_remove (op : Nat) (h : Handle) (remover : Remover) :
    (w.remove op h remover).refill f = (w.refill f).remove op h remover := by
  unfold remove
  rw [registered?_refill]
  cases w.registered? h with
  | none => exact refill_endRemoval ..
  | some e =>
    have hu : ((w.modify h fun e => { e with standing := .removed }).cancelTask h).updateGauge.refill f =
        (((w.refill f).modify h fun e => { e with standing := .removed }).cancelTask h).updateGauge := by
      rw [refill_updateGauge, refill_cancelTask]
      exact congrArg (fun v => (cancelTask v h).updateGauge) (refill_modify f w h fun _ => rfl)
    dsimp only [Option.map_some]
    rw [← hu, ← refill_queue]
    refine apply_ite_congr (refill f) (fun _ => ?_) fun _ => ?_
    · exact refill_takeOut ..
    · exact refill_setPoint ..

theorem refill_afterRevocation (op : Nat) (h : Handle) (s : Snapshot) (remover : Remover)
    (r : Except Fault Unit) : (w.afterRevocation op h s remover r).refill f =
      (w.refill f).afterRevocation op h (s.refill f) remover r := by
  unfold afterRevocation
  rw [entry?_refill]
  cases w.entry? h with
  | none => rfl
  | some e =>
    rw [refill_endRemoval, refill_unlock]
    cases r with
    | ok _ =>
      rw [refill_publish]
      rfl
    | error _ =>
      rw [refill_publish]
      rfl

/-! ## Fetching again and renewing -/

theorem refill_fetchAgain (op : Nat) (e : Entry) (previous : Lease) (cause : Cause) :
    (w.fetchAgain op e previous cause).refill f =
      (w.refill f).fetchAgain op (e.refill f) previous cause := refill_call ..

theorem refill_endFetch (op : Nat) (e : Entry) (cause : Cause) (k : Fault) :
    (w.endFetch op e cause k).refill f = (w.refill f).endFetch op (e.refill f) cause k := by
  cases cause with
  | caller => exact refill_leave ..
  | loss =>
    refine (refill_leave ..).trans (congrArg (leave · op e.handle .finished) ?_)
    have hc := refill_cancelTask f w e.handle
    rw [show (w.refill f).cancelTask (e.refill f).handle = _ from hc.symm]
    refine apply_ite_congr (refill f) (fun _ => ?_) fun _ => rfl
    exact refill_install ..

theorem refill_afterFetch (op : Nat) (h : Handle) (previous : Lease) (cause : Cause)
    (r : Except Fault (Option Secret)) : (w.afterFetch op h previous cause r).refill f =
      (w.refill f).afterFetch op h previous cause (r.map (Option.map (·.refill f))) := by
  unfold afterFetch
  rw [entry?_refill]
  cases w.entry? h with
  | none => rfl
  | some e =>
    match r with
    | .ok (some secret) =>
      refine (refill_leave ..).trans (congrArg (leave · op h .finished) ?_)
      refine apply_ite_congr (refill f) (fun _ => ?_) fun _ => ?_
      · rw [refill_scheduleCare, refill_publish, refill_install]
        rfl
      · exact refill_install ..
    | .ok none =>
      refine (refill_endFetch ..).trans (congrArg (endFetch · op (e.refill f) cause _) ?_)
      refine apply_ite_congr (refill f) (fun _ => ?_) fun _ => rfl
      exact refill_publish ..
    | .error k =>
      refine (refill_endFetch ..).trans (congrArg (endFetch · op (e.refill f) cause k) ?_)
      refine apply_ite_congr (refill f) (fun _ => ?_) fun _ => rfl
      exact refill_publish ..

theorem refill_expire (op : Nat) (e : Entry) (s : Snapshot) :
    (w.expire op e s).refill f = (w.refill f).expire op (e.refill f) (s.refill f) := by
  have hp := refill_publish f w e (.expired s.lease)
  unfold expire
  rw [show (w.refill f).publish (e.refill f) (.expired (s.refill f).lease) = _ from hp.symm]
  refine apply_ite_congr (refill f) (fun _ => ?_) fun _ => ?_
  · exact refill_fetchAgain ..
  · rw [refill_leave, refill_install, refill_cancelTask]
    rfl

theorem refill_renew (op : Nat) (e : Entry) (s : Snapshot) :
    (w.renew op e s).refill f = (w.refill f).renew op (e.refill f) (s.refill f) := refill_call ..

theorem refill_afterFailure (op : Nat) (e : Entry) (s : Snapshot) (k : Fault) :
    (w.afterFailure op e s k).refill f =
      (w.refill f).afterFailure op (e.refill f) (s.refill f) k := by
  have hp := refill_publish f w e (.failed s.lease k)
  unfold afterFailure
  rw [show (w.refill f).publish (e.refill f) (.failed (s.refill f).lease k) = _ from hp.symm]
  generalize w.publish e (.failed s.lease k) = u
  have ha : (u.refill f).askTrigger ((s.refill f).lease.remaining (u.refill f).now) =
    ((u.askTrigger (s.lease.remaining u.now)).1,
      (u.askTrigger (s.lease.remaining u.now)).2.refill f) := rfl
  refine apply_ite_congr (refill f) (fun _ => ?_) fun _ => ?_
  · dsimp only
    rw [ha]
    rcases u.askTrigger (s.lease.remaining u.now) with ⟨_ | delay, v⟩
    · exact refill_expire ..
    · refine apply_ite_congr (refill f) (fun _ => ?_) fun _ => ?_
      · rw [refill_leave, refill_replaceTask]
        rfl
      · exact refill_expire ..
  · exact refill_expire ..

theorem refill_afterRenewal (op : Nat) (h : Handle) (s : Snapshot) (r : Except Fault Lease) :
    (w.afterRenewal op h s r).refill f = (w.refill f).afterRenewal op h (s.refill f) r := by
  unfold afterRenewal
  rw [entry?_refill]
  cases w.entry? h with
  | none => rfl
  | some e =>
    cases r with
    | ok l =>
      refine (refill_leave ..).trans (congrArg (leave · op h .finished) ?_)
      refine apply_ite_congr (refill f) (fun _ => ?_) fun _ => ?_
      · rw [refill_scheduleCare, refill_publish, refill_install]
        rfl
      · exact refill_install ..
    | error k =>
      refine apply_ite_congr (refill f) (fun _ => ?_) fun _ => ?_
      · exact refill_afterFailure ..
      · exact refill_leave ..

/-! ## Registering -/

theorem refill_add (op : Nat) (request : SecretRequest) (source : String) :
    (w.add op request source).refill f = (w.refill f).add op request source := by
  refine apply_ite_congr (refill f) (fun _ => ?_) fun _ => ?_
  · exact refill_finish ..
  · rw [refill_call]
    simp [refill, Entry.refill, Point.refill]

theorem refill_forget (h : Handle) : (w.forget h).refill f = (w.refill f).forget h := by
  simp [forget, refill, List.filter_map, Function.comp_def, Entry.refill]

theorem refill_register (op : Nat) (e : Entry) (s : Option Snapshot) {tell told : World → World}
    (ht : ∀ v, (tell v).refill f = told (v.refill f)) : (w.register op e s tell).refill f =
      (w.refill f).register op (e.refill f) (s.map (·.refill f)) told := by
  have hr : (w.modify e.handle fun e =>
      { e with snapshot := s, standing := .registered }).updateGauge.refill f =
      ((w.refill f).modify e.handle fun e =>
        { e with snapshot := s.map (·.refill f), standing := .registered }).updateGauge := by
    rw [refill_updateGauge]
    exact congrArg updateGauge (refill_modify f w e.handle fun _ => rfl)
  unfold register
  dsimp only
  rw [show ((w.refill f).modify (e.refill f).handle _).updateGauge = _ from hr.symm]
  generalize (w.modify e.handle _).updateGauge = u
  refine apply_ite_congr (refill f) (fun _ => ?_) fun _ => ?_
  · rw [refill_remove, refill_unlock]
    rfl
  · rw [refill_leave, ht]
    rfl

theorem refill_afterFirstFetch (op : Nat) (h : Handle) (r : Except Fault (Option Secret)) :
    (w.afterFirstFetch op h r).refill f =
      (w.refill f).afterFirstFetch op h (r.map (Option.map (·.refill f))) := by
  have hforget : ∀ k, ((w.forget h).finish op (.refused k)).refill f =
      ((w.refill f).forget h).finish op (.refused k) := fun k => by
    rw [refill_finish, refill_forget]
  unfold afterFirstFetch
  rw [entry?_refill]
  cases w.entry? h with
  | none => rfl
  | some e =>
    match r with
    | .ok (some secret) =>
      refine refill_register f _ op e _ fun v => ?_
      rw [refill_scheduleCare, refill_publish]
      rfl
    | .ok none =>
      refine apply_ite_congr (refill f) (fun _ => hforget _) fun _ => ?_
      exact refill_register f w op e none fun v => refill_publish ..
    | .error k =>
      refine apply_ite_congr (refill f) (fun _ => hforget _) fun _ => ?_
      exact refill_register f w op e none fun v => refill_publish ..

/-! ## Waiting for an entry, and shutting down -/

theorem refill_withLock (op : Nat) (e : Entry) (errand : Errand) :
    (w.withLock op e errand).refill f = (w.refill f).withLock op (e.refill f) (errand.refill f) := by
  cases errand with
  | act s action =>
    unfold withLock Errand.refill
    dsimp only
    rw [isLive_refill, isCurrent_refill]
    split
    · cases action with
      | renew => exact refill_renew ..
      | expire => exact refill_expire ..
    · exact refill_leave ..
  | rotate =>
    refine apply_ite_congr (refill f) (fun _ => ?_) fun _ => ?_
    · rw [refill_fetchAgain, Entry.refill]
      cases e.snapshot <;> rfl
    · exact refill_leave ..
  | remove remover => exact refill_takeOut ..

theorem refill_want (op : Nat) (e : Entry) (errand : Errand) :
    (w.want op e errand).refill f = (w.refill f).want op (e.refill f) (errand.refill f) := by
  have hq := refill_queue f w op e.handle
  unfold want
  dsimp only
  rw [show (w.refill f).modify (e.refill f).handle _ = _ from hq.symm]
  refine apply_ite_congr (refill f) (fun _ => ?_) fun _ => ?_
  · exact refill_withLock ..
  · exact refill_setPoint ..

theorem refill_rotate (op : Nat) (h : Handle) :
    (w.rotate op h).refill f = (w.refill f).rotate op h := by
  refine apply_ite_congr (refill f) (fun _ => ?_) fun _ => ?_
  · exact refill_finish ..
  · rw [registered?_refill]
    cases w.registered? h with
    | none => exact refill_finish ..
    | some e => exact refill_want ..

theorem refill_enrollRemovals (parent : Nat) (hs : List Handle) :
    (hs.foldl (enrollRemoval parent) w).refill f = hs.foldl (enrollRemoval parent) (w.refill f) := by
  induction hs generalizing w with
  | nil => rfl
  | cons h hs ih =>
    rw [List.foldl_cons, ih, List.foldl_cons]
    exact congrArg (hs.foldl (enrollRemoval parent)) (refill_setPoint ..)

theorem refill_destroy (op : Nat) : (w.destroy op).refill f = (w.refill f).destroy op := by
  have hd : ({ w.refill f with destroyed := true } : World).handles = w.handles := handles_refill f w
  refine apply_ite_congr (refill f) (fun _ => ?_) fun _ => ?_
  · exact refill_finish ..
  · dsimp only
    rw [hd, show ({ w with destroyed := true } : World).handles = w.handles from rfl]
    cases w.handles with
    | nil => exact refill_finish ..
    | cons h hs =>
      rw [refill_enrollRemovals, refill_setPoint]
      rfl

/-! ## Steps -/

theorem refill_begin (r : Request) : (w.begin r).refill f = (w.refill f).begin r := by
  cases r with
  | add request source => exact refill_add f w.enroll.2 ..
  | remove h => exact refill_remove f w.enroll.2 ..
  | rotate h => exact refill_rotate f w.enroll.2 ..
  | destroy => exact refill_destroy f w.enroll.2 ..

theorem refill_run (job : Job) : (w.run job).refill f = (w.refill f).run (job.refill f) := by
  unfold run
  rw [isAlive_refill, entry?_refill]
  split
  · rw [show (job.refill f).handle = job.handle from rfl]
    cases w.entry? job.handle with
    | none => rfl
    | some e => exact refill_want f w.enroll.2 ..
  · rfl

theorem fire_refill (id : Nat) : (w.refill f).fire id = (w.fire id).map (refill f) := by
  unfold fire
  rw [refill_schedule, refill_now, Schedule.startDue_map]
  rcases w.schedule.startDue w.now id with ⟨_ | t, s⟩
  · rfl
  · exact congrArg some (refill_run f { w with schedule := s } t.job).symm

theorem fireNext_refill : (w.refill f).fireNext = w.fireNext.map (refill f) := by
  unfold fireNext
  rw [refill_schedule, Schedule.startNext_map]
  rcases w.schedule.startNext with ⟨_ | t, s⟩
  · rfl
  · exact congrArg some (refill_run f { w with schedule := s } t.job).symm

theorem enter_refill (op : Nat) : (w.refill f).enter op = (w.enter op).map (refill f) := by
  unfold enter
  rw [point?_refill]
  match w.point? op with
  | some (.queued h errand) =>
    simp only [Option.map_some, Point.refill, entry?_refill]
    cases w.entry? h with
    | none => rfl
    | some e =>
      by_cases hh : e.lock.head? = some op <;> simp [hh, Entry.refill, refill_withLock]
  | none | some (.registering _) | some (.renewing _ _ _) | some (.rotating _ _ _)
  | some (.revoking _ _ _) | some (.opening _ _) | some (.joining _) => rfl

theorem openNext_refill (op : Nat) : (w.refill f).openNext op = (w.openNext op).map (refill f) := by
  unfold openNext
  rw [point?_refill]
  match w.point? op with
  | some (.opening h parent) => exact congrArg some (refill_remove ..).symm
  | none | some (.registering _) | some (.queued _ _) | some (.renewing _ _ _)
  | some (.rotating _ _ _) | some (.revoking _ _ _) | some (.joining _) => rfl

theorem answer_refill (op : Nat) (r : Reply) :
    (w.refill f).answer op (r.refill f) = (w.answer op r).map (refill f) := by
  unfold answer
  rw [point?_refill]
  rcases w.point? op with _ | p
  · rfl
  cases p <;> cases r <;> first | rfl | refine congrArg some ?_
  · exact (refill_afterFirstFetch ..).symm
  · exact (refill_afterRenewal ..).symm
  · exact (refill_afterFetch ..).symm
  · exact (refill_afterRevocation ..).symm

theorem isPunctual_refill (t : Instant) : (w.refill f).isPunctual t = w.isPunctual t := by
  unfold isPunctual
  rw [refill_schedule, Schedule.live_map, List.all_map]
  rfl

end Leases.World

namespace Leases

open World

variable (f : SecretData → SecretData)

/-- With other data the same step is taken. -/
theorem step_refill (w : World) (m : Move) :
    step (w.refill f) (m.refill f) = (step w m).map (refill f) := by
  cases m with
  | begin r =>
    simp only [step, Move.refill, refill_held, ← refill_begin]
    split <;> rfl
  | fire id =>
    simp only [step, Move.refill, refill_schedule, Schedule.map, fire_refill]
    split <;> rfl
  | fireNext =>
    simp only [step, Move.refill, refill_schedule, Schedule.map, fireNext_refill]
    split <;> rfl
  | enter op => exact enter_refill ..
  | openNext op => exact openNext_refill ..
  | answer op r => exact answer_refill ..
  | elapse t =>
    simp only [step, Move.refill, elapse, isPunctual_refill, refill_now]
    split <;> rfl
  | release => exact congrArg some (refill_reap f { w with held := false }).symm
  | stop =>
    simp only [step, Move.refill, stop, refill_schedule, Schedule.stop_map]
    rfl
  | listen channel o => rfl
  | unlisten channel id => rfl

/-- And the same run. -/
theorem run?_refill (w : World) (ms : List Move) :
    run? (w.refill f) (ms.map (·.refill f)) = (run? w ms).map (refill f) := by
  induction ms generalizing w with
  | nil => rfl
  | cons m ms ih =>
    rw [List.map_cons, run?, run?, step_refill]
    cases step w m with
    | none => rfl
    | some u => exact ih u

end Leases

end LeaseKeeper
