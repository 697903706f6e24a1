import LeaseKeeper.Proofs.Leases.Entries
import LeaseKeeper.Proofs.Leases.Turns

/-!
# Where a lease engine cannot go back

An engine that was shut down stays so (`destroyed_of_turn`), a scheduler that was stopped
stays stopped, and an engine that nobody holds any more is never held again
(`alive_of_turn`). Shutting down is the only turn that changes whether an engine was shut
down.
-/

namespace LeaseKeeper.Leases

namespace World

section destroyed

variable (w : World) (op : Nat) (h : Handle) (e : Entry)

@[simp] theorem destroyed_cancelTask : (w.cancelTask h).destroyed = w.destroyed := by
  obtain ⟨_, _, he, -⟩ := w.cancelTask_eq h
  rw [he]

@[simp] theorem destroyed_replaceTask (delay : Span) (s : Snapshot) (a : Action) :
    (w.replaceTask h delay s a).destroyed = w.destroyed := by
  unfold replaceTask
  split <;> rfl

@[simp] theorem destroyed_reap : w.reap.destroyed = w.destroyed := by
  obtain ⟨_, _, he, -⟩ := w.reap_eq
  rw [he]

@[simp] theorem destroyed_finish (o : Outcome) : (w.finish op o).destroyed = w.destroyed :=
  destroyed_reap _

@[simp] theorem destroyed_leave (o : Outcome) : (w.leave op h o).destroyed = w.destroyed :=
  destroyed_finish ..

@[simp] theorem destroyed_call (c : Call) (p : Point) : (w.call op h c p).destroyed = w.destroyed := rfl
@[simp] theorem destroyed_setPoint (p : Point) : (w.setPoint op p).destroyed = w.destroyed := rfl
@[simp] theorem destroyed_modify (f : Entry → Entry) : (w.modify h f).destroyed = w.destroyed := rfl
@[simp] theorem destroyed_install (s : Option Snapshot) : (w.install h s).destroyed = w.destroyed := rfl
@[simp] theorem destroyed_unlock : (w.unlock op h).destroyed = w.destroyed := rfl
@[simp] theorem destroyed_publish (c : LeaseChange) : (w.publish e c).destroyed = w.destroyed := rfl
@[simp] theorem destroyed_updateGauge : w.updateGauge.destroyed = w.destroyed := rfl
@[simp] theorem destroyed_forget : (w.forget h).destroyed = w.destroyed := rfl

theorem destroyed_of_askTrigger {w v : World} {left : Span} {d : Option Span}
    (h : w.askTrigger left = (d, v)) : v.destroyed = w.destroyed := by
  rw [show v = (w.askTrigger left).2 by rw [h]]
  rfl

@[simp] theorem destroyed_scheduleCare (s : Snapshot) : (w.scheduleCare e s).destroyed = w.destroyed := by
  unfold scheduleCare
  split
  · rfl
  split
  · exact destroyed_cancelTask ..
  split
  · exact destroyed_replaceTask ..
  split
  · rw [destroyed_cancelTask, destroyed_of_askTrigger ‹_›]
  · rw [destroyed_replaceTask, destroyed_of_askTrigger ‹_›]

@[simp] theorem destroyed_childEnded : (w.childEnded op).destroyed = w.destroyed := by
  unfold childEnded
  repeat' split
  all_goals simp

@[simp] theorem destroyed_endRemoval (r : Remover) (found : Bool) :
    (w.endRemoval op r found).destroyed = w.destroyed := by
  cases r <;> simp [endRemoval]

@[simp] theorem destroyed_takeOut (r : Remover) : (w.takeOut op e r).destroyed = w.destroyed := by
  simp only [takeOut]
  repeat' split
  all_goals simp

@[simp] theorem destroyed_remove (r : Remover) : (w.remove op h r).destroyed = w.destroyed := by
  simp only [remove]
  repeat' split
  all_goals simp

@[simp] theorem destroyed_afterRevocation (s : Snapshot) (r : Remover) (q : Except Fault Unit) :
    (w.afterRevocation op h s r q).destroyed = w.destroyed := by
  unfold afterRevocation
  repeat' split
  all_goals simp

@[simp] theorem destroyed_endFetch (c : Cause) (f : Fault) :
    (w.endFetch op e c f).destroyed = w.destroyed := by
  cases c with
  | caller => exact destroyed_leave ..
  | loss =>
    simp only [endFetch, destroyed_leave]
    split <;> simp

@[simp] theorem destroyed_afterFetch (l : Lease) (c : Cause) (q : Except Fault (Option Secret)) :
    (w.afterFetch op h l c q).destroyed = w.destroyed := by
  unfold afterFetch
  split
  · rfl
  · split
    · rw [destroyed_leave]
      split
      · rw [destroyed_scheduleCare]; rfl
      · rfl
    all_goals
      rw [destroyed_endFetch]
      split <;> rfl

@[simp] theorem destroyed_fetchAgain (l : Lease) (c : Cause) :
    (w.fetchAgain op e l c).destroyed = w.destroyed := rfl

@[simp] theorem destroyed_expire (s : Snapshot) : (w.expire op e s).destroyed = w.destroyed := by
  simp only [expire]
  split <;> simp

@[simp] theorem destroyed_afterFailure (s : Snapshot) (f : Fault) :
    (w.afterFailure op e s f).destroyed = w.destroyed := by
  simp only [afterFailure]
  split
  · split
    · rename_i hq
      split
      · rw [destroyed_leave, destroyed_replaceTask, destroyed_of_askTrigger hq]; rfl
      · rw [destroyed_expire, destroyed_of_askTrigger hq]; rfl
    · rename_i hq
      rw [destroyed_expire, destroyed_of_askTrigger hq]; rfl
  · rw [destroyed_expire]; rfl

@[simp] theorem destroyed_afterRenewal (s : Snapshot) (q : Except Fault Lease) :
    (w.afterRenewal op h s q).destroyed = w.destroyed := by
  unfold afterRenewal
  split
  · rfl
  · split
    · rw [destroyed_leave]
      split
      · rw [destroyed_scheduleCare]; rfl
      · rfl
    · dsimp only
      split
      · rw [destroyed_afterFailure]; rfl
      · rw [destroyed_leave]; rfl

@[simp] theorem destroyed_register (s : Option Snapshot) (tell : World → World)
    (ht : ∀ u : World, (tell u).destroyed = u.destroyed) :
    (w.register op e s tell).destroyed = w.destroyed := by
  simp only [register]
  split
  · simp
  · rw [destroyed_leave, ht]; rfl

@[simp] theorem destroyed_afterFirstFetch (q : Except Fault (Option Secret)) :
    (w.afterFirstFetch op h q).destroyed = w.destroyed := by
  unfold afterFirstFetch
  split
  · rfl
  · split
    · rw [destroyed_register _ _ _ _ _ fun u => by simp]; rfl
    all_goals
      split
      · simp
      · rw [destroyed_register _ _ _ _ _ fun u => by simp]

@[simp] theorem destroyed_withLock (errand : Errand) :
    (w.withLock op e errand).destroyed = w.destroyed := by
  unfold withLock
  split
  · split
    · split
      · rfl
      · exact destroyed_expire ..
    · exact destroyed_leave ..
  · split
    · rfl
    · exact destroyed_leave ..
  · exact destroyed_takeOut ..

@[simp] theorem destroyed_want (errand : Errand) : (w.want op e errand).destroyed = w.destroyed := by
  unfold want
  dsimp only
  split
  · rw [destroyed_withLock]; rfl
  · rfl

@[simp] theorem destroyed_rotate : (w.rotate op h).destroyed = w.destroyed := by
  unfold rotate
  split
  · simp
  · split <;> simp

@[simp] theorem destroyed_add (r : SecretRequest) (source : String) :
    (w.add op r source).destroyed = w.destroyed := by
  unfold add
  split
  · exact destroyed_finish ..
  · rfl

/-- Whoever asks for it, the engine is shut down. -/
@[simp] theorem destroyed_destroy : (w.destroy op).destroyed = true := by
  have hr : ∀ (hs : List Handle) (u : World),
      (hs.foldl (enrollRemoval op) u).destroyed = u.destroyed := fun hs => by
    induction hs with
    | nil => exact fun _ => rfl
    | cons h hs ih => exact fun u => ih _
  unfold destroy
  split
  · rwa [destroyed_finish]
  · dsimp only
    split
    · exact destroyed_finish ..
    · rw [hr]; rfl

@[simp] theorem destroyed_run (job : Job) : (w.run job).destroyed = w.destroyed := by
  unfold run
  split
  · split
    · rfl
    · exact destroyed_want ..
  · rfl

end destroyed

/-- Nobody begins or goes on with anything in an engine that nobody holds. -/
theorem isAlive_iff {w : World} : w.isAlive = true ↔ w.held = true ∨ w.operations ≠ [] := by
  simp [isAlive]

theorem isAlive_of_point? {w : World} {op : Nat} {p : Point} (hp : w.point? op = some p) :
    w.isAlive = true := by
  refine isAlive_iff.mpr (.inr fun h => ?_)
  rw [point?, h] at hp
  cases hp

/-- The job of a started task begins an operation that wants the entry. -/
theorem run_of_isAlive {w : World} {s : Schedule Job} {j : Job} {e : Entry} (ha : w.isAlive = true)
    (he : w.entry? j.handle = some e) : ({ w with schedule := s } : World).run j =
      ({ w with schedule := s } : World).enroll.2.want w.nextOperation e (.act j.snapshot j.action) := by
  rw [show ({ w with schedule := s } : World).run j = _ from if_pos ha,
    show World.entry? { w with schedule := s } j.handle = some e from he]
  rfl

/-- Letting go of an engine that goes on changes nothing else. -/
theorem release_of_isAlive {w : World} (ha : w.release.isAlive = true) :
    w.release = { w with held := false } :=
  reap_of_isAlive ha

end World

open World

/-- An engine that was not shut down in the end was not before. -/
theorem destroyed_of_turn {w w' : World} {m : Move} (h : Turn w m w')
    (hd : w'.destroyed = false) : w.destroyed = false := by
  cases h with
  | @begins r _ =>
    cases r with
    | add r source => exact (destroyed_add w.enroll.2 ..).symm.trans hd
    | remove k => exact (destroyed_remove w.enroll.2 ..).symm.trans hd
    | rotate k => exact (destroyed_rotate w.enroll.2 ..).symm.trans hd
    | destroy => cases (destroyed_destroy w.enroll.2 _).symm.trans hd
  | runs _ => rwa [destroyed_run] at hd
  | enters _ _ _ => rwa [destroyed_withLock] at hd
  | opens _ => rwa [destroyed_remove] at hd
  | fetchedFirst _ => rwa [destroyed_afterFirstFetch] at hd
  | fetchedAgain _ => rwa [destroyed_afterFetch] at hd
  | renewed _ => rwa [destroyed_afterRenewal] at hd
  | revoked _ => rwa [destroyed_afterRevocation] at hd
  | elapses => exact hd
  | releases => exact (destroyed_reap { w with held := false }).symm.trans hd
  | stops | listens | unlistens => exact hd

/-- An engine that somebody holds in the end was held before. -/
theorem alive_of_turn {w w' : World} {m : Move} (h : Turn w m w') (ha : w'.isAlive = true) :
    w.isAlive = true := by
  cases h with
  | begins hh => exact isAlive_iff.mpr (.inl hh)
  | @runs m t s _ =>
    by_contra hw
    rw [show ({ w with schedule := s } : World).run t.job = { w with schedule := s } from if_neg hw]
      at ha
    exact hw ha
  | enters hp _ _ | opens hp | fetchedFirst hp | fetchedAgain hp | renewed hp | revoked hp =>
    exact isAlive_of_point? hp
  | elapses => exact ha
  | releases =>
    rw [release, isAlive_reap] at ha
    exact isAlive_iff.mpr (.inr ((isAlive_iff.mp ha).resolve_left fun hh => (by cases hh)))
  | stops | listens | unlistens => exact ha

end LeaseKeeper.Leases
