import LeaseKeeper.Proofs.Session.Turns

/-!
# What no step of a session undoes

A session that was shut down stays so, a schedule that was stopped stays stopped, a fixed
trigger stays the same, and the task in the slot stays the only one (`Onward`). A session that
nobody holds any more never comes back (`alive_of_turn`); only a release makes somebody let go of
it, and only a request shuts it down (`access_of_turn`).
-/

namespace LeaseKeeper.Session

open World

/-- What is true of `w` for good is true of `w'`. -/
structure Onward (w w' : World) : Prop where
  destroyed : w.destroyed = true → w'.destroyed = true
  stopped : w.schedule.stopped = true → w'.schedule.stopped = true
  trigger : ∀ t, w.trigger = .fixed t → w'.trigger = .fixed t
  booked : Booked w.schedule w.slot → Booked w'.schedule w'.slot

namespace Onward

variable {w u v : World}

theorem trans (h : Onward w u) (k : Onward u v) : Onward w v :=
  ⟨fun hd => k.destroyed (h.destroyed hd), fun hs => k.stopped (h.stopped hs),
    fun t ht => k.trigger t (h.trigger t ht), fun hb => k.booked (h.booked hb)⟩

/-- A change that leaves access, trigger and tasks alone. -/
theorem same (hd : u.destroyed = w.destroyed) (hs : u.schedule = w.schedule) (hl : u.slot = w.slot)
    (ht : u.trigger = w.trigger) : Onward w u :=
  ⟨fun h => hd ▸ h, fun h => hs ▸ h, fun _ h => ht ▸ h, fun h => hs ▸ hl ▸ h⟩

theorem cancelTask (h : Onward w u) : Onward w u.cancelTask :=
  h.trans ⟨id, fun hs => (Schedule.stopped_cancel? ..).trans hs, fun _ ht => ht,
    fun hb => (booked_cancelTask hb).1⟩

theorem install (h : Onward w u) (g : Option Grant) : Onward w (u.install g) :=
  h.trans (.same rfl rfl rfl rfl)

theorem publish (h : Onward w u) (e : SessionEvent) : Onward w (u.publish e) :=
  h.trans (.same rfl rfl rfl rfl)

theorem call (h : Onward w u) (op : Nat) (c : Call) (p : Point) : Onward w (u.call op c p) :=
  h.trans (.same rfl rfl rfl rfl)

theorem reap (h : Onward w u) : Onward w u.reap := by
  unfold World.reap
  split
  · exact h
  · exact h.cancelTask

theorem finish (h : Onward w u) (op : Nat) (o : Outcome) : Onward w (u.finish op o) :=
  .reap (h.trans (.same rfl rfl rfl rfl))

theorem endLogin (h : Onward w u) (op : Nat) (purpose : Purpose) (r : Except Fault Grant) :
    Onward w (u.endLogin op purpose r) := by
  rw [endLogin_eq]
  refine .finish (h.trans ?_) _ _
  exact .same rfl rfl rfl rfl

theorem replaceTask (h : Onward w u) (delay : Span) (job : Job) :
    Onward w (u.replaceTask delay job) :=
  h.trans ⟨id, fun hs => (Schedule.stopped_cancel? ..).trans hs, fun _ ht => ht,
    fun hb => (booked_replaceTask hb ..).1⟩

theorem askTrigger (h : Onward w u) (left : Span) : Onward w (u.askTrigger left).2 :=
  h.trans ⟨id, id, fun t ht => by simp only [World.askTrigger, ht, Trigger.next], id⟩

theorem renewalDelay (h : Onward w u) (c : Credential) : Onward w (u.renewalDelay c).2 := by
  unfold World.renewalDelay
  split
  · exact h
  · exact h.askTrigger _

theorem scheduleRenewal (h : Onward w u) (g : Grant) : Onward w (u.scheduleRenewal g) := by
  have hr := h.renewalDelay g.credential
  unfold World.scheduleRenewal
  split
  · exact h
  split
  · exact h.replaceTask _ _
  split <;> rename_i he <;> rw [he] at hr
  · exact hr
  · exact hr.replaceTask _ _

theorem installs (h : Onward w u) (c : Credential) (e : Grant → SessionEvent) :
    Onward w (u.installs c e) := by
  refine .scheduleRenewal (.publish (.install (h.trans ?_) _) _) _
  exact .same rfl rfl rfl rfl

theorem dropExpired (h : Onward w u) : Onward w u.dropExpired := by
  obtain he | ⟨g, -, -, he⟩ := u.dropExpired_eq <;> rw [he]
  · exact h
  · exact ((h.install none).cancelTask).publish _

theorem starts {m : Move} {t : Task Job} {s : Schedule Job} (h : w.Fires m t s) :
    Onward w { w with schedule := s } := by
  refine ⟨id, fun hr => ?_, fun _ ht => ht, fun hb => (hb.starts (h.starts hb.numbered)).1⟩
  -- A stopped schedule has no task that could start.
  have hl := Schedule.live_of_stopped hr
  cases h with
  | due h => simp [Schedule.startDue, hl] at h
  | next h => simp [Schedule.startNext, hl] at h

theorem stop (h : Onward w u) : Onward w u.stop := by
  refine h.trans ⟨id, fun hs => ?_, fun _ ht => ht, fun hb => ?_⟩
  · show u.schedule.stop.stopped = true
    rcases u.schedule.stop_cases with h | h <;> rw [h]
    exact hs
  · show Booked u.schedule.stop u.slot
    refine ⟨hb.numbered.stop, ?_, fun t ht => ?_⟩
    · rcases u.schedule.stop_cases with h | h <;> rw [h] <;> exact hb.slot_le
    · rcases u.schedule.stop_cases with h | h <;> rw [h] at ht
      · exact hb.slot_live t ht
      · rw [Schedule.live_of_stopped rfl] at ht
        cases ht

/-! ## Every turn leads onward -/

theorem of_acquires {op : Nat} {purpose : Purpose} (h : Onward w u) (ha : Acquires u op purpose v) :
    Onward w v := by
  cases ha with
  | shut | found => exact h.finish _ _
  | starts _ _ _ =>
    refine .call (.dropExpired (h.trans ?_)) _ _ _
    exact .same rfl rfl rfl rfl
  | waits _ _ _ => exact h.trans (.same rfl rfl rfl rfl)

theorem of_enters {op observed : Nat} {purpose : Purpose} (he : Enters w op observed purpose v) :
    Onward w v := by
  have h : Onward w (w.unlock op) := .same rfl rfl rfl rfl
  cases he with
  | shut | found | shared => exact h.finish _ _
  | starts _ _ _ => exact (dropExpired (.same rfl rfl rfl rfl)).call _ _ _

theorem of_welcomes {op : Nat} {purpose : Purpose} {c : Credential} (h : Onward w u)
    (hw : Welcomes u op purpose c v) : Onward w v := by
  have hm : Onward w u.minted := h.trans (.same rfl rfl rfl rfl)
  cases hw with
  | late _ _ => exact hm.call _ _ _
  | dropped _ _ => exact hm.endLogin _ _ _
  | installed _ => exact (h.installs _ _).endLogin _ _ _

theorem of_takes {op : Nat} (h : Onward w u) (ht : Takes u op v) : Onward w v := by
  cases ht with
  | quiet _ => exact (h.cancelTask.install _).finish _ _
  | sends _ _ => exact (h.cancelTask.install _).call _ _ _

theorem of_loses {op : Nat} {g : Grant} (h : Onward w u) (hl : Loses u op g v) : Onward w v := by
  cases hl with
  | superseded _ => exact h.finish _ _
  | again _ _ ha => exact (h.install _).cancelTask.of_acquires ha
  | ended _ _ => exact ((h.install _).cancelTask.publish _).finish _ _

theorem told (w : World) (g : Grant) (f : Fault) : Onward w (w.told g f) := .same rfl rfl rfl rfl

theorem of_renews {op : Nat} {g : Grant} {r : Except Fault Credential} (hr : Renews w op g r v) :
    Onward w v := by
  have hm : Onward w w.granted.minted := .same rfl rfl rfl rfl
  cases hr with
  | discarded _ => exact finish (.same rfl rfl rfl rfl) _ _
  | superseded _ _ => exact hm.finish _ _
  | brief _ _ _ => exact ((hm.install _).cancelTask.publish _).finish _ _
  | renewed _ _ _ =>
    refine .finish (.installs ?_ _ _) _ _
    exact .same rfl rfl rfl rfl
  | retried _ _ _ =>
    refine .finish (.scheduleRenewal ?_ _) _ _
    exact (told ..).renewalDelay _
  | tooLate _ _ _ hl => exact ((told ..).renewalDelay _).of_loses hl
  | failed _ _ hl => exact (told ..).of_loses hl

theorem tellRevocation (w : World) (g : Grant) (r : Except Fault Unit) :
    Onward w (w.tellRevocation g r) := by
  cases r <;> exact .same rfl rfl rfl rfl

theorem of_turn {m : Move} (ht : Turn w m v) : Onward w v := by
  have hn : Onward w w.enrolled := .same rfl rfl rfl rfl
  cases ht with
  | token _ ha => exact hn.of_acquires ha
  | revoke _ hk => exact hn.of_takes hk
  | destroyAgain _ _ => exact hn.finish _ _
  | destroy _ _ hk =>
    have hd : Onward w { w.enrolled with destroyed := true } := ⟨fun _ => rfl, id, fun _ => id, id⟩
    exact hd.of_takes hk
  | orphan hf _ => exact starts hf
  | stale hf _ _ =>
    refine .finish ((starts hf).trans ?_) _ _
    exact .same rfl rfl rfl rfl
  | renew hf _ _ _ _ =>
    refine .call ((starts hf).trans ?_) _ _ _
    exact .same rfl rfl rfl rfl
  | expire hf _ _ _ _ =>
    refine .finish (.publish ((starts hf).trans ?_) _) _ _
    exact .same rfl rfl rfl rfl
  | enter _ _ he => exact of_enters he
  | loginFailed _ =>
    refine .endLogin (.publish ?_ _) _ _ _
    exact .same rfl rfl rfl rfl
  | looksUp _ _ =>
    refine .call ?_ _ _ _
    exact .same rfl rfl rfl rfl
  | @welcome _ _ since _ _ _ _ hw => exact of_welcomes (u := w.timed true since) (.same rfl rfl rfl rfl) hw
  | lookedUp _ hw | notLookedUp _ hw => exact of_welcomes (.same rfl rfl rfl rfl) hw
  | discarded _ =>
    refine .endLogin ?_ _ _ _
    exact .tellRevocation ..
  | renewed _ hr => exact of_renews hr
  | revoked _ =>
    refine .finish ?_ _ _
    exact .tellRevocation ..
  | abandon _ =>
    refine .reap ?_
    exact .same rfl rfl rfl rfl
  | elapse _ _ => exact .same rfl rfl rfl rfl
  | release => exact reap (.same rfl rfl rfl rfl)
  | stop => exact stop (.same rfl rfl rfl rfl)
  | listen | unlisten => exact .same rfl rfl rfl rfl

end Onward

/-! ## Nobody comes back -/

theorem World.alive_of_point {w : World} {op : Nat} {p : Point} (h : w.point? op = some p) :
    w.isAlive = true := by
  unfold World.isAlive
  cases ho : w.operations with
  | nil => rw [World.point?, ho] at h; cases h
  | cons x xs => simp

theorem World.alive_of_held {w : World} (h : w.held = true) : w.isAlive = true := by
  simp [World.isAlive, h]

/-- A session is alive only if it was so before. -/
theorem alive_of_turn {w w' : World} {m : Move} (ht : Turn w m w') (h : w'.isAlive = true) :
    w.isAlive = true := by
  cases ht with
  | token hh _ | revoke hh _ | destroyAgain hh _ | destroy hh _ _ => exact alive_of_held hh
  | orphan _ _ => exact h
  | stale _ ha _ | renew _ ha _ _ _ | expire _ ha _ _ _ => exact ha
  | enter _ hp _ => exact alive_of_point hp
  | loginFailed hp => exact alive_of_point hp
  | looksUp hp _ => exact alive_of_point hp
  | welcome hp _ _ => exact alive_of_point hp
  | lookedUp hp _ => exact alive_of_point hp
  | notLookedUp hp _ => exact alive_of_point hp
  | discarded hp => exact alive_of_point hp
  | renewed hp _ => exact alive_of_point hp
  | revoked hp => exact alive_of_point hp
  | abandon hp => exact alive_of_point hp
  | elapse _ _ => exact h
  | release =>
    simp only [World.release, World.isAlive, held_reap, operations_reap, Bool.false_or] at h
    simp only [World.isAlive, h, Bool.or_true]
  | stop | listen | unlisten => exact h

/-! ## Who holds a session, and whether it is open -/

namespace World

variable {w w' : World} {m : Move} {op : Nat} {g : Grant}

/-- Whether anybody outside holds the session, and whether it has been shut down. -/
def access (w : World) : Bool × Bool := (w.held, w.destroyed)

theorem access_finish (w : World) (op : Nat) (o : Outcome) : (w.finish op o).access = w.access :=
  Prod.ext (held_reap _) (destroyed_finish ..)

theorem access_endLogin (w : World) (op : Nat) (purpose : Purpose) (r : Except Fault Grant) :
    (w.endLogin op purpose r).access = w.access := by
  rw [endLogin_eq, access_finish]
  rfl

theorem access_dropExpired (w : World) : w.dropExpired.access = w.access :=
  Prod.ext (held_dropExpired w) (destroyed_dropExpired w)

theorem access_installs (w : World) (c : Credential) (e : Grant → SessionEvent) :
    (w.installs c e).access = w.access :=
  Prod.ext (held_installs ..) (destroyed_installs ..)

theorem access_tellRevocation (w : World) (g : Grant) (r : Except Fault Unit) :
    (w.tellRevocation g r).access = w.access := by
  cases r <;> rfl

theorem access_acquires {purpose : Purpose} (h : Acquires w op purpose w') : w'.access = w.access := by
  cases h with
  | shut | found => exact access_finish ..
  | starts _ _ _ => exact access_dropExpired { w with lock := [op] }
  | waits _ _ _ => rfl

theorem access_takes (h : Takes w op w') : w'.access = w.access := by
  cases h with
  | quiet _ => exact access_finish ..
  | sends _ _ => rfl

theorem access_loses (h : Loses w op g w') : w'.access = w.access := by
  cases h with
  | superseded _ => exact access_finish ..
  | again _ _ h => exact access_acquires (w := (w.install none).cancelTask) h
  | ended _ _ => exact access_finish ..

theorem access_renews {r : Except Fault Credential} (h : Renews w op g r w') : w'.access = w.access := by
  cases h with
  | discarded | superseded | brief => exact access_finish ..
  | renewed _ _ _ =>
    rw [access_finish, access_installs]
    rfl
  | @retried f _ _ _ =>
    obtain ⟨_, _, _, _, he⟩ := w.retries_eq g f
    rw [access_finish, he]
    rfl
  | @tooLate f _ _ _ _ h =>
    obtain ⟨_, _, he⟩ := (w.told g f).snd_renewalDelay g.credential
    rw [access_loses h, he]
    rfl
  | failed _ _ h => exact access_loses (w := w.told g _) h

theorem access_welcomes {purpose : Purpose} {c : Credential} (h : Welcomes w op purpose c w') :
    w'.access = w.access := by
  cases h with
  | late _ _ => rfl
  | dropped _ _ => exact access_endLogin ..
  | installed _ =>
    rw [access_endLogin, access_installs]

theorem access_enters {observed : Nat} {purpose : Purpose} (h : Enters w op observed purpose w') :
    w'.access = w.access := by
  cases h with
  | shut | found | shared => exact access_finish ..
  | starts _ _ _ => exact access_dropExpired w

/-- Only a release makes somebody let go of a session, and only a request shuts it down. -/
theorem access_of_turn (ht : Turn w m w') (hr : m ≠ .release) :
    w'.held = w.held ∧ (m ≠ .begin .destroy → w'.destroyed = w.destroyed) := by
  have hsame : w'.access = w.access →
      w'.held = w.held ∧ (m ≠ .begin .destroy → w'.destroyed = w.destroyed) :=
    fun h => ⟨congrArg Prod.fst h, fun _ => congrArg Prod.snd h⟩
  cases ht with
  | token _ hk => exact hsame (access_acquires (w := w.enrolled) hk)
  | revoke _ hk => exact hsame (access_takes (w := w.enrolled) hk)
  | destroyAgain _ _ => exact hsame (access_finish ..)
  | destroy _ _ hk =>
    exact ⟨congrArg Prod.fst (access_takes (w := { w.enrolled with destroyed := true }) hk),
      fun hd => absurd rfl hd⟩
  | orphan _ _ => exact hsame rfl
  | stale _ _ _ => exact hsame (access_finish ..)
  | renew _ _ _ _ _ => exact hsame rfl
  | expire _ _ _ _ _ => exact hsame (access_finish ..)
  | enter _ _ hk => exact hsame (access_enters hk)
  | loginFailed _ => exact hsame (access_endLogin ..)
  | looksUp _ _ => exact hsame rfl
  | @welcome _ _ since _ _ _ _ hk => exact hsame (access_welcomes (w := w.timed true since) hk)
  | lookedUp _ hk | notLookedUp _ hk => exact hsame (access_welcomes hk)
  | discarded _ =>
    refine hsame ?_
    rw [access_endLogin, access_tellRevocation]
  | renewed _ hk => exact hsame (access_renews hk)
  | revoked _ =>
    refine hsame ?_
    rw [access_finish, access_tellRevocation]
  | abandon _ => exact hsame (Prod.ext (held_reap _) (destroyed_reap _))
  | elapse _ _ => exact hsame rfl
  | release => exact absurd rfl hr
  | stop | listen | unlisten => exact hsame rfl

/-- A session that nobody holds any more is not taken up again. -/
theorem held_of_turn (ht : Turn w m w') (h : w'.held = true) : w.held = true := by
  by_cases hr : m = .release
  · subst hr
    cases ht with
    | stale hf _ _ => cases hf
    | orphan hf _ => cases hf
    | renew hf _ _ _ _ => cases hf
    | expire hf _ _ _ _ => cases hf
    | release =>
      rw [World.release, held_reap] at h
      cases h
  · rwa [(access_of_turn ht hr).1] at h

end World

end LeaseKeeper.Session
