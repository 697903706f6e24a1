import LeaseKeeper.Proofs.Operations
import LeaseKeeper.Proofs.Substitution
import LeaseKeeper.Session.Step
import Mathlib.Tactic.Simps.Basic

/-!
# Sessions with other tokens

A session never looks at a token. With other tokens in the answers of the server (`Move.retoken`) it
does the same in every step (`step_retoken`) and so in every run (`run?_retoken`), with the other tokens
in the places of the first ones (`World.retoken`).
-/

namespace LeaseKeeper

/-- The credential with another token. -/
def Credential.retoken (ρ : String → String) (c : Credential) : Credential :=
  { c with token := ⟨ρ c.token.expose⟩ }

def Grant.retoken (ρ : String → String) (g : Grant) : Grant := ⟨g.serial, g.credential.retoken ρ⟩

def SessionEvent.retoken (ρ : String → String) : SessionEvent → SessionEvent
  | created g => created (g.retoken ρ)
  | renewed g => renewed (g.retoken ρ)
  | failed f g => failed f (g.map (·.retoken ρ))
  | loginTokenExpired g => loginTokenExpired (g.retoken ρ)
  | revoked g => revoked (g.retoken ρ)

namespace Session

variable (ρ : String → String)

def Job.retoken : Job → Job
  | renew g => renew (g.retoken ρ)
  | expire g => expire (g.retoken ρ)

def Point.retoken : Point → Point
  | queued observed purpose => queued observed purpose
  | loggingIn purpose since => loggingIn purpose since
  | lookingUp purpose c => lookingUp purpose (c.retoken ρ)
  | discarding purpose g => discarding purpose (g.retoken ρ)
  | renewing g since => renewing (g.retoken ρ) since
  | revoking g => revoking (g.retoken ρ)

def Outcome.retoken : Outcome → Outcome
  | granted g => granted (g.retoken ρ)
  | refused f => refused f
  | finished => finished

def Call.retoken : Call → Call
  | login => login
  | lookup c => lookup (c.retoken ρ)
  | renew g => renew (g.retoken ρ)
  | revoke g => revoke (g.retoken ρ)

def Happening.retoken : Happening → Happening
  | published e installed => published (e.retoken ρ) (installed.map (·.retoken ρ))
  | called op c => called op (c.retoken ρ)
  | ended op o => ended op (o.retoken ρ)

def View.retoken (v : View) : View := ⟨v.status, v.credential.map (·.retoken ρ)⟩

def Reply.retoken : Reply → Reply
  | login r => login (r.map (·.retoken ρ))
  | lookup r => lookup r
  | renewal r => renewal (r.map (·.retoken ρ))
  | revocation r => revocation r

/-- The move with other tokens in the answer that it brings. -/
def Move.retoken : Move → Move
  | answer op r => answer op (r.retoken ρ)
  | m => m

/-- The session with other tokens in the same places. -/
@[simps]
def World.retoken (w : World) : World :=
  { w with
    schedule := w.schedule.map (·.retoken ρ)
    current := w.current.map (·.retoken ρ)
    operations := w.operations.map fun x => (x.1, x.2.retoken ρ)
    audience := w.audience.map (·.retoken ρ) (·.retoken ρ)
    history := w.history.map (·.retoken ρ) }

end Session

/-! ## What a token does not show in -/

section event

variable (ρ : String → String) (e : SessionEvent)

@[simp] theorem SessionEvent.isError_retoken : (e.retoken ρ).isError = e.isError := by cases e <;> rfl

@[simp] theorem SessionEvent.kind_retoken : (e.retoken ρ).kind = e.kind := by cases e <;> rfl

@[simp] theorem SessionEvent.logLine_retoken (now : Instant) :
    (e.retoken ρ).logLine now = e.logLine now := by cases e <;> rfl

end event

namespace Session.World

variable (ρ : String → String) (w : World)

@[simp] theorem usable?_retoken : (w.retoken ρ).usable? = w.usable?.map (·.retoken ρ) :=
  Option.filter_map ..

@[simp] theorem isCurrent_retoken (g : Grant) :
    (w.retoken ρ).isCurrent (g.retoken ρ) = w.isCurrent g := by
  simp [isCurrent, Option.any_map, Grant.retoken]

@[simp] theorem status_retoken : (w.retoken ρ).status = w.status := by simp [status]

theorem view_retoken : (w.retoken ρ).view = w.view.retoken ρ := by
  simp [view, View.retoken, Function.comp_def, Grant.retoken]

@[simp] theorem isAlive_retoken : (w.retoken ρ).isAlive = w.isAlive := by simp [isAlive]

@[simp] theorem point?_retoken (op : Nat) :
    (w.retoken ρ).point? op = (w.point? op).map (·.retoken ρ) := by
  simp [point?, lookup_map_snd]

/-! ## What is done with them -/

theorem retoken_note (h : Happening) : (w.note h).retoken ρ = (w.retoken ρ).note (h.retoken ρ) := rfl

theorem retoken_setPoint (op : Nat) (p : Point) :
    (w.setPoint op p).retoken ρ = (w.retoken ρ).setPoint op (p.retoken ρ) := by
  simp [setPoint, retoken, List.filter_map, Function.comp_def]

theorem retoken_publish (e : SessionEvent) :
    (w.publish e).retoken ρ = (w.retoken ρ).publish (e.retoken ρ) := by
  have hn : (⟨e.retoken ρ, (e.retoken ρ).isError, (e.retoken ρ).logLine w.now,
      .sessionEvent (e.retoken ρ).kind, if w.held then some (w.retoken ρ).view else none⟩ :
      Announcement SessionEvent View) = Announcement.map (·.retoken ρ) (·.retoken ρ)
        ⟨e, e.isError, e.logLine w.now, .sessionEvent e.kind, if w.held then some w.view else none⟩ := by
    simp only [Announcement.map, SessionEvent.isError_retoken, SessionEvent.logLine_retoken,
      SessionEvent.kind_retoken, view_retoken, apply_ite (Option.map _)]
    rfl
  simp only [publish, retoken_now, retoken_held, retoken_audience, hn, Audience.hear_map]
  rfl

theorem retoken_cancelTask : w.cancelTask.retoken ρ = (w.retoken ρ).cancelTask := by
  simp [cancelTask, retoken]

theorem retoken_replaceTask (delay : Span) (job : Job) :
    (w.replaceTask delay job).retoken ρ = (w.retoken ρ).replaceTask delay (job.retoken ρ) := by
  simp only [replaceTask, retoken_schedule, retoken_now, Schedule.add_map (Job.retoken ρ)]
  simp [retoken]

theorem retoken_reap : w.reap.retoken ρ = (w.retoken ρ).reap := by
  unfold reap
  rw [isAlive_retoken]
  split
  · rfl
  · exact retoken_cancelTask ρ w

theorem retoken_finish (op : Nat) (o : Outcome) :
    (w.finish op o).retoken ρ = (w.retoken ρ).finish op (o.retoken ρ) := by
  unfold finish
  rw [retoken_reap]
  simp only [note, retoken, List.filter_map, Function.comp_def]
  rfl

theorem retoken_call (op : Nat) (c : Call) (p : Point) :
    (w.call op c p).retoken ρ = (w.retoken ρ).call op (c.retoken ρ) (p.retoken ρ) := by
  rw [call, retoken_note, retoken_setPoint]
  rfl

/-! ## Scheduling and acquiring -/

theorem askTrigger_retoken (left : Span) : (w.retoken ρ).askTrigger left =
    ((w.askTrigger left).1, (w.askTrigger left).2.retoken ρ) := rfl

theorem renewalDelay_retoken (c : Credential) : (w.retoken ρ).renewalDelay (c.retoken ρ) =
    ((w.renewalDelay c).1, (w.renewalDelay c).2.retoken ρ) := by
  have hc : (!(c.retoken ρ).wantsRenewal || (w.retoken ρ).isBelowThreshold (c.retoken ρ)) =
    (!c.wantsRenewal || w.isBelowThreshold c) := rfl
  unfold renewalDelay
  rw [hc]
  split
  · rfl
  · exact askTrigger_retoken ..

theorem retoken_scheduleRenewal (g : Grant) :
    (w.scheduleRenewal g).retoken ρ = (w.retoken ρ).scheduleRenewal (g.retoken ρ) := by
  have hd := renewalDelay_retoken ρ w g.credential
  have hc : ((g.retoken ρ).credential.wantsRenewal &&
      (w.retoken ρ).isBelowThreshold (g.retoken ρ).credential) =
    (g.credential.wantsRenewal && w.isBelowThreshold g.credential) := rfl
  unfold scheduleRenewal
  rw [show (w.retoken ρ).renewalDelay (g.retoken ρ).credential = _ from hd, hc, retoken_destroyed]
  split
  · rfl
  split
  · exact retoken_replaceTask ρ w _ (.expire g)
  · rcases w.renewalDelay g.credential with ⟨_ | delay, w'⟩
    · rfl
    · exact retoken_replaceTask ρ w' delay (.renew g)

theorem retoken_conclude (op : Nat) (purpose : Purpose) (r : Except Fault Grant) :
    (w.conclude op purpose r).retoken ρ =
      (w.retoken ρ).conclude op purpose (r.map (·.retoken ρ)) := by
  cases purpose <;> cases r <;> exact retoken_finish ..

theorem retoken_leave (op : Nat) (purpose : Purpose) (r : Except Fault Grant) :
    (w.leave op purpose r).retoken ρ = (w.retoken ρ).leave op purpose (r.map (·.retoken ρ)) :=
  retoken_conclude ρ (w.unlock op) op purpose r

theorem retoken_endLogin (op : Nat) (purpose : Purpose) (r : Except Fault Grant) :
    (w.endLogin op purpose r).retoken ρ =
      (w.retoken ρ).endLogin op purpose (r.map (·.retoken ρ)) := by
  cases r <;> exact retoken_leave ..

theorem retoken_dropExpired : w.dropExpired.retoken ρ = (w.retoken ρ).dropExpired := by
  unfold dropExpired
  rw [retoken_current]
  cases w.current with
  | none => rfl
  | some g =>
    refine apply_ite_congr (retoken ρ) (fun _ => ?_) fun _ => rfl
    rw [retoken_publish, retoken_cancelTask]
    rfl

theorem retoken_withLock (op observed : Nat) (purpose : Purpose) :
    (w.withLock op observed purpose).retoken ρ = (w.retoken ρ).withLock op observed purpose := by
  unfold withLock
  rw [retoken_destroyed, usable?_retoken, retoken_loginsDone, retoken_lastFault]
  split
  · exact retoken_leave ..
  cases w.usable? with
  | some g => exact retoken_leave ..
  | none =>
    dsimp only [Option.map_none]
    split
    · exact retoken_leave ..
    · rw [← retoken_dropExpired]
      exact retoken_call ..

theorem retoken_acquire (op : Nat) (purpose : Purpose) :
    (w.acquire op purpose).retoken ρ = (w.retoken ρ).acquire op purpose := by
  unfold acquire
  rw [retoken_destroyed, usable?_retoken]
  split
  · exact retoken_conclude ..
  cases w.usable? with
  | some g => exact retoken_conclude ..
  | none =>
    refine apply_ite_congr (retoken ρ) (fun _ => ?_) fun _ => ?_
    · exact retoken_withLock ..
    · exact retoken_setPoint ..

theorem retoken_giveBack (op : Nat) (g : Grant) (p : Point) {next : World → World}
    (hn : ∀ v, (next v).retoken ρ = next (v.retoken ρ)) : (w.giveBack op g p next).retoken ρ =
      (w.retoken ρ).giveBack op (g.retoken ρ) (p.retoken ρ) next := by
  refine apply_ite_congr (retoken ρ) (fun _ => ?_) fun _ => hn w
  exact retoken_call ..

theorem retoken_welcome (op : Nat) (purpose : Purpose) (c : Credential) :
    (w.welcome op purpose c).retoken ρ = (w.retoken ρ).welcome op purpose (c.retoken ρ) := by
  refine apply_ite_congr (retoken ρ) (fun _ => ?_) fun _ => ?_
  · exact retoken_giveBack ρ _ op _ _ fun v => retoken_endLogin ..
  · rw [retoken_endLogin, retoken_scheduleRenewal, retoken_publish]
    rfl

theorem retoken_afterLogin (op : Nat) (purpose : Purpose) (since : Instant)
    (r : Except Fault Credential) : (w.afterLogin op purpose since r).retoken ρ =
      (w.retoken ρ).afterLogin op purpose since (r.map (·.retoken ρ)) := by
  cases r with
  | error f =>
    refine (retoken_endLogin ..).trans ?_
    rw [retoken_publish]
    rfl
  | ok c =>
    refine apply_ite_congr (retoken ρ) (fun _ => ?_) fun _ => ?_
    · exact retoken_call ..
    · exact retoken_welcome ..

theorem retoken_afterLookup (op : Nat) (purpose : Purpose) (c : Credential)
    (r : Except Fault TokenLookup) : (w.afterLookup op purpose c r).retoken ρ =
      (w.retoken ρ).afterLookup op purpose (c.retoken ρ) r := by
  cases r <;> exact retoken_welcome ..

/-! ## Renewing and giving back -/

theorem retoken_renew (op : Nat) (g : Grant) :
    (w.renew op g).retoken ρ = (w.retoken ρ).renew op (g.retoken ρ) := by
  unfold renew
  rw [isCurrent_retoken, retoken_destroyed]
  split
  · exact retoken_finish ..
  · exact retoken_call ..

theorem retoken_afterSuccess (op : Nat) (g renewed : Grant) :
    (w.afterSuccess op g renewed).retoken ρ =
      (w.retoken ρ).afterSuccess op (g.retoken ρ) (renewed.retoken ρ) := by
  unfold afterSuccess
  rw [isCurrent_retoken]
  refine apply_ite_congr (retoken ρ) (fun _ => ?_) fun _ => ?_
  · split
    · rw [retoken_finish, retoken_publish, retoken_cancelTask]
      rfl
    · exact retoken_finish ..
  · split
    · rw [retoken_finish, retoken_scheduleRenewal, retoken_publish]
      rfl
    · exact retoken_finish ..

theorem retoken_lose (op : Nat) (g : Grant) :
    (w.lose op g).retoken ρ = (w.retoken ρ).lose op (g.retoken ρ) := by
  have hc := retoken_cancelTask ρ (w.install none)
  unfold lose
  rw [isCurrent_retoken]
  split
  · refine apply_ite_congr (retoken ρ) (fun _ => ?_) fun _ => ?_
    · rw [retoken_acquire, hc]
      rfl
    · rw [retoken_finish, retoken_publish, hc]
      rfl
  · exact retoken_finish ..

theorem retoken_afterFailure (op : Nat) (g : Grant) (f : Fault) :
    (w.afterFailure op g f).retoken ρ = (w.retoken ρ).afterFailure op (g.retoken ρ) f := by
  have hp : (w.publish (.failed f (some g))).retoken ρ =
      (w.retoken ρ).publish (.failed f (some (g.retoken ρ))) := retoken_publish ..
  unfold afterFailure
  rw [← hp]
  generalize w.publish (.failed f (some g)) = u
  dsimp only
  rw [show (u.retoken ρ).renewalDelay (g.retoken ρ).credential = _ from
    renewalDelay_retoken ρ u g.credential]
  split
  · refine apply_ite_congr (retoken ρ) (fun _ => ?_) fun _ => ?_
    · rw [retoken_finish, retoken_scheduleRenewal]
      rfl
    · exact retoken_lose ..
  · exact retoken_lose ..

theorem retoken_afterRenewal (op : Nat) (g : Grant) (r : Except Fault Credential) :
    (w.afterRenewal op g r).retoken ρ =
      (w.retoken ρ).afterRenewal op (g.retoken ρ) (r.map (·.retoken ρ)) := by
  unfold afterRenewal
  rw [retoken_destroyed]
  split
  · exact retoken_finish ..
  cases r with
  | ok c => exact retoken_afterSuccess ..
  | error f => exact retoken_afterFailure ..

theorem retoken_expire (op : Nat) (g : Grant) :
    (w.expire op g).retoken ρ = (w.retoken ρ).expire op (g.retoken ρ) := by
  unfold expire
  rw [isCurrent_retoken, retoken_destroyed]
  split
  · exact retoken_finish ..
  · rw [retoken_finish, retoken_publish]
    rfl

theorem retoken_revoke (op : Nat) : (w.revoke op).retoken ρ = (w.retoken ρ).revoke op := by
  have hc := congrArg (install · none) (retoken_cancelTask ρ w)
  unfold revoke
  rw [retoken_current]
  dsimp only
  rw [← hc]
  cases w.current with
  | none => exact retoken_finish ..
  | some g => exact retoken_giveBack ρ _ op g _ fun v => retoken_finish ..

theorem retoken_destroy (op : Nat) : (w.destroy op).retoken ρ = (w.retoken ρ).destroy op := by
  refine apply_ite_congr (retoken ρ) (fun _ => ?_) fun _ => ?_
  · exact retoken_finish ..
  · exact retoken_revoke ..

theorem retoken_tellRevocation (g : Grant) (r : Except Fault Unit) :
    (w.tellRevocation g r).retoken ρ = (w.retoken ρ).tellRevocation (g.retoken ρ) r := by
  cases r <;> exact retoken_publish ..

/-! ## Steps -/

theorem retoken_begin (r : Request) : (w.begin r).retoken ρ = (w.retoken ρ).begin r := by
  cases r with
  | token => exact retoken_acquire ρ w.enroll.2 ..
  | revoke => exact retoken_revoke ρ w.enroll.2 ..
  | destroy => exact retoken_destroy ρ w.enroll.2 ..

theorem retoken_run (job : Job) : (w.run job).retoken ρ = (w.retoken ρ).run (job.retoken ρ) := by
  unfold run
  rw [isAlive_retoken]
  split
  · cases job with
    | renew g => exact retoken_renew ..
    | expire g => exact retoken_expire ..
  · rfl

theorem fire_retoken (id : Nat) : (w.retoken ρ).fire id = (w.fire id).map (retoken ρ) := by
  unfold fire
  rw [retoken_schedule, retoken_now, Schedule.startDue_map]
  rcases w.schedule.startDue w.now id with ⟨_ | t, s⟩
  · rfl
  · exact congrArg some (retoken_run ρ { w with schedule := s } t.job).symm

theorem fireNext_retoken : (w.retoken ρ).fireNext = w.fireNext.map (retoken ρ) := by
  unfold fireNext
  rw [retoken_schedule, Schedule.startNext_map]
  rcases w.schedule.startNext with ⟨_ | t, s⟩
  · rfl
  · exact congrArg some (retoken_run ρ { w with schedule := s } t.job).symm

theorem enter_retoken (op : Nat) : (w.retoken ρ).enter op = (w.enter op).map (retoken ρ) := by
  unfold enter
  rw [retoken_lock, point?_retoken]
  cases w.lock.head? with
  | none => rfl
  | some holder =>
    match w.point? op with
    | some (.queued observed purpose) =>
      by_cases h : holder = op <;> simp [h, Point.retoken, retoken_withLock]
    | none | some (.loggingIn _ _) | some (.lookingUp _ _) | some (.discarding _ _)
    | some (.renewing _ _) | some (.revoking _) => rfl

theorem answer_retoken (op : Nat) (r : Reply) :
    (w.retoken ρ).answer op (r.retoken ρ) = (w.answer op r).map (retoken ρ) := by
  unfold answer
  rw [point?_retoken]
  rcases w.point? op with _ | p
  · rfl
  cases p <;> cases r <;> first | rfl | refine congrArg some ?_
  · exact (retoken_afterLogin ..).symm
  · exact (retoken_afterLookup ..).symm
  · rw [retoken_endLogin, retoken_tellRevocation]
    rfl
  · exact (retoken_afterRenewal ..).symm
  · rw [retoken_finish, retoken_tellRevocation]
    rfl

theorem abandon_retoken (op : Nat) : (w.retoken ρ).abandon op = (w.abandon op).map (retoken ρ) := by
  unfold abandon
  rw [point?_retoken]
  cases w.point? op with
  | none => rfl
  | some p =>
    refine congrArg some ((retoken_reap ..).trans ?_).symm
    simp [retoken, unlock, List.filter_map, Function.comp_def]

theorem isPunctual_retoken (t : Instant) : (w.retoken ρ).isPunctual t = w.isPunctual t := by
  unfold isPunctual
  rw [retoken_schedule, Schedule.live_map, List.all_map]
  rfl

end Session.World

namespace Session

open World

variable (ρ : String → String)

/-- With other tokens the same step is taken. -/
theorem step_retoken (w : World) (m : Move) :
    step (w.retoken ρ) (m.retoken ρ) = (step w m).map (retoken ρ) := by
  cases m with
  | begin r =>
    simp only [step, Move.retoken, retoken_held, ← retoken_begin]
    split <;> rfl
  | fire id =>
    simp only [step, Move.retoken, retoken_schedule, Schedule.map, fire_retoken]
    split <;> rfl
  | fireNext =>
    simp only [step, Move.retoken, retoken_schedule, Schedule.map, fireNext_retoken]
    split <;> rfl
  | enter op => exact enter_retoken ..
  | answer op r => exact answer_retoken ..
  | abandon op => exact abandon_retoken ..
  | elapse t =>
    simp only [step, Move.retoken, elapse, isPunctual_retoken, retoken_now]
    split <;> rfl
  | release => exact congrArg some (retoken_reap ρ { w with held := false }).symm
  | stop =>
    simp only [step, Move.retoken, stop, retoken_schedule, Schedule.stop_map]
    rfl
  | listen channel o => rfl
  | unlisten channel id => rfl

/-- And the same run. -/
theorem run?_retoken (w : World) (ms : List Move) :
    run? (w.retoken ρ) (ms.map (·.retoken ρ)) = (run? w ms).map (retoken ρ) := by
  induction ms generalizing w with
  | nil => rfl
  | cons m ms ih =>
    rw [List.map_cons, run?, run?, step_retoken]
    cases step w m with
    | none => rfl
    | some u => exact ih u

end Session

end LeaseKeeper
