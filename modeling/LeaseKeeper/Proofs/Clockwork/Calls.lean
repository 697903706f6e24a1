import LeaseKeeper.Proofs.Clockwork.Soundness

/-!
# What is asked of a clockwork

Whoever schedules or cancels a task or stops the schedule finds that written down at once and done
(`Obeys`), in any state whose numbers are in order; a body that does so makes the same call. Every
move begins with its entry (`Move.writes`), and what bodies write comes after it (`writes_step`).
-/

namespace LeaseKeeper.Clockwork

variable {κ σ : Type} {program : κ → Body κ σ} {c c' : Clockwork κ σ}

/-- What a move writes down before a body is played. -/
def Move.writes (c : Clockwork κ σ) : Move κ → List Tick
  | .schedule delay _ => [.scheduled (c.schedule.issued + 1) delay]
  | .cancel task => if 0 < task ∧ task ≤ c.schedule.issued then [.cancelled task] else []
  | .stop => if c.schedule.discipline = .timed then [.stopped] else []
  | .pick => (c.schedule.live.head?.map fun t => Tick.started t.id).toList
  | .poll task => [.started task]
  | .wake _ | .elapse _ => []

theorem trace_cancel (c : Clockwork κ σ) (task : Nat) :
    (c.cancel task).trace = ((Move.cancel task : Move κ).writes c).map (c.now, ·) ++ c.trace := by
  simp only [Clockwork.cancel, Move.writes]
  split <;> rfl

theorem trace_stop (c : Clockwork κ σ) :
    c.stop.trace = ((Move.stop : Move κ).writes c).map (c.now, ·) ++ c.trace := by
  simp only [Clockwork.stop, Move.writes]
  cases c.schedule.discipline <;> rfl

theorem suffix_play {task : Nat} (b : Body κ σ) : c.trace <:+ (play task b c).trace := by
  induction b generalizing c with
  | done => exact List.suffix_cons ..
  | sleep => exact List.suffix_rfl
  | schedule delay job next ih => exact (List.suffix_cons ..).trans (ih _ (c := c.add delay job))
  | cancel id next ih =>
    have hid : c.trace <:+ (c.cancel id).trace := trace_cancel c id ▸ List.suffix_append ..
    exact hid.trans ih
  | ask id next ih => exact ih _
  | stop next ih =>
    have hstop : c.trace <:+ c.stop.trace := trace_stop c ▸ List.suffix_append ..
    exact hstop.trans ih
  | share change next ih => exact ih _ (c := { c with memory := change c.now c.memory })

theorem suffix_pick : ((Move.pick : Move κ).writes c).map (c.now, ·) ++ c.trace <:+
    (c.pick program).2.trace := by
  rw [Move.writes, ← Schedule.startNext_fst]
  unfold pick
  split
  · rename_i hn
    rw [hn]
    exact List.suffix_rfl
  · rename_i t rest hn
    rw [hn]
    exact suffix_play (program t.job) (c := { c with schedule := rest }.log (.started t.id))

/-- Every move writes its entry first, and leaves what was written before. -/
theorem writes_step (hc : c.schedule.Numbered) {m : Move κ} (hm : c.step program m = some c') :
    (m.writes c).map (c.now, ·) ++ c.trace <:+ c'.trace := by
  cases m with
  | schedule delay job =>
    cases hm
    exact List.suffix_rfl
  | cancel task =>
    cases hm
    exact trace_cancel c task ▸ List.suffix_rfl
  | stop =>
    cases hm
    exact trace_stop c ▸ List.suffix_rfl
  | pick =>
    rw [step] at hm
    split at hm <;> cases hm
    exact suffix_pick
  | poll task =>
    rw [step] at hm
    split at hm
    · cases hm
    · obtain ⟨t, rest, hs, rfl⟩ := poll?_eq_some hm
      obtain ⟨-, rfl, -⟩ := Schedule.starts_of_startDue hc hs
      exact suffix_play (program t.job) (c := { c with schedule := rest }.log (.started t.id))
  | wake task =>
    obtain ⟨s, -, -, rfl⟩ := wake?_eq_some.mp hm
    exact suffix_play s.rest (c := { c with asleep := c.asleep.filter (·.1 != task) })
  | elapse t =>
    obtain ⟨-, rfl⟩ := step_elapse.mp hm
    exact List.suffix_rfl

/-- What is asked of a clockwork is written down and done. -/
structure Obeys (program : κ → Body κ σ) (c : Clockwork κ σ) : Prop where
  /-- A task that is scheduled has the next number, and can start unless the schedule is stopped. -/
  schedules : ∀ delay job,
    (c.add delay job).trace = (c.now, .scheduled (c.schedule.issued + 1) delay) :: c.trace ∧
      (c.add delay job).schedule.issued = c.schedule.issued + 1 ∧
        (c.add delay job).schedule.live = if c.schedule.stopped then []
          else c.schedule.live ++ [c.schedule.next c.now delay job]
  /-- The handle of a task that is cancelled tells so, and it cannot start; the others can as
  before. -/
  cancels : ∀ task, 0 < task → task ≤ c.schedule.issued →
    (c.cancel task).trace = (c.now, .cancelled task) :: c.trace ∧
      (c.cancel task).schedule.isCancelled task = true ∧
        (c.cancel task).schedule.live = c.schedule.live.filter fun t => t.id != task
  /-- On the clock nothing can start after the end, and every handle tells so. -/
  stops : c.schedule.discipline = .timed → c.stop.trace = (c.now, .stopped) :: c.trace ∧
    c.stop.schedule.live = [] ∧ ∀ task, c.stop.schedule.isCancelled task = true
  /-- Every move writes its entry first. -/
  moves : ∀ m c', c.step program m = some c' → (m.writes c).map (c.now, ·) ++ c.trace <:+ c'.trace

theorem obeys (hc : c.schedule.Numbered) : Obeys program c where
  schedules delay job := ⟨rfl, rfl, live_add hc delay job⟩
  cancels task hpos hle := by
    have hcancel : c.cancel task =
        { c with schedule := c.schedule.cancel task }.log (.cancelled task) := if_pos ⟨hpos, hle⟩
    rw [hcancel]
    refine ⟨rfl, ?_, c.schedule.live_cancel task⟩
    exact (c.schedule.isCancelled_cancel task task).trans (by simp)
  stops ht := by
    rw [stop_of_timed ht]
    exact ⟨rfl, Schedule.live_of_stopped (s := { c.schedule with stopped := true }) rfl,
      fun _ => Bool.true_or _⟩
  moves _ _ := writes_step hc

end LeaseKeeper.Clockwork
