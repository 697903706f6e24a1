import LeaseKeeper.Audience
import LeaseKeeper.Proofs.Multicaster
import LeaseKeeper.Schedule

/-!
# Other values in the same places

A schedule does not look at the jobs of its tasks, nor an audience at the events that it hears or at
what its observers see: with other values in their places (`Schedule.map`, `Audience.map`) it does the
same.
-/

namespace LeaseKeeper

variable {τ υ : Type}

/-- A choice is changed by changing both sides. -/
theorem apply_ite_congr {α β : Type} (f : α → β) {c : Prop} [Decidable c] {a b : α} {a' b' : β}
    (ha : c → f a = a') (hb : ¬c → f b = b') : f (if c then a else b) = if c then a' else b' := by
  split
  · exact ha ‹_›
  · exact hb ‹_›

/-- The task with another job. -/
def Task.map (f : τ → υ) (t : Task τ) : Task υ := ⟨t.id, t.delay, t.due, f t.job⟩

namespace Schedule

/-- The schedule with other jobs. -/
def map (f : τ → υ) (s : Schedule τ) : Schedule υ :=
  ⟨s.discipline, s.waiting.map (Task.map f), s.cancelled, s.issued, s.stopped⟩

variable (f : τ → υ) (s : Schedule τ)

@[simp] theorem live_map : (s.map f).live = s.live.map (Task.map f) := List.filter_map ..

@[simp] theorem delays_map : (s.map f).delays = s.delays := by
  simp [delays, Function.comp_def, Task.map]

@[simp] theorem add_map (now : Instant) (delay : Span) (job : τ) :
    (s.map f).add now delay (f job) = ((s.add now delay job).1, (s.add now delay job).2.map f) := by
  simp [add, map, Task.map]

@[simp] theorem cancel_map (id : Nat) : (s.map f).cancel id = (s.cancel id).map f := by
  by_cases h : id ∈ s.cancelled <;> simp [cancel, map, h]

@[simp] theorem cancel?_map (id : Option Nat) : (s.map f).cancel? id = (s.cancel? id).map f := by
  cases id with
  | none => rfl
  | some id => exact cancel_map f s id

@[simp] theorem stop_map : (s.map f).stop = s.stop.map f := by
  simp only [stop, map]
  split <;> rfl

theorem startNext_map :
    (s.map f).startNext = (s.startNext.1.map (Task.map f), s.startNext.2.map f) := by
  simp only [startNext, live_map]
  cases s.live <;> rfl

theorem startDue_map (now : Instant) (id : Nat) :
    (s.map f).startDue now id =
      ((s.startDue now id).1.map (Task.map f), (s.startDue now id).2.map f) := by
  have hfind : (s.live.map (Task.map f)).find? (fun t => t.id == id && decide (t.due ≤ now)) =
      (s.live.find? fun t => t.id == id && decide (t.due ≤ now)).map (Task.map f) :=
    List.find?_map ..
  simp only [startDue, live_map, hfind]
  cases s.live.find? fun t => t.id == id && decide (t.due ≤ now) with
  | none => rfl
  | some t => simp [map, List.filter_map, Function.comp_def, Task.map]

end Schedule

/-! ## Audiences -/

variable {E E' V V' : Type} (f : E → E') (g : V → V')

/-- The note of another event, and of another sight. -/
def Note.map (n : Note E V) : Note E' V' := ⟨n.hearer, n.time, f n.event, n.sees.map (Option.map g)⟩

/-- Another event and another view announced in the same way. -/
def Announcement.map (n : Announcement E V) : Announcement E' V' :=
  ⟨f n.event, n.isError, n.line, n.mark, n.view.map g⟩

namespace Audience

/-- The audience with other events and other views in its notes. -/
def map (a : Audience E V) : Audience E' V' :=
  ⟨a.listeners, a.notes.map (Note.map f g), a.lines, a.metrics⟩

theorem attend_map (now : Instant) (n : Announcement E V) (r : Registration Observer)
    (a : Audience E V) : attend now (n.map f g) r (a.map f g) =
      ((attend now n r a).1.map f g, (attend now n r a).2) := by
  unfold attend
  cases r.listener.behaviour <;> rfl

theorem hear_map (now : Instant) (n : Announcement E V) (a : Audience E V) :
    (a.map f g).hear now (n.map f g) = (a.hear now n).map f g :=
  deliver_map (Audience.map f g) (fun r _ a => attend_map f g now n r a) (fun _ _ _ => rfl) a

end Audience

end LeaseKeeper
