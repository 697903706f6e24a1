import LeaseKeeper.Span
import LeaseKeeper.Text.Quoted

/-!
# Schedules

Tasks that wait to be started, each at most once. Under the manual discipline somebody
asks for the oldest one (`Schedule.startNext`), whatever its delay; under the timed one a
task starts by its number once its delay has passed (`Schedule.startDue`). Cancelling
keeps a waiting task from starting and leaves a started one alone; a schedule that was
stopped has cancelled every task, those to come among them. `Schedule.live` is the list of
tasks that can still start, in the order in which they were scheduled.
-/

namespace LeaseKeeper

/-- Who starts the tasks. -/
inductive Discipline where
  /-- Whoever asks for the oldest one. -/
  | manual
  /-- The clock. -/
  | timed
deriving DecidableEq, Inhabited, Repr

/-- A task that waits for its start. -/
structure Task (τ : Type) where
  id : Nat
  delay : Span
  due : Instant
  job : τ

/-- The tasks of one scheduler. -/
structure Schedule (τ : Type) where
  discipline : Discipline
  /-- Scheduled and neither started nor discarded. -/
  waiting : List (Task τ)
  /-- The numbers of the tasks that were cancelled. -/
  cancelled : List Nat
  /-- How many tasks were ever scheduled; they are numbered from one. -/
  issued : Nat
  stopped : Bool

namespace Schedule

variable {τ : Type}

/-- A schedule without tasks. -/
def empty (discipline : Discipline) : Schedule τ := ⟨discipline, [], [], 0, false⟩

/-- Whether the task of that number was cancelled, or would be if it came. -/
def isCancelled (s : Schedule τ) (id : Nat) : Bool := s.stopped || s.cancelled.contains id

/-- The tasks that can still start, oldest first. -/
def live (s : Schedule τ) : List (Task τ) := s.waiting.filter fun t => !s.isCancelled t.id

/-- The delays of the tasks that can still start. -/
def delays (s : Schedule τ) : List Span := s.live.map Task.delay

/-- Adds a task and tells its number. -/
def add (s : Schedule τ) (now : Instant) (delay : Span) (job : τ) : Nat × Schedule τ :=
  let id := s.issued + 1
  (id, { s with waiting := s.waiting ++ [⟨id, delay, now.plus delay, job⟩], issued := id })

/-- Keeps a task from starting. -/
def cancel (s : Schedule τ) (id : Nat) : Schedule τ :=
  if s.cancelled.contains id then s else { s with cancelled := id :: s.cancelled }

/-- Cancels a task if there is one. -/
def cancel? (s : Schedule τ) : Option Nat → Schedule τ
  | none => s
  | some id => s.cancel id

/-- Cancels everything, now and later. Only the clock can be stopped. -/
def stop (s : Schedule τ) : Schedule τ :=
  match s.discipline with
  | .manual => s
  | .timed => { s with stopped := true }

/-- Discards the cancelled tasks and starts the oldest of the others. -/
def startNext (s : Schedule τ) : Option (Task τ) × Schedule τ :=
  match s.live with
  | [] => (none, { s with waiting := [] })
  | t :: rest => (some t, { s with waiting := rest })

/-- Discards the cancelled tasks and starts the task of that number, if it can still start
and its time has come. -/
def startDue (s : Schedule τ) (now : Instant) (id : Nat) : Option (Task τ) × Schedule τ :=
  match s.live.find? fun t => t.id == id && decide (t.due ≤ now) with
  | none => (none, s)
  | some t => (some t, { s with waiting := s.live.filter fun u => u.id != id })

/-- The schedule on one line. -/
def render (s : Schedule τ) : String :=
  match s.discipline with
  | .manual =>
    Text.record "ManualScheduler" [("pending", Text.listing (s.delays.map Span.render))]
  | .timed =>
    Text.record "TokioScheduler" [("shutdown", Text.truth s.stopped),
      ("scheduled", toString s.issued)]

@[simp] theorem live_empty (d : Discipline) : (empty d : Schedule τ).live = [] := rfl

theorem live_cancel (s : Schedule τ) (id : Nat) :
    (s.cancel id).live = s.live.filter fun t => t.id != id := by
  by_cases h : s.cancelled.contains id
  · simp only [cancel, h, ↓reduceIte]
    symm
    rw [List.filter_eq_self]
    intro t ht
    simp only [live, List.mem_filter, isCancelled] at ht
    simp only [bne_iff_ne, ne_eq]
    rintro rfl
    rw [h] at ht
    simp at ht
  · simp only [cancel, h, live, isCancelled, List.filter_filter]
    apply List.filter_congr
    intro t _
    cases s.stopped <;> by_cases e : t.id = id <;> simp [e]

theorem startNext_fst (s : Schedule τ) : s.startNext.1 = s.live.head? := by
  simp only [startNext]
  split <;> simp_all

end Schedule

end LeaseKeeper
