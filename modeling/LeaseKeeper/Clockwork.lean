import LeaseKeeper.Schedule

/-!
# Clockworks

A schedule together with what its tasks do. The body of a task begins when the task is started; it
schedules and cancels tasks, asks whether one is cancelled, stops the schedule, and reads and
changes what all bodies share, each of it at once, and it sleeps in between. Nothing interrupts a
body: one that sleeps goes on when its time has come, whatever became of its task meanwhile.

The deadline of a task counts from the call that schedules it, since whatever is scheduled is looked
after once before the clock moves on. The clock never passes a deadline: while a task or a sleeper
is due it stays where it is, and what is due at one instant goes on in any order. A clock that jumps
over deadlines, as one that is set by hand can, is left out.
-/

namespace LeaseKeeper

/-- What a task does, one thing after the other. `κ` is what the tasks are told apart by, and `σ` is
what all of them share. -/
inductive Body (κ σ : Type) where
  | done
  | sleep (time : Span) (next : Body κ σ)
  /-- Schedules a task, and is told its number. -/
  | schedule (delay : Span) (job : κ) (next : Nat → Body κ σ)
  | cancel (task : Nat) (next : Body κ σ)
  /-- Asks whether a task is cancelled. -/
  | ask (task : Nat) (next : Bool → Body κ σ)
  | stop (next : Body κ σ)
  /-- Changes what is shared, and is told what it was. -/
  | share (change : Instant → σ → σ) (next : σ → Body κ σ)

/-- A body that sleeps, and what it does afterwards. -/
structure Sleeper (κ σ : Type) where
  due : Instant
  rest : Body κ σ

/-- What happens to tasks. -/
inductive Tick where
  | scheduled (task : Nat) (delay : Span)
  | cancelled (task : Nat)
  | stopped
  | started (task : Nat)
  | ended (task : Nat)
deriving DecidableEq

/-- Whether a task may not start any more once that has happened. -/
def Tick.bars (task : Nat) : Tick → Bool
  | .cancelled id => id == task
  | .stopped => true
  | _ => false

/-- A schedule and the bodies of its tasks. -/
structure Clockwork (κ σ : Type) where
  now : Instant
  schedule : Schedule κ
  /-- The tasks whose bodies sleep. -/
  asleep : List (Nat × Sleeper κ σ)
  memory : σ
  /-- What happened when, the latest first. -/
  trace : List (Instant × Tick)

namespace Clockwork

variable {κ σ : Type} (program : κ → Body κ σ)

/-- A clockwork without tasks. -/
def initial (discipline : Discipline) (memory : σ) : Clockwork κ σ :=
  ⟨Instant.start, .empty discipline, [], memory, []⟩

/-- Writes down what happens now. -/
def log (tick : Tick) (c : Clockwork κ σ) : Clockwork κ σ :=
  { c with trace := (c.now, tick) :: c.trace }

/-- Schedules a task. -/
def add (delay : Span) (job : κ) (c : Clockwork κ σ) : Clockwork κ σ :=
  { c with schedule := (c.schedule.add c.now delay job).2 }.log
    (.scheduled (c.schedule.issued + 1) delay)

/-- Cancels a task that was scheduled. -/
def cancel (task : Nat) (c : Clockwork κ σ) : Clockwork κ σ :=
  if 0 < task ∧ task ≤ c.schedule.issued then
    { c with schedule := c.schedule.cancel task }.log (.cancelled task)
  else c

/-- Stops the schedule. Only the clock can be stopped. -/
def stop (c : Clockwork κ σ) : Clockwork κ σ :=
  match c.schedule.discipline with
  | .manual => c
  | .timed => { c with schedule := c.schedule.stop }.log .stopped

/-- Plays what is left of the body of a task until it sleeps or ends. -/
def play (task : Nat) : Body κ σ → Clockwork κ σ → Clockwork κ σ
  | .done, c => c.log (.ended task)
  | .sleep time next, c => { c with asleep := (task, ⟨c.now.plus time, next⟩) :: c.asleep }
  | .schedule delay job next, c => play task (next (c.schedule.issued + 1)) (c.add delay job)
  | .cancel id next, c => play task next (c.cancel id)
  | .ask id next, c => play task (next (c.schedule.isCancelled id)) c
  | .stop next, c => play task next c.stop
  | .share change next, c => play task (next c.memory) { c with memory := change c.now c.memory }

/-- Starts a task that was taken from the schedule. -/
def start (t : Task κ) (rest : Schedule κ) (c : Clockwork κ σ) : Clockwork κ σ :=
  play t.id (program t.job) ({ c with schedule := rest }.log (.started t.id))

/-- Starts the oldest task, and tells its number. -/
def pick (c : Clockwork κ σ) : Option Nat × Clockwork κ σ :=
  match c.schedule.startNext with
  | (none, rest) => (none, { c with schedule := rest })
  | (some t, rest) => (some t.id, c.start program t rest)

/-- What whoever asked for the oldest task and was given that one is told, once there is something to
tell: that there was none, or that it has come to its end. -/
def answer? (c : Clockwork κ σ) : Option Nat → Option Bool
  | none => some false
  | some task => if (c.asleep.lookup task).isNone then some true else none

/-- Looks after a task: it starts if it is not cancelled and its time has come. -/
def poll? (task : Nat) (c : Clockwork κ σ) : Option (Clockwork κ σ) :=
  match c.schedule.startDue c.now task with
  | (none, _) => none
  | (some t, rest) => some (c.start program t rest)

/-- Lets the body of a task go on that has slept long enough. -/
def wake? (task : Nat) (c : Clockwork κ σ) : Option (Clockwork κ σ) :=
  match c.asleep.lookup task with
  | none => none
  | some s =>
    if s.due ≤ c.now then
      some (play task s.rest { c with asleep := c.asleep.filter (·.1 != task) })
    else none

/-- Whether the clock would pass a deadline on its way to an instant. -/
def passes (t : Instant) (c : Clockwork κ σ) : Bool :=
  (c.schedule.discipline == .timed && c.schedule.live.any (decide <| ·.due < t)) ||
    c.asleep.any (decide <| ·.2.due < t)

/-- What may happen next. -/
inductive Move (κ : Type) where
  /-- Somebody schedules a task. -/
  | schedule (delay : Span) (job : κ)
  /-- Somebody cancels a task. -/
  | cancel (task : Nat)
  /-- Somebody stops the schedule. -/
  | stop
  /-- Somebody starts the oldest task. -/
  | pick
  /-- The time of a task has come. -/
  | poll (task : Nat)
  /-- A body has slept long enough. -/
  | wake (task : Nat)
  /-- The clock moves on. -/
  | elapse (now : Instant)

/-- What comes of a move, if it is possible. -/
def step (c : Clockwork κ σ) : Move κ → Option (Clockwork κ σ)
  | .schedule delay job => some (c.add delay job)
  | .cancel task => some (c.cancel task)
  | .stop => some c.stop
  | .pick =>
    match c.schedule.discipline with
    | .manual => some (c.pick program).2
    | .timed => none
  | .poll task =>
    match c.schedule.discipline with
    | .manual => none
    | .timed => c.poll? program task
  | .wake task => c.wake? task
  | .elapse t => if c.now ≤ t ∧ c.passes t = false then some { c with now := t } else none

/-- What comes of moves, one after the other. -/
def run? (c : Clockwork κ σ) : List (Move κ) → Option (Clockwork κ σ)
  | [] => some c
  | m :: ms => (c.step program m).bind fun c' => c'.run? ms

end Clockwork

end LeaseKeeper
