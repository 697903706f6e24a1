import LeaseKeeper.Clockwork
import LeaseKeeper.Fault
import LeaseKeeper.Rehearsal.Stage

/-!
# Rehearsing a scheduler

Named tasks on a schedule. A task notes when it starts; one that has work to do sleeps as long as
the work takes and notes also when it ends. A name stands for the task that was last scheduled
under it.
-/

namespace LeaseKeeper.Rehearsal.SchedulerPlay

/-- What a task does. -/
structure Chore where
  name : String
  work : Span

/-- What a task noted. -/
structure Mark where
  name : String
  isStart : Bool
  time : Instant

/-- The body of a task; the latest note comes first. -/
def Chore.body (chore : Chore) : Body Chore (List Mark) :=
  .share (fun now marks => ⟨chore.name, true, now⟩ :: marks) fun _ =>
    if chore.work.isZero then .done
    else .sleep chore.work
      (.share (fun now marks => ⟨chore.name, false, now⟩ :: marks) fun _ => .done)

/-- A cue about the scheduler. -/
inductive SchedulerCue where
  | schedule (name : String) (delay work : Span)
  | cancel (name : String)
  | runNext
  | stop

/-- The result of a cue. -/
inductive Result where
  | ok
  | absent
  | flag (b : Bool)
  | task (id : Nat) (delay : Span) (isCancelled : Bool)

/-- The scheduler and the tasks by name. -/
structure Scene where
  clockwork : Clockwork Chore (List Mark)
  names : List (String × Nat)

namespace Scene

/-- A scheduler without tasks. -/
def start (discipline : Discipline) : Scene := ⟨.initial discipline [], []⟩

/-- The number after that of the task which was started last. -/
def nextStart (s : Scene) : Nat :=
  (s.clockwork.trace.findSome? fun
    | (_, .started id) => some (id + 1)
    | _ => none).getD 0

/-- Acts on a cue. -/
def act (cue : SchedulerCue) (s : Scene) : Scene × Waiting Nat Result :=
  match cue with
  | .schedule name delay work =>
    let clockwork := s.clockwork.add delay ⟨name, work⟩
    let id := clockwork.schedule.issued
    (⟨clockwork, (name, id) :: s.names.filter (·.1 != name)⟩,
      .over (.task id delay (clockwork.schedule.isCancelled id)))
  | .cancel name =>
    match s.names.lookup name with
    | none => (s, .over .ok)
    | some id => ({ s with clockwork := s.clockwork.cancel id }, .over .ok)
  | .stop => ({ s with clockwork := s.clockwork.stop }, .over .ok)
  | .runNext =>
    match s.clockwork.pick Chore.body with
    | (none, clockwork) => ({ s with clockwork := clockwork }, .over (.flag false))
    | (some id, clockwork) => ({ s with clockwork := clockwork }, .machine id)

/-- Makes a move, if it is possible. -/
def perform (m : Clockwork.Move Chore) (s : Scene) : Scene :=
  { s with clockwork := (s.clockwork.step Chore.body m).getD s.clockwork }

/-- What has become possible between two states. -/
def orders (before after : Scene) : List (Order (Clockwork.Move Chore)) :=
  ((after.clockwork.asleep.filter fun w =>
      (before.clockwork.asleep.lookup w.1).isNone).map fun w => .at w.2.due (.wake w.1)) ++
    match after.clockwork.schedule.discipline with
    | .manual => []
    | .timed =>
      (after.clockwork.schedule.waiting.filter fun t =>
        before.clockwork.schedule.issued < t.id).map fun t => .timed t.due (.poll t.id)

/-- The scheduler as the stage plays it. -/
def machine : Machine Scene SchedulerCue Nat (Clockwork.Move Chore) Result where
  clock s := s.clockwork.now
  setClock t s := { s with clockwork := { s.clockwork with now := t } }
  act := act
  perform := perform
  orders := orders
  opened := nextStart
  concerns
    | .wake id => some id
    | _ => none
  result? id s := (s.clockwork.answer? (some id)).map .flag
  done := .ok
  unknown := .absent

end Scene

/-- What a cue leaves behind. -/
structure Record where
  result : Option Result
  now : Instant
  marks : List Mark
  /-- The names whose task was cancelled. -/
  cancelled : List String
  schedule : Schedule Chore

/-- The record of a cue. -/
def Scene.record (_ : Cue SchedulerCue) (r : Option Result) (before after : Scene) : Record where
  result := r
  now := after.clockwork.now
  marks := (after.clockwork.memory.take
    (after.clockwork.memory.length - before.clockwork.memory.length)).reverse
  cancelled := ((after.names.filter fun n =>
      after.clockwork.schedule.isCancelled n.2).map (·.1)).mergeSort fun a b => decide (a ≤ b)
  schedule := after.clockwork.schedule

/-- Plays a script. -/
def play (discipline : Discipline) (script : List (Cue SchedulerCue)) : List Record :=
  (Play.playAll Scene.machine Scene.record script (Play.start (Scene.start discipline))).1

/-- There is no clock to schedule on outside a running program. -/
def noClock : Fault := .config "No clock is available for the scheduler"

end LeaseKeeper.Rehearsal.SchedulerPlay
