import LeaseKeeper.Metrics
import LeaseKeeper.Multicaster

/-!
# Audiences

The observers of an engine and what they leave behind: notes of the events they heard,
log lines, and metrics. An observer acts on an announcement by its behaviour
(`Audience.attend`); `Audience.hear` delivers one announcement to all observers of its
channel.
-/

namespace LeaseKeeper

/-- What an observer does with an event. -/
inductive Behaviour where
  /-- Notes it down. -/
  | record
  /-- Notes it down and fails. -/
  | fail
  /-- Notes it down and breaks off. -/
  | breakOff
  /-- Notes it down with what the engine shows at that moment. -/
  | read
  /-- Writes its line into the log. -/
  | log
  /-- Counts it. -/
  | measure
deriving DecidableEq, Inhabited, Repr

/-- A named observer. -/
structure Observer where
  name : String
  behaviour : Behaviour
deriving DecidableEq, Inhabited, Repr

/-- What an observer noted. -/
structure Note (E V : Type) where
  hearer : String
  time : Instant
  event : E
  /-- What the engine showed, if the observer looked; an engine that nobody holds shows
  nothing. -/
  sees : Option (Option V)

/-- An event on its way to the observers. -/
structure Announcement (E V : Type) where
  event : E
  isError : Bool
  line : LogLine
  mark : Mark
  /-- What the engine shows meanwhile; nothing, if nobody holds it. -/
  view : Option V

/-- The observers of an engine and what they left behind, latest first. -/
structure Audience (E V : Type) where
  listeners : Multicaster Observer
  notes : List (Note E V)
  lines : List LogLine
  metrics : Metrics

namespace Audience

variable {E V : Type}

/-- Nobody listens. -/
def empty : Audience E V := ⟨Multicaster.empty, [], [], Metrics.empty⟩

/-- Adds a note. -/
def note (a : Audience E V) (now : Instant) (event : E) (o : Observer)
    (sees : Option (Option V)) : Audience E V :=
  { a with notes := ⟨o.name, now, event, sees⟩ :: a.notes }

/-- One observer hears an announcement. -/
def attend (now : Instant) (n : Announcement E V) (r : Registration Observer)
    (a : Audience E V) : Audience E V × CallEnd :=
  match r.listener.behaviour with
  | .record => (a.note now n.event r.listener none, .done)
  | .fail => (a.note now n.event r.listener none, .failed "listener failed")
  | .breakOff => (a.note now n.event r.listener none, .broke)
  | .read => (a.note now n.event r.listener (some n.view), .done)
  | .log => ({ a with lines := n.line :: a.lines }, .done)
  | .measure => ({ a with metrics := a.metrics.mark n.mark }, .done)

/-- All observers of its channel hear an announcement; how they end is of no account. -/
def hear (now : Instant) (n : Announcement E V) (a : Audience E V) : Audience E V :=
  deliver (attend now n) (fun _ _ a => a) (a.listeners.targets n.isError) a

/-- Counts something. -/
def count (a : Audience E V) (k : Mark) : Audience E V := { a with metrics := a.metrics.mark k }

theorem listeners_attend (now : Instant) (n : Announcement E V) (r : Registration Observer)
    (a : Audience E V) : (attend now n r a).1.listeners = a.listeners := by
  simp only [attend]
  split <;> rfl

end Audience

end LeaseKeeper
