import LeaseKeeper.Multicaster

/-!
# Rehearsing a multicaster

Named listeners that act while an event is delivered: they fail, break off, take a listener
off its list, register a new one, or send another event. A name stands for the listener
last registered under it. `send` delivers an event to the end, whatever the listeners do; a
listener that sends an event of its own is heard out first, to a given depth.
-/

namespace LeaseKeeper.Rehearsal.MulticasterPlay

/-- What a listener does when it is called; `E` are the events. -/
inductive Deed (E : Type) where
  | record
  | fail (message : String)
  | breakOff
  /-- Takes the listener of that name off whichever list it is on. -/
  | remove (target : String)
  /-- Registers a plain recorder. -/
  | register (target : String) (channel : Channel)
  /-- Sends an event, unless it is of the kind just heard. -/
  | send (event : E)

/-- A named listener; a plain one notes less. -/
structure Actor (E : Type) where
  name : String
  deed : Deed E
  isPlain : Bool

/-- What is noted down while events are delivered. -/
inductive Sight (E : Type) where
  | heard (hearer : String) (event : E) (isError : Option Bool)
  | removed (target : String) (found : Bool)

/-- What the stage needs to know of events. -/
structure Kind (E : Type) where
  name : E → String
  isError : E → Bool

/-- The multicaster, the listeners by name, and what was noted and logged, latest first. -/
structure Scene (E : Type) where
  caster : Multicaster (Actor E)
  names : List (String × Nat)
  sights : List (Sight E)
  lines : List LogLine

namespace Scene

variable {E : Type}

/-- Nobody listens. -/
def start : Scene E := ⟨Multicaster.empty, [], [], []⟩

/-- Registers a listener under its name. -/
def add (s : Scene E) (channel : Channel) (a : Actor E) : Nat × Scene E :=
  let (id, caster) := s.caster.add channel a
  (id, { s with caster := caster, names := (a.name, id) :: s.names })

/-- Takes the listener of a name off a list; there may be none of that name. -/
def remove (s : Scene E) (channel : Channel) (name : String) : Option Bool × Scene E :=
  match s.names.lookup name with
  | none => (none, s)
  | some id =>
    let (found, caster) := s.caster.remove channel id
    (some found, { s with caster := caster })

/-- Takes the listener of a name off whichever list it is on. -/
def removeAnywhere (s : Scene E) (name : String) : Scene E :=
  match s.names.lookup name with
  | none => s
  | some id =>
    let (here, caster) := s.caster.remove .regular id
    let (there, caster) := if here then (false, caster) else caster.remove .errors id
    { s with caster := caster, sights := .removed name (here || there) :: s.sights }

/-- Writes the line about a listener that did not end well. -/
def complain (kind : String) (id : Nat) (ended : CallEnd) (s : Scene E) : Scene E :=
  match Multicaster.complaint? kind id ended with
  | none => s
  | some line => { s with lines := line :: s.lines }

/-- One listener is called; `again` sends an event from inside. -/
def call (k : Kind E) (event : E) (again : E → Scene E → Scene E)
    (r : Registration (Actor E)) (s : Scene E) : Scene E × CallEnd :=
  let actor := r.listener
  let isError := if actor.isPlain then none else some (k.isError event)
  let s := { s with sights := .heard actor.name event isError :: s.sights }
  match actor.deed with
  | .record => (s, .done)
  | .fail message => (s, .failed message)
  | .breakOff => (s, .broke)
  | .remove target => (s.removeAnywhere target, .done)
  | .register target channel => ((s.add channel ⟨target, .record, true⟩).2, .done)
  | .send other => (if k.name other == k.name event then s else again other s, .done)

/-- Delivers an event; events sent from inside go to the given depth. -/
def send (k : Kind E) : Nat → E → Scene E → Scene E
  | 0, _, s => s
  | depth + 1, event, s =>
    deliver (call k event (send k depth)) (complain (k.name event))
      (s.caster.targets (k.isError event)) s

end Scene

/-- A cue about the multicaster. -/
inductive MulticasterCue (E : Type) where
  | add (channel : Channel) (actor : Actor E)
  | remove (channel : Channel) (name : String)
  | send (event : E)

/-- The result of a cue. -/
inductive Result where
  | ok
  | text (s : String)
  | found (b : Option Bool)

/-- What a cue leaves behind. -/
structure Record (E : Type) where
  result : Result
  sights : List (Sight E)
  lines : List LogLine
  regular : Nat
  errors : Nat
  text : String

variable {E : Type}

/-- How deep events are sent from inside one another. -/
def depth : Nat := 1000

/-- Acts on a cue. -/
def act (k : Kind E) (s : Scene E) : MulticasterCue E → Result × Scene E
  | .add channel actor =>
    let (id, s) := s.add channel actor
    (.text (Multicaster.idText id), s)
  | .remove channel name =>
    let (found, s) := s.remove channel name
    (.found found, s)
  | .send event => (.ok, s.send k depth event)

/-- Plays a script. -/
def play (k : Kind E) : List (MulticasterCue E) → Scene E → List (Record E)
  | [], _ => []
  | cue :: cues, s =>
    let (r, t) := act k { s with sights := [], lines := [] } cue
    ⟨r, t.sights.reverse, t.lines.reverse, t.caster.regular.length, t.caster.errors.length,
      t.caster.render⟩ :: play k cues t

end LeaseKeeper.Rehearsal.MulticasterPlay
