import LeaseKeeper.Log
import LeaseKeeper.Text.Quoted

/-!
# Multicasters

Two lists of listeners, one for error events and one for all others. Every registration
gets the next number, whichever list it goes to. An event is delivered to the listeners
that are on its list when the delivery begins (`Multicaster.targets`), in the order of
registration, whatever they do meanwhile: `deliver` hands the state from one to the next,
and a listener that fails or breaks off is only noted down.
-/

namespace LeaseKeeper

/-- Which events a listener hears. -/
inductive Channel where
  /-- Every event that is no error. -/
  | regular
  /-- The errors. -/
  | errors
deriving DecidableEq, Inhabited, Repr

/-- The channel of an event. -/
def Channel.ofIsError (isError : Bool) : Channel := if isError then .errors else .regular

/-- A listener and its number. -/
structure Registration (L : Type) where
  id : Nat
  listener : L
deriving Repr

/-- How a listener ended a call. -/
inductive CallEnd where
  | done
  | failed (message : String)
  | broke
deriving DecidableEq, Repr

/-- The listeners of both channels, and how many were ever registered. -/
structure Multicaster (L : Type) where
  regular : List (Registration L)
  errors : List (Registration L)
  issued : Nat

namespace Multicaster

variable {L : Type}

/-- Nobody listens. -/
def empty : Multicaster L := ⟨[], [], 0⟩

/-- The listeners of a channel, in the order of registration. -/
def listeners (m : Multicaster L) : Channel → List (Registration L)
  | .regular => m.regular
  | .errors => m.errors

/-- Replaces the listeners of a channel. -/
def setListeners (m : Multicaster L) (rs : List (Registration L)) : Channel → Multicaster L
  | .regular => { m with regular := rs }
  | .errors => { m with errors := rs }

/-- Registers a listener and tells its number. -/
def add (m : Multicaster L) (channel : Channel) (listener : L) : Nat × Multicaster L :=
  let id := m.issued + 1
  (id, { m.setListeners (m.listeners channel ++ [⟨id, listener⟩]) channel with issued := id })

/-- Whether the listener of that number is on the channel. -/
def has (m : Multicaster L) (channel : Channel) (id : Nat) : Bool :=
  (m.listeners channel).any (·.id == id)

/-- Takes a listener off a channel, if it is there. -/
def remove (m : Multicaster L) (channel : Channel) (id : Nat) : Bool × Multicaster L :=
  if m.has channel id then
    (true, m.setListeners ((m.listeners channel).filter (·.id != id)) channel)
  else (false, m)

/-- The listeners that an event reaches. -/
def targets (m : Multicaster L) (isError : Bool) : List (Registration L) :=
  m.listeners (Channel.ofIsError isError)

/-- A listener's number in words. -/
def idText (id : Nat) : String := "listener-" ++ toString id

/-- The multicaster on one line. -/
def render (m : Multicaster L) : String :=
  Text.record "EventMulticaster" [("listeners", toString m.regular.length),
    ("error_listeners", toString m.errors.length)]

/-- The line about a listener that did not end a call well. -/
def complaint? (kind : String) (id : Nat) : CallEnd → Option LogLine
  | .done => none
  | .failed message =>
    some ⟨.warn, "Event listener failed",
      [("listener", idText id), ("event", kind), ("error", message)]⟩
  | .broke =>
    some ⟨.error, "Event listener panicked", [("listener", idText id), ("event", kind)]⟩

end Multicaster

/-- Calls each listener once, in order; whatever one does, the next is called in the state
that it left. -/
def deliver {σ L : Type} (call : Registration L → σ → σ × CallEnd)
    (note : Nat → CallEnd → σ → σ) : List (Registration L) → σ → σ
  | [], s => s
  | r :: rs, s =>
    let (s, ended) := call r s
    deliver call note rs (note r.id ended s)

end LeaseKeeper
