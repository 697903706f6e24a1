import LeaseKeeper.Audience
import LeaseKeeper.Event
import LeaseKeeper.Schedule
import LeaseKeeper.Trigger

/-!
# Lease engines

The state of a lease engine: an entry for every secret, and the operations under way. An
entry holds the current snapshot of its secret, the task that looks after it, and a lock
that serialises what is done to it; the lock is a queue whose head holds it. Entries have
nothing in common but the schedule and the observers. An entry that was removed stays
where it is for as long as operations on it may go on, but it is registered no more.
-/

namespace LeaseKeeper.Leases

/-- A lease with the data that came with it. Two snapshots are the same only if their
serial numbers are. -/
structure Snapshot where
  serial : Nat
  lease : Lease
  data : SecretData

/-- What a task does to an entry. -/
inductive Action where
  | renew
  | expire
deriving DecidableEq, Repr

/-- A task of an entry, aimed at a snapshot. -/
structure Job where
  handle : Handle
  snapshot : Snapshot
  action : Action

/-- Whether an entry can be found by its handle. -/
inductive Standing where
  /-- Not yet: its first fetch is under way. -/
  | pending
  | registered
  /-- No more. -/
  | removed
deriving DecidableEq, Repr

/-- A secret that is looked after. -/
structure Entry where
  handle : Handle
  request : SecretRequest
  /-- Where the secret is fetched from. -/
  source : String
  snapshot : Option Snapshot
  /-- The task that looks after the snapshot. -/
  slot : Option Nat
  /-- The operations that want the entry; the first one holds it. -/
  lock : List Nat
  standing : Standing

namespace Entry

/-- Whether the entry can be found by its handle. -/
def isRegistered (e : Entry) : Bool := e.standing == .registered

/-- Whether that very snapshot is installed. -/
def isCurrent (e : Entry) (s : Snapshot) : Bool := e.snapshot.any (·.serial == s.serial)

/-- Whether a lost secret is fetched again. -/
def isRotating (e : Entry) : Bool := e.request.mode.isRotating

end Entry

/-- On whose behalf an entry is removed. -/
inductive Remover where
  /-- Somebody asked for it. -/
  | caller
  /-- Its registration came too late. -/
  | registration
  /-- The engine is shut down by that operation. -/
  | shutdown (operation : Nat)
deriving DecidableEq, Repr

/-- What an operation does to an entry once it has the lock. -/
inductive Errand where
  | act (snapshot : Snapshot) (action : Action)
  | rotate
  | remove (remover : Remover)

/-- Why a secret is fetched again. -/
inductive Cause where
  /-- Somebody asked for it. -/
  | caller
  /-- Its lease is lost. -/
  | loss
deriving DecidableEq, Repr

/-- Where an operation stands while others run. -/
inductive Point where
  /-- Holds the lock; the first fetch is with the server. -/
  | registering (handle : Handle)
  /-- Waits for the lock. -/
  | queued (handle : Handle) (errand : Errand)
  /-- Holds the lock; the renewal is with the server. -/
  | renewing (handle : Handle) (snapshot : Snapshot) (since : Instant)
  /-- Holds the lock; another fetch is with the server. -/
  | rotating (handle : Handle) (previous : Lease) (cause : Cause)
  /-- Holds the lock; the lease is given back. -/
  | revoking (handle : Handle) (snapshot : Snapshot) (remover : Remover)
  /-- Is about to remove an entry, for an operation that shuts the engine down. -/
  | opening (handle : Handle) (shutdown : Nat)
  /-- Waits for so many removals to end. -/
  | joining (left : Nat)

/-- How an operation ended. -/
inductive Outcome where
  | registered (handle : Handle)
  | refused (fault : Fault)
  | removed (found : Bool)
  | finished
deriving DecidableEq

/-- A call to the server. -/
inductive Call where
  | fetch (source path : String)
  | renew (lease : Lease) (increment : Span)
  | revoke (lease : Lease)

/-- Something that happened in a lease engine. -/
inductive Happening where
  | published (event : LeaseEvent)
  | called (operation : Nat) (handle : Handle) (call : Call)
  | ended (operation : Nat) (outcome : Outcome)

/-- What a lease engine is built with. -/
structure Settings where
  trigger : Trigger
  strategy : Strategy
  /-- What a renewal asks for; without it, the lease's own lifetime. -/
  increment : Option Span
deriving Inhabited

/-- What an observer sees of a lease engine. -/
structure View where
  snapshot : Option Snapshot
  /-- How many secrets are registered. -/
  count : Nat

/-- A lease engine. -/
structure World where
  now : Instant
  trigger : Trigger
  strategy : Strategy
  increment : Option Span
  /-- The numbers that jitter is drawn from. -/
  draws : Nat → Nat
  drawn : Nat
  schedule : Schedule Job
  /-- In the order in which they were asked for. -/
  entries : List Entry
  destroyed : Bool
  /-- Whether anybody outside still holds the engine. -/
  held : Bool
  operations : List (Nat × Point)
  nextOperation : Nat
  nextHandle : Nat
  nextSnapshot : Nat
  audience : Audience LeaseEvent View
  /-- What happened, latest first. -/
  history : List Happening

namespace World

/-- A new lease engine. -/
def initial (settings : Settings) (discipline : Discipline) (draws : Nat → Nat) : World where
  now := Instant.start
  trigger := settings.trigger
  strategy := settings.strategy
  increment := settings.increment
  draws := draws
  drawn := 0
  schedule := Schedule.empty discipline
  entries := []
  destroyed := false
  held := true
  operations := []
  nextOperation := 0
  nextHandle := 1
  nextSnapshot := 0
  audience := Audience.empty
  history := []

/-- The entry of a handle, registered or not. -/
def entry? (w : World) (h : Handle) : Option Entry := w.entries.find? (·.handle == h)

/-- The registered entry of a handle. -/
def registered? (w : World) (h : Handle) : Option Entry :=
  (w.entry? h).filter Entry.isRegistered

/-- The registered entries. -/
def registered (w : World) : List Entry := w.entries.filter Entry.isRegistered

/-- The handles that can be found. -/
def handles (w : World) : List Handle := w.registered.map Entry.handle

/-- How many secrets are registered. -/
def count (w : World) : Nat := w.registered.length

/-- The current snapshot of a registered secret. -/
def snapshot? (w : World) (h : Handle) : Option Snapshot :=
  (w.registered? h).bind Entry.snapshot

/-- Whether what comes in for an entry is still published and scheduled. -/
def isLive (w : World) (e : Entry) : Bool := !w.destroyed && e.standing != .removed

/-- Changes the entry of a handle. -/
def modify (w : World) (h : Handle) (f : Entry → Entry) : World :=
  { w with entries := w.entries.map fun e => if e.handle = h then f e else e }

/-- What an observer sees at an event about that secret. -/
def view (w : World) (h : Handle) : View := ⟨w.snapshot? h, w.count⟩

/-- Whether anybody outside or any operation still holds the engine. -/
def isAlive (w : World) : Bool := w.held || !w.operations.isEmpty

/-- Where an operation stands. -/
def point? (w : World) (op : Nat) : Option Point := w.operations.lookup op

/-- The call that an operation waits for at a point. -/
def callAt? (w : World) : Point → Option Call
  | .registering h => (w.entry? h).map fun e => .fetch e.source e.request.path
  | .rotating h _ _ => (w.entry? h).map fun e => .fetch e.source e.request.path
  | .renewing _ s _ => some (.renew s.lease (w.increment.getD s.lease.ttl))
  | .revoking _ s _ => some (.revoke s.lease)
  | .queued _ _ => none
  | .opening _ _ => none
  | .joining _ => none

/-- The call that an operation waits for. -/
def call? (w : World) (op : Nat) : Option Call := (w.point? op).bind w.callAt?

/-- Moves an operation to a point. -/
def setPoint (w : World) (op : Nat) (p : Point) : World :=
  { w with operations := (op, p) :: w.operations.filter (·.1 != op) }

/-- Notes what happened. -/
def note (w : World) (h : Happening) : World := { w with history := h :: w.history }

/-- The engine on one line. -/
def render (w : World) : String :=
  Text.record "LeaseEngine" [("secrets", toString w.count), ("strategy", w.strategy.render),
    ("trigger", w.trigger.render)]

/-- How an operation ended, if it has. -/
def outcome? (w : World) (op : Nat) : Option Outcome :=
  w.history.findSome? fun
    | .ended o r => if o == op then some r else none
    | _ => none

end World

end LeaseKeeper.Leases
