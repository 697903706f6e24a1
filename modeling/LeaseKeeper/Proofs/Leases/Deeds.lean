import LeaseKeeper.Proofs.Leases.Frames

/-!
# What a step of a lease engine can do

In an engine that is not shut down, a step leaves the entries and operations alone
(`Quiet`), or an operation gets on with one entry (`Deed`): it adds or forgets it, it takes
part in its removal, or it works on it. `Works` lists the ways to do that, with what is then
told, what becomes of the entry and its tasks, and where the operation stands afterwards;
`Queues` is what becomes of the queue for the lock meanwhile.
-/

namespace LeaseKeeper.Leases

namespace Point

/-- The entry whose lock an operation holds or waits for. -/
def wants? : Point → Option Handle
  | registering h => some h
  | queued h _ => some h
  | renewing h _ _ => some h
  | rotating h _ _ => some h
  | revoking h _ _ => some h
  | opening _ _ => none
  | joining _ => none

/-- The entry whose lock an operation holds while the server works for it. -/
def holds? : Point → Option Handle
  | queued _ _ => none
  | p => p.wants?

/-- The entry that an operation is removing. -/
def leaves? : Point → Option Handle
  | queued h (.remove _) => some h
  | revoking h _ _ => some h
  | _ => none

/-- Whether an operation stands there only in an engine that is shut down. -/
def isClosing : Point → Bool
  | queued _ (.remove remover) => remover != .caller
  | revoking _ _ remover => remover != .caller
  | opening _ _ => true
  | joining _ => true
  | _ => false

theorem wants?_of_holds? {p : Point} {h : Handle} (hp : p.holds? = some h) : p.wants? = some h := by
  cases p <;> first | exact hp | cases hp

end Point

/-- The lease that is told as the one before, if a snapshot is installed or none is. -/
def Names (snapshot : Option Snapshot) (previous : Lease) : Prop :=
  match snapshot with
  | some s => previous = s.lease
  | none => ∃ t, previous = Lease.absent t

namespace World

/-- What a task is to do to an entry with that snapshot. -/
def duty (w : World) (s : Snapshot) : Action :=
  if s.lease.canRenew = true ∧ ¬ s.lease.ttl ≤ w.trigger.thresholdFor s.lease.ttl then .renew
  else .expire

/-- How things stand in an engine that is not shut down: operations and entries have numbers that
were given out, none stands where it could only stand in an engine that is shut down, removals are
of entries that are removed, those who register are the ones that wait for a pending entry,
and tasks are of entries that are registered. -/
structure Calm (w : World) : Prop where
  fresh : ∀ op p, w.point? op = some p → op < w.nextOperation
  known : ∀ h e, w.face? h = some e → h.serial < w.nextHandle
  unclosed : ∀ op p, w.point? op = some p → p.isClosing = false
  leaving : ∀ op p h e, w.point? op = some p → p.leaves? = some h → w.face? h = some e →
    e.standing = .removed
  pending : ∀ op p h e, w.point? op = some p → p.wants? = some h → w.face? h = some e →
    (e.standing = .pending ↔ p = .registering h)
  working : ∀ t ∈ w.schedule.live, ∀ e, w.face? t.job.handle = some e → e.standing = .registered

/-! ## How operations come to the lock -/

/-- How an operation begins that has something to do to an entry. -/
inductive Comes (w : World) (op : Nat) (h : Handle) (e : Entry) : Errand → Care → Prop
  | asks : op = w.nextOperation → e.standing = .registered → Comes w op h e .rotate .kept
  | fires {t : Task Job} : op = w.nextOperation → e.standing = .registered →
    t ∈ w.schedule.live → t.job.handle = h →
    Comes w op h e (.act t.job.snapshot t.job.action) (.started t)

/-- How an operation gets the lock of an entry: it finds it free, or has waited for it. -/
inductive Gets (w : World) (op : Nat) (h : Handle) (e : Entry) : Errand → Care → Prop
  | comes {errand : Errand} {care : Care} : Comes w op h e errand care → Gets w op h e errand care
  | enters {errand : Errand} : w.point? op = some (.queued h errand) → Gets w op h e errand .kept

/-- The queue for the lock once an operation has it. -/
inductive Holds (w : World) (op : Nat) (h : Handle) : List Nat → List Nat → Prop
  | free : op = w.nextOperation → Holds w op h [] [op]
  | waited {l : List Nat} {errand : Errand} : w.point? op = some (.queued h errand) →
    l.head? = some op → Holds w op h l l
  | holds {l : List Nat} {p : Point} : w.point? op = some p → p.holds? = some h → Holds w op h l l

/-- The queue for the lock, and where the operation stands, after it got on with the entry. -/
inductive Queues (w : World) (op : Nat) (h : Handle) :
    List Nat → List Nat → Option Point → Prop
  | joins {l : List Nat} {errand : Errand} : op = w.nextOperation → l ≠ [] →
    Queues w op h l (l ++ [op]) (some (.queued h errand))
  | stays {l l' : List Nat} {p : Point} : Holds w op h l l' → p.holds? = some h →
    Queues w op h l l' (some p)
  | leaves {l l' : List Nat} : Holds w op h l l' → Queues w op h l (l'.filter (· != op)) none

/-! ## What operations do to entries -/

/-- What becomes of the tasks of an entry when what is next for a snapshot is scheduled, wanted
or not. -/
inductive Cares (w : World) (s : Snapshot) (wanted : Bool) : Care → Prop
  | wanted : wanted = true → Cares w s wanted (.replaced s (w.duty s))
  | unwanted : wanted = false → Cares w s wanted .cancelled
  | exhausted : (∀ t, w.trigger ≠ .fixed t) → Cares w s wanted .cancelled

/-- What an operation says of a fetch that brought nothing. -/
inductive Misses (previous : Lease) : LeaseChange → Prop
  | notFound : Misses previous .notFound
  | failed {f : Fault} : Misses previous (.failed previous f)

/-- How an operation gets on with an entry that is not removed: what becomes of the snapshot
and the standing, where the operation stands, what is told, and what becomes of the tasks;
the number is that of the snapshots that have arrived. -/
inductive Works (w : World) (op : Nat) (h : Handle) (e : Entry) :
    Option Snapshot → Standing → Option Point → List LeaseChange → Care → Nat → Prop
  | joins {errand : Errand} {care : Care} : Comes w op h e errand care →
    Works w op h e e.snapshot e.standing (some (.queued h errand)) [] care w.nextSnapshot
  | passes {s : Snapshot} {a : Action} {care : Care} : Gets w op h e (.act s a) care →
    e.isCurrent s = false → Works w op h e e.snapshot e.standing none [] care w.nextSnapshot
  | asksAgain {previous : Lease} {care : Care} : Gets w op h e .rotate care →
    Names e.snapshot previous →
    Works w op h e e.snapshot e.standing (some (.rotating h previous .caller)) [] care
      w.nextSnapshot
  | renews {s : Snapshot} {since : Instant} {care : Care} : Gets w op h e (.act s .renew) care →
    e.isCurrent s = true →
    Works w op h e e.snapshot e.standing (some (.renewing h s since)) [] care w.nextSnapshot
  | loses {s : Snapshot} {care : Care} : Gets w op h e (.act s .expire) care →
    e.isCurrent s = true → e.isRotating = true →
    Works w op h e e.snapshot e.standing (some (.rotating h s.lease .loss)) [.expired s.lease] care
      w.nextSnapshot
  | drops {s : Snapshot} {care : Care} : Gets w op h e (.act s .expire) care →
    e.isCurrent s = true → e.isRotating = false →
    Works w op h e none e.standing none [.expired s.lease] .cancelled w.nextSnapshot
  | registers {s : Snapshot} {care : Care} : w.point? op = some (.registering h) →
    s.serial = w.nextSnapshot → Cares w s (wantsCare e s.lease) care →
    Works w op h e (some s) .registered none [.created s.lease s.data] care (w.nextSnapshot + 1)
  | registersBare {t : Instant} {c : LeaseChange} : w.point? op = some (.registering h) →
    Misses (Lease.absent t) c → Works w op h e none .registered none [c] .kept w.nextSnapshot
  | renewed {s r : Snapshot} {since : Instant} {care : Care} :
    w.point? op = some (.renewing h s since) → r.serial = w.nextSnapshot → r.data = s.data →
    Cares w r (wantsCare e r.lease) care →
    Works w op h e (some r) e.standing none [.renewed s.lease r.lease] care (w.nextSnapshot + 1)
  | retained {s : Snapshot} {since : Instant} {f : Fault} :
    w.point? op = some (.renewing h s since) →
    Works w op h e e.snapshot e.standing none [.failed s.lease f] (.replaced s .renew)
      w.nextSnapshot
  | failsAndLoses {s : Snapshot} {since : Instant} {f : Fault} :
    w.point? op = some (.renewing h s since) → e.isRotating = true →
    Works w op h e e.snapshot e.standing (some (.rotating h s.lease .loss))
      [.failed s.lease f, .expired s.lease] .kept w.nextSnapshot
  | failsAndDrops {s : Snapshot} {since : Instant} {f : Fault} :
    w.point? op = some (.renewing h s since) → e.isRotating = false →
    Works w op h e none e.standing none [.failed s.lease f, .expired s.lease] .cancelled
      w.nextSnapshot
  | rotated {previous : Lease} {cause : Cause} {s : Snapshot} {care : Care} :
    w.point? op = some (.rotating h previous cause) → s.serial = w.nextSnapshot →
    Cares w s (wantsCare e s.lease) care →
    Works w op h e (some s) e.standing none [.rotated previous s.lease s.data] care
      (w.nextSnapshot + 1)
  | refused {previous : Lease} {c : LeaseChange} :
    w.point? op = some (.rotating h previous .caller) → Misses previous c →
    Works w op h e e.snapshot e.standing none [c] .kept w.nextSnapshot
  | lost {previous : Lease} {c : LeaseChange} :
    w.point? op = some (.rotating h previous .loss) → Misses previous c →
    Works w op h e none e.standing none [c] .cancelled w.nextSnapshot

/-- Where an operation may stand after it got on with an entry that is removed. -/
inductive Retires (h : Handle) : Option Point → Prop
  | ended : Retires h none
  | waits : Retires h (some (.queued h (.remove .caller)))
  | returns {s : Snapshot} : Retires h (some (.revoking h s .caller))

/-- How an operation gets on with the entry of a handle, in a step that ends in `w'`. -/
inductive Deed (w w' : World) (op : Nat) (h : Handle) :
    Option Entry → Option Point → List LeaseChange → Care → Nat → Prop
  | adds {e : Entry} : op = w.nextOperation → h.serial = w.nextHandle →
    w.nextHandle < w'.nextHandle → e.standing = .pending → e.snapshot = none → e.lock = [op] →
    Deed w w' op h (some e) (some (.registering h)) [] .kept w.nextSnapshot
  | forgets : w.point? op = some (.registering h) →
    Deed w w' op h none none [] .kept w.nextSnapshot
  | removes {e : Entry} {s : Option Snapshot} {l : List Nat} {p : Option Point}
    {added : List LeaseChange} {care : Care} {n : Nat} : w.face? h = some e →
    e.standing ≠ .pending → Queues w op h e.lock l p → Retires h p → w.nextSnapshot ≤ n →
    care = .cancelled ∨ care = .kept ∧ e.standing = .removed →
    Deed w w' op h (some { e with snapshot := s, lock := l, standing := .removed }) p added care n
  | works {e : Entry} {s : Option Snapshot} {l : List Nat} {st : Standing} {p : Option Point}
    {added : List LeaseChange} {care : Care} {n : Nat} : w.face? h = some e → st ≠ .removed →
    Queues w op h e.lock l p → Works w op h e s st p added care n →
    Deed w w' op h (some { e with snapshot := s, lock := l, standing := st }) p added care n

/-- Entries, operations and what was told are as they were; tasks may be cancelled. -/
structure Quiet (w w' : World) : Prop where
  faces : ∀ h, w'.face? h = w.face? h
  points : ∀ op, w'.point? op = w.point? op
  changes : ∀ h, w'.changes h = w.changes h
  nextOperation : w.nextOperation ≤ w'.nextOperation
  nextHandle : w.nextHandle ≤ w'.nextHandle
  nextSnapshot : w'.nextSnapshot = w.nextSnapshot
  threshold : w'.trigger.thresholdFor = w.trigger.thresholdFor
  fixed : ∀ t, w.trigger = .fixed t → w'.trigger = .fixed t
  booked : w'.Booked
  live : ∀ t ∈ w'.schedule.live, t ∈ w.schedule.live
  running : w'.schedule.stopped = false → w.schedule.stopped = false
  spared : w'.isAlive = true → w'.schedule.stopped = false → ∀ t ∈ w.schedule.live,
    t ∈ w'.schedule.live

/-- How an engine that is not shut down gets on. -/
inductive Advance (w w' : World) : Prop
  | rests : Quiet w w' → Advance w w'
  | acts {op : Nat} {h : Handle} {face : Option Entry} {p : Option Point}
    {added : List LeaseChange} {care : Care} {n : Nat} :
    Frame (w'.isAlive = true) w w' op h face p added care n →
    Deed w w' op h face p added care n → Advance w w'

end World

end LeaseKeeper.Leases
