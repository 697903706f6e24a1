import LeaseKeeper.Leases.Step
import LeaseKeeper.Rehearsal.Arrangement
import LeaseKeeper.Rehearsal.Sketch
import LeaseKeeper.Rehearsal.Stage

/-!
# Rehearsing a lease engine

A lease engine against a scripted server. Every fetcher has a queue of answers for each
path, of which the last one repeats; renewals come from one queue and then grant what was
asked for. A fetch or a renewal may take its time, and its answer is chosen when that time
has passed (`Server.reply`). Secrets are spoken of by name: a name stands for the handle
that was last given out for it.
-/

namespace LeaseKeeper.Rehearsal.LeasePlay

open LeaseKeeper.Leases

/-- The answers of a fetcher for one path. -/
structure Shelf where
  source : String
  path : String
  answers : List (Except Fault (Option Secret))

/-- The scripted server. -/
structure Server where
  shelves : List Shelf
  /-- How long the fetches of a fetcher take. -/
  fetchDelays : List (String × Span)
  renewals : List (Except Fault Lease)
  /-- How long the renewals of a lease take. -/
  renewalDelays : List (String × Span)
  revokeFault : Option Fault

namespace Server

/-- A server without answers. -/
def ofFetchers (fetchDelays : List (String × Span)) : Server := ⟨[], fetchDelays, [], [], none⟩

/-- Prepares an answer for a path. -/
def respond (s : Server) (source path : String) (answer : Except Fault (Option Secret)) : Server :=
  if s.shelves.any fun f => f.source == source && f.path == path then
    { s with shelves := s.shelves.map fun f =>
      if f.source == source && f.path == path then { f with answers := f.answers ++ [answer] }
      else f }
  else { s with shelves := s.shelves ++ [⟨source, path, [answer]⟩] }

/-- The next answer for a path. -/
def fetch (s : Server) (source path : String) : Except Fault (Option Secret) × Server :=
  match (s.shelves.find? fun f => f.source == source && f.path == path).map Shelf.answers with
  | none => (.ok none, s)
  | some [] => (.ok none, s)
  | some [answer] => (answer, s)
  | some (answer :: answers) =>
    (answer, { s with shelves := s.shelves.map fun f =>
      if f.source == source && f.path == path then { f with answers := answers } else f })

/-- The next renewal of a lease. -/
def renew (s : Server) (now : Instant) (lease : Lease) (increment : Span) :
    Except Fault Lease × Server :=
  match s.renewals with
  | [] => (.ok (Lease.granted now lease.id increment lease.renewable), s)
  | r :: rs => (r, { s with renewals := rs })

/-- Whether a lease is taken back. -/
def revoke (s : Server) : Except Fault Unit :=
  match s.revokeFault with
  | some f => .error f
  | none => .ok ()

/-- How long a fetch takes. -/
def fetchDelay (s : Server) (source : String) : Span :=
  (s.fetchDelays.lookup source).getD Span.zero

/-- How long an answer takes; nothing is awaited at the other points. -/
def delay? (s : Server) (w : World) : Point → Option Span
  | .registering h => (w.entry? h).map fun e => s.fetchDelay e.source
  | .rotating h _ _ => (w.entry? h).map fun e => s.fetchDelay e.source
  | .renewing _ snapshot _ => some ((s.renewalDelays.lookup snapshot.lease.id).getD Span.zero)
  | .revoking _ _ _ => some Span.zero
  | _ => none

/-- The answer that an operation waits for at a point. -/
def reply (s : Server) (w : World) : Point → Option (Reply × Server)
  | .registering h => (w.entry? h).map fun e =>
    let (r, s) := s.fetch e.source e.request.path
    (.fetched r, s)
  | .rotating h _ _ => (w.entry? h).map fun e =>
    let (r, s) := s.fetch e.source e.request.path
    (.fetched r, s)
  | .renewing _ snapshot _ =>
    let (r, s) := s.renew w.now snapshot.lease (w.increment.getD snapshot.lease.ttl)
    some (.renewal r, s)
  | .revoking _ _ _ => some (.revocation s.revoke, s)
  | _ => none

end Server

/-- A cue about the engine or its server. -/
inductive LeaseCue where
  | respond (source path : String) (answer : Except Fault (Option SecretSketch))
  | pushRenewal (result : Except Fault LeaseSketch)
  | delayRenewal (id : String) (delay : Span)
  | failRevoke (fault : Fault)
  | add (name : String) (request : SecretRequest) (source : String)
  | remove (name : String)
  | rotate (name : String)
  | get (name : String)
  | destroy
  | runNext
  | stop
  | listen (name : String) (channel : Channel) (behaviour : Behaviour)
  | unlisten (name : String) (channel : Channel)
  | render
  | drop

/-- The result of a cue. -/
inductive Result where
  | ok
  | dropped
  | absent
  | flag (b : Bool)
  | secret (snapshot : Option Snapshot) (request : Option SecretRequest) (seen : Instant)
  | fault (f : Fault)
  | text (s : String)

/-- What somebody waits for an operation to bring. -/
inductive Wait where
  | outcome (operation : Nat)
  | task (operation : Nat)

/-- What the engine makes possible. -/
inductive LeaseJob where
  | fire (task : Nat)
  | enter (operation : Nat)
  | openNext (operation : Nat)
  | reply (operation : Nat)

/-- The engine, its server, and observers and secrets by name. -/
structure Scene where
  world : World
  server : Server
  observers : List (String × Nat)
  /-- The handle that was last given out for each name, latest first. -/
  names : List (String × Handle)
  /-- The registrations under way, by name. -/
  registrations : List (Nat × String)
  /-- The fetchers and paths of all registrations. -/
  paths : List (String × String)

namespace Scene

/-- The handle of a name; one that was never given out, if the name has none. -/
def handle (s : Scene) (name : String) : Handle := (s.names.lookup name).getD ⟨0⟩

/-- The name of a handle, as long as it stands for no other. -/
def nameOf? (s : Scene) (h : Handle) : Option String :=
  (s.names.find? fun n => n.2 == h).map (·.1)

/-- How a handle is shown. -/
def shown (s : Scene) (h : Handle) : Option String := (s.nameOf? h).map fun n => "<" ++ n ++ ">"

/-- A fault in which a handle is shown by its name. -/
def showFault (s : Scene) (f : Fault) : Fault :=
  match f with
  | .notFound path =>
    match s.names.find? fun n => n.2.text == path with
    | some n => .notFound ("<" ++ n.1 ++ ">")
    | none => f
  | _ => f

/-- Replaces the engine by what a step makes of it, if it makes anything. -/
def step (s : Scene) (w : Option World) : Scene :=
  match w with
  | some w => { s with world := w }
  | none => s

/-- Begins an operation. -/
def begin (s : Scene) (r : Request) : Scene × Waiting Wait Result :=
  ({ s with world := s.world.begin r }, .machine (.outcome s.world.nextOperation))

/-- Does something that only holders can. -/
def ifHeld (s : Scene) (act : Scene → Scene × Waiting Wait Result) : Scene × Waiting Wait Result :=
  if s.world.held then act s else (s, .over .dropped)

/-- Notes the handles that registrations have brought since. -/
def learnNames (s : Scene) : Scene :=
  s.registrations.foldl (fun s r =>
    match s.world.outcome? r.1 with
    | none => { s with registrations := s.registrations ++ [r] }
    | some (.registered h) => { s with names := (r.2, h) :: s.names.filter (·.1 != r.2) }
    | some _ => s) { s with registrations := [] }

/-- Acts on a cue. -/
def act (cue : LeaseCue) (s : Scene) : Scene × Waiting Wait Result :=
  match cue with
  | .respond source path answer =>
    let answer := answer.map fun o => o.map fun sketch => sketch.serve s.world.now
    ({ s with server := s.server.respond source path answer }, .over .ok)
  | .pushRenewal r =>
    let r := r.map fun sketch => sketch.grant s.world.now
    ({ s with server := { s.server with renewals := s.server.renewals ++ [r] } }, .over .ok)
  | .delayRenewal id delay =>
    ({ s with server :=
      { s.server with renewalDelays := (id, delay) :: s.server.renewalDelays } }, .over .ok)
  | .failRevoke f => ({ s with server := { s.server with revokeFault := some f } }, .over .ok)
  | .add name request source => s.ifHeld fun s =>
    let operation := s.world.nextOperation
    let s := { s with
      registrations := s.registrations ++ [(operation, name)]
      paths := s.paths ++ [(source, request.path)] }
    s.begin (.add request source)
  | .remove name => s.ifHeld fun s => s.begin (.remove (s.handle name))
  | .rotate name => s.ifHeld fun s => s.begin (.rotate (s.handle name))
  | .get name => s.ifHeld fun s =>
    let h := s.handle name
    (s, .over (.secret (s.world.snapshot? h) ((s.world.registered? h).map Entry.request)
      s.world.now))
  | .destroy => s.ifHeld fun s => s.begin .destroy
  | .runNext =>
    match s.world.schedule.live with
    | [] => (s, .over (.flag false))
    | _ =>
      let operation := s.world.nextOperation
      (s.step s.world.fireNext, .machine (.task operation))
  | .stop => (s.step (some s.world.stop), .over .ok)
  | .listen name channel behaviour => s.ifHeld fun s =>
    let (id, w) := s.world.listen channel ⟨name, behaviour⟩
    ({ s with world := w, observers := (name, id) :: s.observers }, .over .ok)
  | .unlisten name channel => s.ifHeld fun s =>
    match s.observers.lookup name with
    | none => (s, .over .absent)
    | some id =>
      let (found, w) := s.world.unlisten channel id
      ({ s with world := w }, .over (.flag found))
  | .render => s.ifHeld fun s => (s, .over (.text s.world.render))
  | .drop => (s.step (some s.world.release), .over .ok)

/-- Plays a job. -/
def perform (job : LeaseJob) (s : Scene) : Scene :=
  match job with
  | .fire id => s.step (s.world.fire id)
  | .enter op => s.step (s.world.enter op)
  | .openNext op => s.step (s.world.openNext op)
  | .reply op =>
    match (s.world.point? op).bind fun p => s.server.reply s.world p with
    | none => s
    | some (r, server) => { s with server := server }.step (s.world.answer op r)

/-- A number that tells the stages of an operation apart. -/
def stage : Point → Nat
  | .registering _ => 0
  | .queued _ _ => 1
  | .renewing _ _ _ => 2
  | .rotating _ _ _ => 3
  | .revoking _ _ _ => 4
  | .opening _ _ => 5
  | .joining _ => 6

/-- The calls and removals that are waited for in one state and were not in the other,
oldest operation first. -/
def newCalls (before after : Scene) : List (Order LeaseJob) :=
  after.world.operations.reverse.filterMap fun (op, p) =>
    if (before.world.point? op).map stage = some (stage p) then none
    else
      match p with
      | .opening _ _ => some (.now (.openNext op))
      | p => (after.server.delay? after.world p).map fun delay =>
        if delay.isZero then .now (.reply op) else .at (after.world.now.plus delay) (.reply op)

/-- The tasks that were scheduled on the clock between two states. -/
def newTasks (before after : Scene) : List (Order LeaseJob) :=
  match after.world.schedule.discipline with
  | .manual => []
  | .timed =>
    (after.world.schedule.waiting.filter fun t => before.world.schedule.issued < t.id).map
      fun t => .timed t.due (.fire t.id)

/-- The operations to which a lock was handed between two states. -/
def handedLocks (before after : Scene) : List (Order LeaseJob) :=
  after.world.entries.filterMap fun e =>
    match e.lock.head? with
    | none => none
    | some op =>
      match after.world.point? op with
      | some (.queued _ _) =>
        if (before.world.entry? e.handle).bind (fun e => e.lock.head?) = some op then none
        else some (.soon (.enter op))
      | _ => none

/-- What has become possible between two states. -/
def orders (before after : Scene) : List (Order LeaseJob) :=
  newCalls before after ++ newTasks before after ++ handedLocks before after

/-- The operation that a job goes on with. -/
def concerns : LeaseJob → Option Nat
  | .fire _ => none
  | .enter op => some op
  | .openNext op => some op
  | .reply op => some op

/-- What an operation brought, if it has ended. -/
def result? (w : Wait) (s : Scene) : Option Result :=
  match w with
  | .outcome op =>
    (s.world.outcome? op).map fun
      | .registered _ => .ok
      | .refused f => .fault f
      | .removed found => .flag found
      | .finished => .ok
  | .task op => if (s.world.point? op).isNone then some (.flag true) else none

/-- The engine as the stage plays it. -/
def machine : Machine Scene LeaseCue Wait LeaseJob Result where
  clock s := s.world.now
  setClock t s := s.step (s.world.elapse t)
  act cue s :=
    let (s, w) := act cue s
    (s.learnNames, w)
  perform job s := (perform job s).learnNames
  orders := orders
  opened s := s.world.nextOperation
  concerns := concerns
  result? := result?
  done := .ok
  unknown := .absent

end Scene

/-- A secret as a record shows it. -/
structure Shown where
  name : String
  snapshot : Option Snapshot

/-- An observer's note, with the secret by its name. -/
structure NamedNote where
  secret : Option String
  note : Note LeaseEvent View

/-- What a held engine shows. -/
structure Standings where
  secrets : List Shown
  count : Nat
  destroyed : Bool

/-- What a cue leaves behind. -/
structure Record where
  result : Option Result
  now : Instant
  notes : List NamedNote
  lines : List LogLine
  /-- The delays of the tasks that can still be started by hand, and how many there ever
  were. -/
  pending : Option (List Span × Nat)
  /-- The leases that the server was asked to renew and to take back during the cue. -/
  renewed : List String
  revoked : List String
  standings : Option Standings
  /-- How often each fetcher was asked for a path. -/
  fetches : List (String × Nat)

/-- The items of a list that grew at its head, oldest first. -/
def grown {α : Type} (before after : List α) : List α :=
  (after.take (after.length - before.length)).reverse

/-- What the notes of a shutdown are arranged by. -/
def NamedNote.key (n : NamedNote) : List String :=
  [n.note.event.path, (match n.note.event.change.lease? with
    | some l => l.id
    | none => ""), n.note.event.kind, n.secret.getD "", n.note.hearer]

namespace Scene

/-- The names that have a handle. -/
def knownNames (s : Scene) : List String := s.names.map (·.1)

/-- What a held engine shows. -/
def standings (s : Scene) : Standings where
  secrets := s.knownNames.filterMap fun name =>
    let h := s.handle name
    if (s.world.registered? h).isSome then some ⟨name, s.world.snapshot? h⟩ else none
  count := s.world.count
  destroyed := s.world.destroyed

/-- How often a fetcher was asked for a path. -/
def fetchCount (s : Scene) (source path : String) : Nat :=
  s.world.history.countP fun
    | .called _ _ (.fetch f p) => f == source && p == path
    | _ => false

/-- The calls of a list of happenings. -/
def callsOf (hs : List Happening) (id? : Call → Option String) : List String :=
  hs.filterMap fun
    | .called _ _ c => id? c
    | _ => none

/-- The record of a cue. -/
def record (cue : Cue LeaseCue) (r : Option Result) (before after : Scene) : Record :=
  let happened := grown before.world.history after.world.history
  let notes := (grown before.world.audience.notes after.world.audience.notes).map fun n =>
    (⟨after.shown n.event.handle, n⟩ : NamedNote)
  { result := r.map fun
      | .fault f => .fault (after.showFault f)
      | r => r
    now := after.world.now
    notes := match cue with
      | .act .destroy => arrange NamedNote.key notes
      | _ => notes
    lines := grown before.world.audience.lines after.world.audience.lines
    pending := match after.world.schedule.discipline with
      | .manual => some (after.world.schedule.delays, after.world.schedule.issued)
      | .timed => none
    renewed := callsOf happened fun
      | .renew l _ => some l.id
      | _ => none
    revoked := (callsOf happened fun
      | .revoke l => some l.id
      | _ => none).mergeSort fun a b => decide (a ≤ b)
    standings := if after.world.held then some after.standings else none
    fetches := after.paths.eraseDups.map fun p =>
      (p.1 ++ ":" ++ p.2, after.fetchCount p.1 p.2) }

/-- An engine that has just been built, with the two standing observers unless nobody is to
listen. -/
def start (settings : Settings) (discipline : Discipline) (server : Server) (listen : Bool) :
    Scene :=
  let w := World.initial settings discipline fun _ => 0
  if listen then
    let (a, w) := w.listen .regular ⟨"main", .record⟩
    let (b, w) := w.listen .errors ⟨"main-errors", .record⟩
    ⟨w, server, [("main", a), ("main-errors", b)], [], [], []⟩
  else ⟨w, server, [], [], [], []⟩

end Scene

/-- Plays a script, and tells the records and what was counted. -/
def play (scene : Scene) (script : List (Cue LeaseCue)) : List Record × Metrics :=
  let (records, final) := Play.playAll Scene.machine Scene.record script (Play.start scene)
  (records, final.state.world.audience.metrics)

end LeaseKeeper.Rehearsal.LeasePlay
