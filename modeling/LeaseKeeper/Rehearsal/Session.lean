import LeaseKeeper.Rehearsal.Arrangement
import LeaseKeeper.Rehearsal.Sketch
import LeaseKeeper.Rehearsal.Stage
import LeaseKeeper.Session.Blocking

/-!
# Rehearsing a session

A session against a scripted server. The server's answers are prepared beforehand: logins
come from a queue and then from a default that is issued anew each time, renewals from a
queue and then with the lifetime that the token had before; a login or renewal may take
its time, and the answer is chosen when that time has passed (`Server.reply`). A script
of cues is played on the stage, and every cue leaves a record.
-/

namespace LeaseKeeper.Rehearsal.SessionPlay

open LeaseKeeper.Session

/-- Where logins come from. -/
inductive Logins where
  /-- Always the same token from outside. -/
  | static (token : String)
  /-- Prepared results first, then the default. -/
  | scripted (default : Except Fault Credential) (queued : List (Except Fault Credential))
    (delay : Span)

/-- The scripted server. -/
structure Server where
  logins : Logins
  renewals : List (Except Fault Span)
  lookup : Except Fault TokenLookup
  revokeFault : Option Fault
  renewDelay : Span

namespace Server

/-- A server of which only the logins are prepared. -/
def ofLogins (logins : Logins) (renewDelay : Span) : Server :=
  ⟨logins, [], .ok ⟨Span.zero, false⟩, none, renewDelay⟩

/-- How long an answer takes; nothing is awaited at the other points. -/
def delay? (s : Server) : Point → Option Span
  | .queued _ _ => none
  | .loggingIn _ _ =>
    match s.logins with
    | .static _ => some Span.zero
    | .scripted _ _ delay => some delay
  | .renewing _ _ => some s.renewDelay
  | .lookingUp _ _ => some Span.zero
  | .discarding _ _ => some Span.zero
  | .revoking _ => some Span.zero

/-- The next login. -/
def login (s : Server) (now : Instant) : Except Fault Credential × Server :=
  match s.logins with
  | .static token => (.ok (Credential.ofToken now token), s)
  | .scripted default [] _ => (default.map (·.reissue now), s)
  | .scripted default (r :: rs) delay => (r, { s with logins := .scripted default rs delay })

/-- The next renewal of a credential. -/
def renew (s : Server) (now : Instant) (c : Credential) : Except Fault Credential × Server :=
  match s.renewals with
  | [] => (.ok (c.reissue now), s)
  | r :: rs => (r.map fun ttl => c.withLease now ttl true, { s with renewals := rs })

/-- Whether a token is taken back. -/
def revoke (s : Server) : Except Fault Unit :=
  match s.revokeFault with
  | some f => .error f
  | none => .ok ()

/-- The answer that an operation waits for at a point. -/
def reply (s : Server) (now : Instant) : Point → Option (Reply × Server)
  | .queued _ _ => none
  | .loggingIn _ _ =>
    let (r, s) := s.login now
    some (.login r, s)
  | .lookingUp _ _ => some (.lookup s.lookup, s)
  | .renewing g _ =>
    let (r, s) := s.renew now g.credential
    some (.renewal r, s)
  | .discarding _ _ => some (.revocation s.revoke, s)
  | .revoking _ => some (.revocation s.revoke, s)

end Server

/-- A cue about the session or its server. -/
inductive SessionCue where
  | token
  | current
  | revoke
  | destroy
  /-- Waits in place. -/
  | blocking (call : BlockingCall) (limit : Span) (inside : Bool)
  | pushLogin (result : Except Fault CredentialSketch)
  | setLogin (result : Except Fault CredentialSketch)
  | pushRenewal (result : Except Fault Span)
  | setLookup (result : Except Fault TokenLookup)
  | failRevoke (fault : Fault)
  | runNext
  | stop
  | listen (name : String) (channel : Channel) (behaviour : Behaviour)
  | unlisten (name : String) (channel : Channel)
  | render
  | drop

/-- The result of a cue. -/
inductive Result where
  | ok
  | dropped
  | absent
  | flag (b : Bool)
  | credential (c : Credential) (seen : Instant)
  | fault (f : Fault)
  | text (s : String)

/-- What somebody waits for an operation to bring. -/
inductive Wait where
  | outcome (operation : Nat)
  | task (operation : Nat)
  | patient (operation : Nat)

/-- A call in place, and for how long it is waited for. -/
structure Vigil where
  call : BlockingCall
  operation : Nat
  began : Instant
  limit : Span

/-- What the session makes possible. -/
inductive SessionJob where
  | fire (task : Nat)
  | enter (operation : Nat)
  | reply (operation : Nat)
  | look (vigil : Vigil)

/-- The session, its server, the observers by name, and the calls in place, latest first. -/
structure Scene where
  world : World
  server : Server
  observers : List (String × Nat)
  vigils : List Vigil
  /-- The calls in place that took too long. -/
  overdue : List (Nat × Fault)

namespace Scene

/-- Replaces the session by what a step makes of it, if it makes anything. -/
def step (s : Scene) (w : Option World) : Scene :=
  match w with
  | some w => { s with world := w }
  | none => s

/-- Begins an operation. -/
def begin (s : Scene) (r : Request) : Scene × Waiting Wait Result :=
  ({ s with world := s.world.begin r }, .machine (.outcome s.world.nextOperation))

/-- Does something that only holders can. -/
def ifHeld (s : Scene) (act : Scene → Scene × Waiting Wait Result) : Scene × Waiting Wait Result :=
  if s.world.held then act s else (s, .over .dropped)

/-- Prepares a login. -/
def prepareLogin (s : Scene) (r : Except Fault CredentialSketch) (isDefault : Bool) : Scene :=
  let r := r.map fun c => c.issue s.world.now
  match s.server.logins with
  | .static _ => s
  | .scripted default queued delay =>
    let logins := if isDefault then .scripted r queued delay
      else .scripted default (queued ++ [r]) delay
    { s with server := { s.server with logins := logins } }

/-- Acts on a cue. -/
def act (cue : SessionCue) (s : Scene) : Scene × Waiting Wait Result :=
  match cue with
  | .token => s.ifHeld fun s => s.begin .token
  | .revoke => s.ifHeld fun s => s.begin .revoke
  | .destroy => s.ifHeld fun s => s.begin .destroy
  | .blocking call limit inside => s.ifHeld fun s =>
    match s.world.beginBlocking call inside with
    | .error f => (s, .over (.fault f))
    | .ok (op, w) =>
      ({ s with world := w, vigils := ⟨call, op, s.world.now, limit⟩ :: s.vigils },
        .machine (.patient op))
  | .current => s.ifHeld fun s =>
    (s, .over (match s.world.usable? with
      | some g => .credential g.credential s.world.now
      | none => .absent))
  | .pushLogin r => (s.prepareLogin r false, .over .ok)
  | .setLogin r => (s.prepareLogin r true, .over .ok)
  | .pushRenewal r =>
    ({ s with server := { s.server with renewals := s.server.renewals ++ [r] } }, .over .ok)
  | .setLookup r => ({ s with server := { s.server with lookup := r } }, .over .ok)
  | .failRevoke f => ({ s with server := { s.server with revokeFault := some f } }, .over .ok)
  | .runNext =>
    match s.world.schedule.live with
    | [] => (s, .over (.flag false))
    | _ =>
      let operation := s.world.nextOperation
      (s.step s.world.fireNext, .machine (.task operation))
  | .stop => (s.step (some s.world.stop), .over .ok)
  | .listen name channel behaviour => s.ifHeld fun s =>
    let (id, w) := s.world.listen channel ⟨name, behaviour⟩
    ({ s with world := w, observers := (name, id) :: s.observers }, .over .ok)
  | .unlisten name channel => s.ifHeld fun s =>
    match s.observers.lookup name with
    | none => (s, .over .absent)
    | some id =>
      let (found, w) := s.world.unlisten channel id
      ({ s with world := w }, .over (.flag found))
  | .render => s.ifHeld fun s => (s, .over (.text s.world.render))
  | .drop => (s.step (some s.world.release), .over .ok)

/-- Plays a job. -/
def perform (job : SessionJob) (s : Scene) : Scene :=
  match job with
  | .fire id => s.step (s.world.fire id)
  | .enter op => s.step (s.world.enter op)
  | .reply op =>
    match (s.world.point? op).bind fun p => s.server.reply s.world.now p with
    | none => s
    | some (r, server) => { s with server := server }.step (s.world.answer op r)
  | .look v =>
    match s.world.expect v.call v.operation v.began v.limit with
    | some (.error f, w) => { s with world := w, overdue := (v.operation, f) :: s.overdue }
    | _ => s

/-- The calls that are waited for in one state and were not in the other. -/
def newCalls (before after : Scene) : List (Order SessionJob) :=
  after.world.operations.reverse.filterMap fun (op, p) =>
    if before.world.point? op = some p then none
    else (after.server.delay? p).map fun delay =>
      if delay.isZero then .now (.reply op) else .at (after.world.now.plus delay) (.reply op)

/-- The tasks that were scheduled on the clock between two states. -/
def newTasks (before after : Scene) : List (Order SessionJob) :=
  match after.world.schedule.discipline with
  | .manual => []
  | .timed =>
    (after.world.schedule.waiting.filter fun t => before.world.schedule.issued < t.id).map
      fun t => .timed t.due (.fire t.id)

/-- The operation to which the lock was handed between two states. -/
def handedLock (before after : Scene) : List (Order SessionJob) :=
  match after.world.lock.head? with
  | none => []
  | some op =>
    match after.world.point? op with
    | some (.queued _ _) =>
      if before.world.lock.head? = some op then [] else [.soon (.enter op)]
    | _ => []

/-- The calls in place that were begun between two states. -/
def newVigils (before after : Scene) : List (Order SessionJob) :=
  (after.vigils.take (after.vigils.length - before.vigils.length)).map fun v =>
    .at (v.began.plus v.limit) (.look v)

/-- What has become possible between two states. -/
def orders (before after : Scene) : List (Order SessionJob) :=
  newCalls before after ++ newTasks before after ++ handedLock before after ++
    newVigils before after

/-- The operation that a job goes on with. -/
def concerns : SessionJob → Option Nat
  | .fire _ => none
  | .enter op => some op
  | .reply op => some op
  | .look v => some v.operation

/-- What an operation brought, if it has ended. -/
def outcome? (s : Scene) (op : Nat) : Option Result :=
  (s.world.outcome? op).map fun
    | .granted g => .credential g.credential s.world.now
    | .refused f => .fault f
    | .finished => .ok

/-- What somebody waited for, once it is there. -/
def result? (w : Wait) (s : Scene) : Option Result :=
  match w with
  | .outcome op => s.outcome? op
  | .patient op => (s.overdue.lookup op).map Result.fault <|> s.outcome? op
  | .task op => if (s.world.point? op).isNone then some (.flag true) else none

/-- The session as the stage plays it. -/
def machine : Machine Scene SessionCue Wait SessionJob Result where
  clock s := s.world.now
  setClock t s := s.step (s.world.elapse t)
  act := act
  perform := perform
  orders := orders
  opened s := s.world.nextOperation
  concerns := concerns
  result? := result?
  done := .ok
  unknown := .absent

end Scene

/-- What a cue leaves behind. -/
structure Record where
  result : Option Result
  now : Instant
  notes : List (Note SessionEvent View)
  lines : List LogLine
  /-- The delays of the tasks that can still be started by hand, and how many there ever
  were. -/
  pending : Option (List Span × Nat)
  /-- How many logins, renewals, revocations and lookups there were. -/
  logins : Option Nat
  renewals : Nat
  revocations : Nat
  lookups : Nat
  /-- What the session shows, while somebody holds it. -/
  view : Option View

/-- The items of a list that grew at its head, oldest first. -/
def grown {α : Type} (before after : List α) : List α :=
  (after.take (after.length - before.length)).reverse

namespace Scene

/-- How many logins a server saw that counts them. -/
def loginCount (s : Scene) : Option Nat :=
  match s.server.logins with
  | .static _ => none
  | .scripted _ _ _ => some (s.world.calls fun c => c == .login)

/-- What the notes of a shutdown are arranged by. -/
def noteKey (n : Note SessionEvent View) : List String := [n.event.kind, n.hearer]

/-- The record of a cue. -/
def record (cue : Cue SessionCue) (r : Option Result) (before after : Scene) : Record where
  result := r
  now := after.world.now
  notes :=
    let notes := grown before.world.audience.notes after.world.audience.notes
    match cue with
    | .act .destroy => arrange noteKey notes
    | _ => notes
  lines := grown before.world.audience.lines after.world.audience.lines
  pending := match after.world.schedule.discipline with
    | .manual => some (after.world.schedule.delays, after.world.schedule.issued)
    | .timed => none
  logins := after.loginCount
  renewals := after.world.calls fun
    | .renew _ => true
    | _ => false
  revocations := after.world.calls fun
    | .revoke _ => true
    | _ => false
  lookups := after.world.calls fun
    | .lookup _ => true
    | _ => false
  view := if after.world.held then some after.world.view else none

/-- A session that has just been built, with the two standing observers unless nobody is to
listen. -/
def start (settings : Settings) (discipline : Discipline) (server : Server) (listen : Bool) :
    Scene :=
  let w := World.initial settings discipline fun _ => 0
  if listen then
    let (a, w) := w.listen .regular ⟨"main", .record⟩
    let (b, w) := w.listen .errors ⟨"main-errors", .record⟩
    ⟨w, server, [("main", a), ("main-errors", b)], [], []⟩
  else ⟨w, server, [], [], []⟩

end Scene

/-- Plays a script, and tells the records and what was counted. -/
def play (scene : Scene) (script : List (Cue SessionCue)) : List Record × Metrics :=
  let (records, final) := Play.playAll Scene.machine Scene.record script (Play.start scene)
  (records, final.state.world.audience.metrics)

end LeaseKeeper.Rehearsal.SessionPlay
