import LeaseKeeper.Leases.World

/-!
# The steps of a lease engine

What a lease engine does from one wait to the next. `begin` starts what somebody asked
for, `fire` and `fireNext` start a scheduled task, `enter` goes on with an operation to
which the lock of its entry was handed, `openNext` goes on with one of the removals of a
shutdown, and `answer` goes on when the server has answered. A run of a lease engine is any
sequence of steps.
-/

namespace LeaseKeeper.Leases

/-- What somebody may ask of a lease engine. -/
inductive Request where
  /-- To look after a secret. -/
  | add (request : SecretRequest) (source : String)
  /-- To stop looking after a secret and give its lease back. -/
  | remove (handle : Handle)
  /-- To fetch a secret again. -/
  | rotate (handle : Handle)
  /-- To remove every secret and stop for good. -/
  | destroy

/-- An answer of the server. -/
inductive Reply where
  | fetched (result : Except Fault (Option Secret))
  | renewal (result : Except Fault Lease)
  | revocation (result : Except Fault Unit)

namespace World

/-! ## Events, tasks and locks -/

/-- Publishes an event about the secret of an entry. -/
def publish (w : World) (e : Entry) (change : LeaseChange) : World :=
  let event : LeaseEvent := ⟨e.handle, e.request.path, change⟩
  { w.note (.published event) with
    audience := w.audience.hear w.now
      { event := event, isError := event.isError, line := event.logLine,
        mark := .leaseEvent event.kind
        view := if w.held then some (w.view e.handle) else none } }

/-- Counts something. -/
def tally (w : World) (k : Mark) : World := { w with audience := w.audience.count k }

/-- Brings the gauge of managed secrets up to date. -/
def updateGauge (w : World) : World :=
  { w with audience := { w.audience with metrics := w.audience.metrics.setManaged w.count } }

/-- Cancels the task of an entry. -/
def cancelTask (w : World) (h : Handle) : World :=
  match w.entry? h with
  | none => w
  | some e =>
    { w with schedule := w.schedule.cancel? e.slot }.modify h fun e => { e with slot := none }

/-- Schedules a task in place of the one before. -/
def replaceTask (w : World) (h : Handle) (delay : Span) (s : Snapshot) (action : Action) : World :=
  match w.entry? h with
  | none => w
  | some e =>
    let (id, schedule) := w.schedule.add w.now delay ⟨h, s, action⟩
    { w with schedule := schedule.cancel? e.slot }.modify h fun e => { e with slot := some id }

/-- Cancels the tasks of an engine that nobody holds any more. -/
def reap (w : World) : World :=
  if w.isAlive then w else w.handles.foldl cancelTask w

/-- Ends an operation. -/
def finish (w : World) (op : Nat) (outcome : Outcome) : World :=
  ({ w with operations := w.operations.filter (·.1 != op) }.note (.ended op outcome)).reap

/-- Takes an operation out of the queue for an entry. -/
def unlock (w : World) (op : Nat) (h : Handle) : World :=
  w.modify h fun e => { e with lock := e.lock.filter (· != op) }

/-- Installs a snapshot, or none. -/
def install (w : World) (h : Handle) (s : Option Snapshot) : World :=
  w.modify h fun e => { e with snapshot := s }

/-- Numbers a snapshot that has just arrived. -/
def mint (w : World) (lease : Lease) (data : SecretData) : Snapshot × World :=
  (⟨w.nextSnapshot, lease, data⟩, { w with nextSnapshot := w.nextSnapshot + 1 })

/-- Calls the server and waits there. -/
def call (w : World) (op : Nat) (h : Handle) (c : Call) (p : Point) : World :=
  (w.setPoint op p).note (.called op h c)

/-- Lets an entry go and ends the operation. -/
def leave (w : World) (op : Nat) (h : Handle) (outcome : Outcome) : World :=
  (w.unlock op h).finish op outcome

/-! ## Scheduling -/

/-- Asks the trigger. -/
def askTrigger (w : World) (left : Span) : Option Span × World :=
  let (delay, trigger) := w.trigger.next (w.draws w.drawn) left
  (delay, { w with
    trigger := trigger, drawn := if w.trigger.takesDraw then w.drawn + 1 else w.drawn })

/-- Whether a lease is looked after at all: it has a lifetime, and it can be renewed or its
secret is fetched again at its end. -/
def wantsCare (e : Entry) (l : Lease) : Bool := !l.ttl.isZero && (l.canRenew || e.isRotating)

/-- Schedules what is next for a snapshot: its end soon if it was granted too briefly, else
its renewal, or its end if it cannot be renewed. -/
def scheduleCare (w : World) (e : Entry) (s : Snapshot) : World :=
  if !w.isLive e then w
  else if !wantsCare e s.lease then w.cancelTask e.handle
  else if s.lease.ttl ≤ w.trigger.thresholdFor s.lease.ttl then
    w.replaceTask e.handle minimalDelay s .expire
  else
    match w.askTrigger (s.lease.remaining w.now) with
    | (none, w) => w.cancelTask e.handle
    | (some delay, w) =>
      w.replaceTask e.handle delay s (if s.lease.canRenew then .renew else .expire)

/-! ## Removing -/

/-- One of the removals that an operation waits for has ended. -/
def childEnded (w : World) (parent : Nat) : World :=
  match w.point? parent with
  | some (.joining left) =>
    if left ≤ 1 then w.finish parent .finished else w.setPoint parent (.joining (left - 1))
  | _ => w

/-- Ends a removal. -/
def endRemoval (w : World) (op : Nat) (remover : Remover) (found : Bool) : World :=
  match remover with
  | .caller => w.finish op (.removed found)
  | .registration => w.finish op (.refused .destroyed)
  | .shutdown parent => (w.finish op (.removed found)).childEnded parent

/-- With the lock in hand, takes the snapshot away and gives its lease back if it has one. -/
def takeOut (w : World) (op : Nat) (e : Entry) (remover : Remover) : World :=
  let w := w.install e.handle none
  match e.snapshot with
  | none => (w.unlock op e.handle).endRemoval op remover true
  | some s =>
    if s.lease.hasId then
      w.call op e.handle (.revoke s.lease) (.revoking e.handle s remover)
    else (w.unlock op e.handle).endRemoval op remover true

/-- Unregisters an entry and waits for its lock. -/
def remove (w : World) (op : Nat) (h : Handle) (remover : Remover) : World :=
  match w.registered? h with
  | none => w.endRemoval op remover false
  | some e =>
    let w := ((w.modify h fun e => { e with standing := .removed }).cancelTask h).updateGauge
    let w := w.modify h fun e => { e with lock := e.lock ++ [op] }
    if e.lock.isEmpty then w.takeOut op e remover
    else w.setPoint op (.queued h (.remove remover))

/-- Tells how giving a lease back went. -/
def afterRevocation (w : World) (op : Nat) (h : Handle) (s : Snapshot) (remover : Remover)
    (result : Except Fault Unit) : World :=
  match w.entry? h with
  | none => w
  | some e =>
    let w := match result with
      | .ok _ => w.publish e (.revoked s.lease)
      | .error f => w.publish e (.failed s.lease f)
    (w.unlock op h).endRemoval op remover true

/-! ## Fetching again -/

/-- With the lock in hand, fetches the secret again. -/
def fetchAgain (w : World) (op : Nat) (e : Entry) (previous : Lease) (cause : Cause) : World :=
  w.call op e.handle (.fetch e.source e.request.path) (.rotating e.handle previous cause)

/-- Ends a fetch that brought nothing: somebody who asked for it learns why; a lost secret
is gone. -/
def endFetch (w : World) (op : Nat) (e : Entry) (cause : Cause) (f : Fault) : World :=
  match cause with
  | .caller => w.leave op e.handle (.refused f)
  | .loss =>
    let w := w.cancelTask e.handle
    let w := if w.isLive e then w.install e.handle none else w
    w.leave op e.handle .finished

/-- Installs what another fetch brought, or tells that it brought nothing. -/
def afterFetch (w : World) (op : Nat) (h : Handle) (previous : Lease) (cause : Cause)
    (result : Except Fault (Option Secret)) : World :=
  match w.entry? h with
  | none => w
  | some e =>
    match result with
    | .ok (some secret) =>
      let w := w.tally (.rotation e.request.mode true)
      let (s, w) := w.mint secret.lease secret.data
      let w := w.install h (some s)
      let w := if w.isLive e then
          (w.publish e (.rotated previous s.lease s.data)).scheduleCare e s
        else w
      w.leave op h .finished
    | .ok none =>
      let w := w.tally (.rotation e.request.mode false)
      let w := if w.isLive e then w.publish e .notFound else w
      w.endFetch op e cause (.notFound e.request.path)
    | .error f =>
      let w := w.tally (.rotation e.request.mode false)
      let w := if w.isLive e then w.publish e (.failed previous f) else w
      w.endFetch op e cause f

/-- Tells that a lease is lost, and fetches its secret again if that is asked for. -/
def expire (w : World) (op : Nat) (e : Entry) (s : Snapshot) : World :=
  let w := w.publish e (.expired s.lease)
  if e.isRotating then w.fetchAgain op e s.lease .loss
  else ((w.cancelTask e.handle).install e.handle none).leave op e.handle .finished

/-! ## Renewing -/

/-- With the lock in hand, renews a lease. -/
def renew (w : World) (op : Nat) (e : Entry) (s : Snapshot) : World :=
  w.call op e.handle (.renew s.lease (w.increment.getD s.lease.ttl))
    (.renewing e.handle s w.now)

/-- Tells of a failed renewal, and retries it if the strategy keeps the lease and there is
time. -/
def afterFailure (w : World) (op : Nat) (e : Entry) (s : Snapshot) (f : Fault) : World :=
  let w := w.publish e (.failed s.lease f)
  if w.strategy.retains f then
    let left := s.lease.remaining w.now
    match w.askTrigger left with
    | (some delay, w) =>
      if delay < left then (w.replaceTask e.handle delay s .renew).leave op e.handle .finished
      else w.expire op e s
    | (none, w) => w.expire op e s
  else w.expire op e s

/-- Goes on after a renewal. -/
def afterRenewal (w : World) (op : Nat) (h : Handle) (s : Snapshot)
    (result : Except Fault Lease) : World :=
  match w.entry? h with
  | none => w
  | some e =>
    match result with
    | .ok lease =>
      let w := w.tally (.renewal .lease true)
      let (renewed, w) := w.mint lease s.data
      let w := w.install h (some renewed)
      let w := if w.isLive e then
          (w.publish e (.renewed s.lease lease)).scheduleCare e renewed
        else w
      w.leave op h .finished
    | .error f =>
      let w := w.tally (.renewal .lease false)
      if w.isLive e then w.afterFailure op e s f else w.leave op h .finished

/-! ## Registering -/

/-- Begins to look after a secret. -/
def add (w : World) (op : Nat) (request : SecretRequest) (source : String) : World :=
  if w.destroyed then w.finish op (.refused .destroyed)
  else
    let h : Handle := ⟨w.nextHandle⟩
    let e : Entry := ⟨h, request, source, none, none, [op], .pending⟩
    { w with nextHandle := w.nextHandle + 1, entries := w.entries ++ [e] }.call op h
      (.fetch source request.path) (.registering h)

/-- Forgets an entry that is not registered. -/
def forget (w : World) (h : Handle) : World :=
  { w with entries := w.entries.filter (·.handle != h) }

/-- Makes an entry known by its handle; in an engine that was shut down meanwhile it is
removed again, else `tell` goes on with it. -/
def register (w : World) (op : Nat) (e : Entry) (s : Option Snapshot) (tell : World → World) :
    World :=
  let w := (w.modify e.handle fun e =>
    { e with snapshot := s, standing := .registered }).updateGauge
  if w.destroyed then (w.unlock op e.handle).remove op e.handle .registration
  else (tell w).leave op e.handle (.registered e.handle)

/-- Goes on after the first fetch. -/
def afterFirstFetch (w : World) (op : Nat) (h : Handle)
    (result : Except Fault (Option Secret)) : World :=
  match w.entry? h with
  | none => w
  | some e =>
    match result with
    | .ok (some secret) =>
      let (s, w) := w.mint secret.lease secret.data
      w.register op e (some s) fun w =>
        (w.publish e (.created s.lease s.data)).scheduleCare { e with standing := .registered } s
    | .ok none =>
      if e.request.mode.isImmediate then
        (w.forget h).finish op (.refused (.notFound e.request.path))
      else w.register op e none fun w => w.publish e .notFound
    | .error f =>
      if e.request.mode.isImmediate then (w.forget h).finish op (.refused f)
      else w.register op e none fun w => w.publish e (.failed (Lease.absent w.now) f)

/-! ## Waiting for an entry -/

/-- Does an errand with the lock in hand. -/
def withLock (w : World) (op : Nat) (e : Entry) (errand : Errand) : World :=
  match errand with
  | .act s action =>
    if w.isLive e && e.isCurrent s then
      match action with
      | .renew => w.renew op e s
      | .expire => w.expire op e s
    else w.leave op e.handle .finished
  | .rotate =>
    if w.isLive e then
      w.fetchAgain op e (match e.snapshot with
        | some s => s.lease
        | none => Lease.absent w.now) .caller
    else w.leave op e.handle (.refused (.notFound e.handle.text))
  | .remove remover => w.takeOut op e remover

/-- Queues up for an entry, and does the errand at once if nobody holds it. -/
def want (w : World) (op : Nat) (e : Entry) (errand : Errand) : World :=
  let w := w.modify e.handle fun e => { e with lock := e.lock ++ [op] }
  if e.lock.isEmpty then w.withLock op e errand
  else w.setPoint op (.queued e.handle errand)

/-- Fetches a registered secret again. -/
def rotate (w : World) (op : Nat) (h : Handle) : World :=
  if w.destroyed then w.finish op (.refused .destroyed)
  else
    match w.registered? h with
    | none => w.finish op (.refused (.notFound h.text))
    | some e => w.want op e .rotate

/-! ## Shutting down -/

/-- Makes room for a new operation. -/
def enroll (w : World) : Nat × World :=
  (w.nextOperation, { w with nextOperation := w.nextOperation + 1 })

/-- Makes room for one of the removals of a shutdown. -/
def enrollRemoval (parent : Nat) (w : World) (h : Handle) : World :=
  let (op, w) := w.enroll
  w.setPoint op (.opening h parent)

/-- Shuts the engine down, the first time it is asked to. -/
def destroy (w : World) (op : Nat) : World :=
  if w.destroyed then w.finish op .finished
  else
    let w := { w with destroyed := true }
    match w.handles with
    | [] => w.finish op .finished
    | hs => hs.foldl (enrollRemoval op) (w.setPoint op (.joining hs.length))

/-! ## Steps -/

/-- Begins what somebody asked for. -/
def begin (w : World) (r : Request) : World :=
  let (op, w) := w.enroll
  match r with
  | .add request source => w.add op request source
  | .remove h => w.remove op h .caller
  | .rotate h => w.rotate op h
  | .destroy => w.destroy op

/-- Runs the job of a task that has been started; an engine that nobody holds does nothing. -/
def run (w : World) (job : Job) : World :=
  if w.isAlive then
    match w.entry? job.handle with
    | none => w
    | some e =>
      let (op, w) := w.enroll
      w.want op e (.act job.snapshot job.action)
  else w

/-- Starts the task of that number, if its time has come. -/
def fire (w : World) (id : Nat) : Option World :=
  match w.schedule.startDue w.now id with
  | (none, _) => none
  | (some t, schedule) => some ({ w with schedule := schedule }.run t.job)

/-- Starts the oldest task that can still start. -/
def fireNext (w : World) : Option World :=
  match w.schedule.startNext with
  | (none, _) => none
  | (some t, schedule) => some ({ w with schedule := schedule }.run t.job)

/-- Goes on with the operation to which the lock of its entry has been handed. -/
def enter (w : World) (op : Nat) : Option World :=
  match w.point? op with
  | some (.queued h errand) =>
    match w.entry? h with
    | some e => if e.lock.head? = some op then some (w.withLock op e errand) else none
    | none => none
  | _ => none

/-- Goes on with a removal of a shutdown. -/
def openNext (w : World) (op : Nat) : Option World :=
  match w.point? op with
  | some (.opening h parent) => some (w.remove op h (.shutdown parent))
  | _ => none

/-- Goes on with the operation whose call has been answered. -/
def answer (w : World) (op : Nat) (r : Reply) : Option World :=
  match w.point? op, r with
  | some (.registering h), .fetched result => some (w.afterFirstFetch op h result)
  | some (.rotating h previous cause), .fetched result =>
    some (w.afterFetch op h previous cause result)
  | some (.renewing h s _), .renewal result => some (w.afterRenewal op h s result)
  | some (.revoking h s remover), .revocation result =>
    some (w.afterRevocation op h s remover result)
  | _, _ => none

/-- Whether no task is left behind when the clock shows that instant. -/
def isPunctual (w : World) (t : Instant) : Bool :=
  match w.schedule.discipline with
  | .manual => true
  | .timed => w.schedule.live.all fun task => decide (t ≤ task.due)

/-- Lets time pass. -/
def elapse (w : World) (t : Instant) : Option World :=
  if w.now ≤ t ∧ w.isPunctual t = true then some { w with now := t } else none

/-- The last holder outside lets go. -/
def release (w : World) : World := { w with held := false }.reap

/-- Stops the clock's scheduler. -/
def stop (w : World) : World := { w with schedule := w.schedule.stop }

/-- Registers an observer and tells its number. -/
def listen (w : World) (channel : Channel) (o : Observer) : Nat × World :=
  let (id, listeners) := w.audience.listeners.add channel o
  (id, { w with audience := { w.audience with listeners := listeners } })

/-- Takes an observer off a channel. -/
def unlisten (w : World) (channel : Channel) (id : Nat) : Bool × World :=
  let (found, listeners) := w.audience.listeners.remove channel id
  (found, { w with audience := { w.audience with listeners := listeners } })

end World

/-- What may happen next. -/
inductive Move where
  | begin (request : Request)
  | fire (task : Nat)
  | fireNext
  | enter (operation : Nat)
  | openNext (operation : Nat)
  | answer (operation : Nat) (reply : Reply)
  | elapse (instant : Instant)
  | release
  | stop
  | listen (channel : Channel) (observer : Observer)
  | unlisten (channel : Channel) (id : Nat)

/-- One step of a lease engine; there is none where the move does not fit. -/
def step (w : World) : Move → Option World
  | .begin r => if w.held then some (w.begin r) else none
  | .fire id => if w.schedule.discipline = .timed then w.fire id else none
  | .fireNext => if w.schedule.discipline = .manual then w.fireNext else none
  | .enter op => w.enter op
  | .openNext op => w.openNext op
  | .answer op r => w.answer op r
  | .elapse t => w.elapse t
  | .release => some w.release
  | .stop => some w.stop
  | .listen channel o => some (w.listen channel o).2
  | .unlisten channel id => some (w.unlisten channel id).2

/-- A run of steps. -/
def run? (w : World) : List Move → Option World
  | [] => some w
  | m :: ms => (step w m).bind fun w => run? w ms

end LeaseKeeper.Leases
