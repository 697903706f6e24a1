import LeaseKeeper.Session.World

/-!
# The steps of a session

What a session does from one wait to the next. `begin` starts an operation that somebody
asked for, `fire` and `fireNext` start a scheduled task, `enter` goes on with an operation
to which the lock was handed, and `answer` goes on when the server has answered. `step`
puts these together with what happens around the session: operations given up, time that
passes, the last holder letting go. A run of a session is any sequence of steps.
-/

namespace LeaseKeeper.Session

/-- What somebody may ask of a session. -/
inductive Request where
  /-- A usable credential. -/
  | token
  /-- To drop the credential and give it back. -/
  | revoke
  /-- To do so and stop for good. -/
  | destroy
deriving DecidableEq, Repr

/-- An answer of the server. -/
inductive Reply where
  | login (result : Except Fault Credential)
  | lookup (result : Except Fault TokenLookup)
  | renewal (result : Except Fault Credential)
  | revocation (result : Except Fault Unit)

namespace World

/-! ## Events, tasks and the lock -/

/-- Publishes an event. -/
def publish (w : World) (e : SessionEvent) : World :=
  { w.note (.published e w.current) with
    audience := w.audience.hear w.now
      { event := e, isError := e.isError, line := e.logLine w.now,
        mark := .sessionEvent e.kind, view := if w.held then some w.view else none } }

/-- Cancels the task of the installed grant. -/
def cancelTask (w : World) : World :=
  { w with schedule := w.schedule.cancel? w.slot, slot := none }

/-- Schedules a task in place of the one before. -/
def replaceTask (w : World) (delay : Span) (job : Job) : World :=
  let (id, schedule) := w.schedule.add w.now delay job
  { w with schedule := schedule.cancel? w.slot, slot := some id }

/-- Cancels the task of a session that nobody holds any more. -/
def reap (w : World) : World := if w.isAlive then w else w.cancelTask

/-- Ends an operation. -/
def finish (w : World) (op : Nat) (outcome : Outcome) : World :=
  ({ w with operations := w.operations.filter (·.1 != op) }.note (.ended op outcome)).reap

/-- Takes an operation out of the queue for the lock. -/
def unlock (w : World) (op : Nat) : World := { w with lock := w.lock.filter (· != op) }

/-- Installs another grant, or none. -/
def install (w : World) (g : Option Grant) : World := { w with current := g }

/-- Numbers a credential that has just arrived. -/
def mint (w : World) (c : Credential) : Grant × World :=
  (⟨w.nextGrant, c⟩, { w with nextGrant := w.nextGrant + 1 })

/-- Calls the server and waits there. -/
def call (w : World) (op : Nat) (c : Call) (p : Point) : World :=
  (w.setPoint op p).note (.called op c)

/-! ## Scheduling -/

/-- Whether a credential was granted for so short a time that it is not worth renewing. -/
def isBelowThreshold (w : World) (c : Credential) : Bool :=
  !c.ttl.isZero && decide (c.ttl ≤ w.trigger.thresholdFor c.ttl)

/-- Asks the trigger. -/
def askTrigger (w : World) (left : Span) : Option Span × World :=
  let (delay, trigger) := w.trigger.next (w.draws w.drawn) left
  (delay, { w with
    trigger := trigger, drawn := if w.trigger.takesDraw then w.drawn + 1 else w.drawn })

/-- The delay until the renewal of a credential, if it is to be renewed at all. -/
def renewalDelay (w : World) (c : Credential) : Option Span × World :=
  if !c.wantsRenewal || w.isBelowThreshold c then (none, w) else w.askTrigger (c.remaining w.now)

/-- Schedules what is next for a grant: its end if it was granted too briefly, else its
renewal. -/
def scheduleRenewal (w : World) (g : Grant) : World :=
  if w.destroyed then w
  else if g.credential.wantsRenewal && w.isBelowThreshold g.credential then
    w.replaceTask (g.credential.remaining w.now) (.expire g)
  else
    match w.renewalDelay g.credential with
    | (none, w) => w
    | (some delay, w) => w.replaceTask delay (.renew g)

/-! ## Acquiring a credential -/

/-- Ends an acquisition: a caller gets its result, a renewal task is done. -/
def conclude (w : World) (op : Nat) (purpose : Purpose) (result : Except Fault Grant) : World :=
  match purpose, result with
  | .caller, .ok g => w.finish op (.granted g)
  | .caller, .error f => w.finish op (.refused f)
  | .relogin, _ => w.finish op .finished

/-- Ends an acquisition that holds the lock without having logged in. -/
def leave (w : World) (op : Nat) (purpose : Purpose) (result : Except Fault Grant) : World :=
  (w.unlock op).conclude op purpose result

/-- Remembers how a login ended and lets the next operation have the lock. -/
def endLogin (w : World) (op : Nat) (purpose : Purpose) (result : Except Fault Grant) : World :=
  let fault := match result with
    | .ok _ => none
    | .error f => some f
  { w with lastFault := fault, loginsDone := w.loginsDone + 1 }.leave op purpose result

/-- Drops a grant whose lifetime ran out before it was renewed. -/
def dropExpired (w : World) : World :=
  match w.current with
  | some g =>
    if g.credential.isExpired w.now then
      ((w.install none).cancelTask).publish (.loginTokenExpired g)
    else w
  | none => w

/-- Goes on with the lock in hand: the credential that is there by now, the fault of a
login that finished meanwhile, or a login of its own. -/
def withLock (w : World) (op observed : Nat) (purpose : Purpose) : World :=
  if w.destroyed then w.leave op purpose (.error .destroyed)
  else
    match w.usable? with
    | some g => w.leave op purpose (.ok g)
    | none =>
      match if observed < w.loginsDone then w.lastFault else none with
      | some f => w.leave op purpose (.error f)
      | none =>
        let w := w.dropExpired
        w.call op .login (.loggingIn purpose w.now)

/-- Begins to acquire a credential. -/
def acquire (w : World) (op : Nat) (purpose : Purpose) : World :=
  if w.destroyed then w.conclude op purpose (.error .destroyed)
  else
    match w.usable? with
    | some g => w.conclude op purpose (.ok g)
    | none =>
      let observed := w.loginsDone
      let isFree := w.lock.isEmpty
      let w := { w with lock := w.lock ++ [op] }
      if isFree then w.withLock op observed purpose
      else w.setPoint op (.queued observed purpose)

/-- Gives a token back, if this session logged in for it; otherwise goes on with `next`. -/
def giveBack (w : World) (op : Nat) (g : Grant) (p : Point) (next : World → World) : World :=
  if g.credential.isLogin then w.call op (.revoke g) p else next w

/-- Installs what a login brought, or gives it back if the session has been shut down. -/
def welcome (w : World) (op : Nat) (purpose : Purpose) (c : Credential) : World :=
  let (g, w) := w.mint c
  if w.destroyed then
    w.giveBack op g (.discarding purpose g) fun w => w.endLogin op purpose (.error .destroyed)
  else
    (((w.install (some g)).publish (.created g)).scheduleRenewal g).endLogin op purpose (.ok g)

/-- Whether the server is asked about a token. -/
def wantsLookup (w : World) (c : Credential) : Bool := w.selfLookup && c.isUnknown

/-- Goes on after a login. -/
def afterLogin (w : World) (op : Nat) (purpose : Purpose) (since : Instant)
    (result : Except Fault Credential) : World :=
  match result with
  | .error f =>
    let w := { w with audience := { w.audience with
      metrics := w.audience.metrics.login false (w.now.since since) } }
    (w.publish (.failed f none)).endLogin op purpose (.error f)
  | .ok c =>
    let w := { w with audience := { w.audience with
      metrics := w.audience.metrics.login true (w.now.since since) } }
    if w.wantsLookup c then w.call op (.lookup c) (.lookingUp purpose c)
    else w.welcome op purpose c

/-- Goes on after a question about a token; without an answer it stays as it is. -/
def afterLookup (w : World) (op : Nat) (purpose : Purpose) (c : Credential)
    (result : Except Fault TokenLookup) : World :=
  match result with
  | .ok found => w.welcome op purpose (c.withLease w.now found.ttl found.renewable)
  | .error _ => w.welcome op purpose c

/-! ## Renewing -/

/-- Begins a renewal, unless another grant has been installed since it was scheduled. -/
def renew (w : World) (op : Nat) (g : Grant) : World :=
  if w.destroyed || !w.isCurrent g then w.finish op .finished
  else w.call op (.renew g) (.renewing g w.now)

/-- Puts a renewed grant in place of the one it renews, or drops both if it was granted too
briefly. -/
def afterSuccess (w : World) (op : Nat) (g renewed : Grant) : World :=
  if w.isBelowThreshold renewed.credential then
    if w.isCurrent g then
      (((w.install none).cancelTask).publish (.loginTokenExpired renewed)).finish op .finished
    else w.finish op .finished
  else if w.isCurrent g then
    (((w.install (some renewed)).publish (.renewed renewed)).scheduleRenewal renewed).finish op
      .finished
  else w.finish op .finished

/-- Drops a grant that cannot be renewed, and logs in again where that is possible. -/
def lose (w : World) (op : Nat) (g : Grant) : World :=
  if w.isCurrent g then
    let w := (w.install none).cancelTask
    if w.canLogInAgain then w.acquire op .relogin
    else (w.publish (.loginTokenExpired g)).finish op .finished
  else w.finish op .finished

/-- Whether a retry after `delay` comes before the end. -/
def isInTime (left : Span) : Option Span → Bool
  | some delay => decide (delay < left)
  | none => false

/-- Tells of a failed renewal, and retries it if it may succeed in time. -/
def afterFailure (w : World) (op : Nat) (g : Grant) (f : Fault) : World :=
  let w := w.publish (.failed f (some g))
  if f.isTransient then
    let left := g.credential.remaining w.now
    let (delay, w) := w.renewalDelay g.credential
    if isInTime left delay then (w.scheduleRenewal g).finish op .finished else w.lose op g
  else w.lose op g

/-- Goes on after a renewal. -/
def afterRenewal (w : World) (op : Nat) (g : Grant) (result : Except Fault Credential) : World :=
  if w.destroyed then w.finish op .finished
  else
    match result with
    | .ok c =>
      let w := { w with audience := w.audience.count (.renewal .session true) }
      let (renewed, w) := w.mint c
      w.afterSuccess op g renewed
    | .error f =>
      let w := { w with audience := w.audience.count (.renewal .session false) }
      w.afterFailure op g f

/-- Drops a grant at the end of its lifetime, if it is still installed. -/
def expire (w : World) (op : Nat) (g : Grant) : World :=
  if w.destroyed || !w.isCurrent g then w.finish op .finished
  else ((w.install none).publish (.loginTokenExpired g)).finish op .finished

/-! ## Giving back -/

/-- Takes the installed grant away and gives it back. -/
def revoke (w : World) (op : Nat) : World :=
  let taken := w.current
  let w := w.cancelTask.install none
  match taken with
  | none => w.finish op .finished
  | some g => w.giveBack op g (.revoking g) fun w => w.finish op .finished

/-- Shuts the session down, the first time it is asked to. -/
def destroy (w : World) (op : Nat) : World :=
  if w.destroyed then w.finish op .finished else { w with destroyed := true }.revoke op

/-- Tells how giving a token back went. -/
def tellRevocation (w : World) (g : Grant) (result : Except Fault Unit) : World :=
  match result with
  | .ok _ => w.publish (.revoked g)
  | .error f => w.publish (.failed f (some g))

/-! ## Steps -/

/-- Makes room for a new operation. -/
def enroll (w : World) : Nat × World :=
  (w.nextOperation, { w with nextOperation := w.nextOperation + 1 })

/-- Begins what somebody asked for. -/
def begin (w : World) (r : Request) : World :=
  let (op, w) := w.enroll
  match r with
  | .token => w.acquire op .caller
  | .revoke => w.revoke op
  | .destroy => w.destroy op

/-- Runs the job of a task that has been started; a session that nobody holds does nothing. -/
def run (w : World) (job : Job) : World :=
  if w.isAlive then
    let (op, w) := w.enroll
    match job with
    | .renew g => w.renew op g
    | .expire g => w.expire op g
  else w

/-- Starts the task of that number, if its time has come. -/
def fire (w : World) (id : Nat) : Option World :=
  match w.schedule.startDue w.now id with
  | (none, _) => none
  | (some t, schedule) => some ({ w with schedule := schedule }.run t.job)

/-- Starts the oldest task that can still start. -/
def fireNext (w : World) : Option World :=
  match w.schedule.startNext with
  | (none, _) => none
  | (some t, schedule) => some ({ w with schedule := schedule }.run t.job)

/-- Goes on with the operation to which the lock has been handed. -/
def enter (w : World) (op : Nat) : Option World :=
  match w.lock.head?, w.point? op with
  | some holder, some (.queued observed purpose) =>
    if holder = op then some (w.withLock op observed purpose) else none
  | _, _ => none

/-- Goes on with the operation whose call has been answered. -/
def answer (w : World) (op : Nat) (r : Reply) : Option World :=
  match w.point? op, r with
  | some (.loggingIn purpose since), .login result => some (w.afterLogin op purpose since result)
  | some (.lookingUp purpose c), .lookup result => some (w.afterLookup op purpose c result)
  | some (.discarding purpose g), .revocation result =>
    some ((w.tellRevocation g result).endLogin op purpose (.error .destroyed))
  | some (.renewing g _), .renewal result => some (w.afterRenewal op g result)
  | some (.revoking g), .revocation result =>
    some ((w.tellRevocation g result).finish op .finished)
  | _, _ => none

/-- Gives up an operation where it stands, and its place in the queue for the lock. -/
def abandon (w : World) (op : Nat) : Option World :=
  match w.point? op with
  | none => none
  | some _ =>
    some ({ w.unlock op with operations := w.operations.filter (·.1 != op) }.reap)

/-- Whether no task is left behind when the clock shows that instant. -/
def isPunctual (w : World) (t : Instant) : Bool :=
  match w.schedule.discipline with
  | .manual => true
  | .timed => w.schedule.live.all fun task => decide (t ≤ task.due)

/-- Lets time pass. -/
def elapse (w : World) (t : Instant) : Option World :=
  if w.now ≤ t ∧ w.isPunctual t = true then some { w with now := t } else none

/-- The last holder outside lets go. -/
def release (w : World) : World := { w with held := false }.reap

/-- Stops the clock's scheduler. -/
def stop (w : World) : World := { w with schedule := w.schedule.stop }

/-- Registers an observer and tells its number. -/
def listen (w : World) (channel : Channel) (o : Observer) : Nat × World :=
  let (id, listeners) := w.audience.listeners.add channel o
  (id, { w with audience := { w.audience with listeners := listeners } })

/-- Takes an observer off a channel. -/
def unlisten (w : World) (channel : Channel) (id : Nat) : Bool × World :=
  let (found, listeners) := w.audience.listeners.remove channel id
  (found, { w with audience := { w.audience with listeners := listeners } })

end World

/-- What may happen next. -/
inductive Move where
  | begin (request : Request)
  | fire (task : Nat)
  | fireNext
  | enter (operation : Nat)
  | answer (operation : Nat) (reply : Reply)
  | abandon (operation : Nat)
  | elapse (instant : Instant)
  | release
  | stop
  | listen (channel : Channel) (observer : Observer)
  | unlisten (channel : Channel) (id : Nat)

/-- One step of a session; there is none where the move does not fit. -/
def step (w : World) : Move → Option World
  | .begin r => if w.held then some (w.begin r) else none
  | .fire id => if w.schedule.discipline = .timed then w.fire id else none
  | .fireNext => if w.schedule.discipline = .manual then w.fireNext else none
  | .enter op => w.enter op
  | .answer op r => w.answer op r
  | .abandon op => w.abandon op
  | .elapse t => w.elapse t
  | .release => some w.release
  | .stop => some w.stop
  | .listen channel o => some (w.listen channel o).2
  | .unlisten channel id => some (w.unlisten channel id).2

/-- A run of steps. -/
def run? (w : World) : List Move → Option World
  | [] => some w
  | m :: ms => (step w m).bind fun w => run? w ms

end LeaseKeeper.Session
