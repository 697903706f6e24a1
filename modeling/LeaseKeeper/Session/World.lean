import LeaseKeeper.Audience
import LeaseKeeper.Event
import LeaseKeeper.Schedule
import LeaseKeeper.Trigger

/-!
# Sessions

The state of a session: the installed credential, the task that will renew or expire it,
the lock that a login is made under, and the operations under way. An operation runs from
one remote call, or from one wait for the lock, to the next; where it stands in between is
its `Point`. The lock is a queue: the operation at its head holds it, and hands it to the
next when it ends.
-/

namespace LeaseKeeper.Session

/-- What a scheduled task does. -/
inductive Job where
  /-- Renews that grant, if it is still installed. -/
  | renew (grant : Grant)
  /-- Drops that grant, if it is still installed. -/
  | expire (grant : Grant)
deriving DecidableEq

/-- The grant that a job is aimed at. -/
def Job.grant : Job → Grant
  | .renew g => g
  | .expire g => g

/-- Why a credential is being acquired. -/
inductive Purpose where
  /-- Somebody asked for it. -/
  | caller
  /-- A renewal failed for good. -/
  | relogin
deriving DecidableEq, Repr

/-- Where an operation stands while others run. -/
inductive Point where
  /-- Waits for the lock; `observed` logins had finished when it began to. -/
  | queued (observed : Nat) (purpose : Purpose)
  /-- Holds the lock; the login is with the server. -/
  | loggingIn (purpose : Purpose) (since : Instant)
  /-- Holds the lock; the server is asked about the token. -/
  | lookingUp (purpose : Purpose) (credential : Credential)
  /-- Holds the lock; the token of a login that came too late is given back. -/
  | discarding (purpose : Purpose) (grant : Grant)
  /-- The renewal is with the server. -/
  | renewing (grant : Grant) (since : Instant)
  /-- The token is given back. -/
  | revoking (grant : Grant)
deriving DecidableEq

/-- How an operation ended. -/
inductive Outcome where
  | granted (grant : Grant)
  | refused (fault : Fault)
  | finished
deriving DecidableEq

/-- A call to the server. -/
inductive Call where
  | login
  | lookup (credential : Credential)
  | renew (grant : Grant)
  | revoke (grant : Grant)
deriving DecidableEq

/-- The call that an operation waits for at a point. -/
def Point.call? : Point → Option Call
  | .queued _ _ => none
  | .loggingIn _ _ => some .login
  | .lookingUp _ c => some (.lookup c)
  | .discarding _ g => some (.revoke g)
  | .renewing g _ => some (.renew g)
  | .revoking g => some (.revoke g)

/-- Something that happened in a session. -/
inductive Happening where
  /-- An event was published while that grant was installed. -/
  | published (event : SessionEvent) (installed : Option Grant)
  /-- An operation called the server. -/
  | called (operation : Nat) (call : Call)
  /-- An operation ended. -/
  | ended (operation : Nat) (outcome : Outcome)
deriving DecidableEq

/-- What a session is built with. -/
structure Settings where
  trigger : Trigger
  /-- Whether the server is asked about tokens of unknown lifetime. -/
  selfLookup : Bool
  /-- Whether a lost token can be replaced by a new login. -/
  canLogInAgain : Bool
deriving Inhabited

/-- What a session shows of itself. -/
inductive Status where
  | unauthenticated
  | authenticated
  | destroyed
deriving DecidableEq, Inhabited, Repr

namespace Status

/-- The label of a status. -/
def name : Status → String
  | unauthenticated => "unauthenticated"
  | authenticated => "authenticated"
  | destroyed => "destroyed"

/-- The status on one line of a larger value. -/
def render : Status → String
  | unauthenticated => "Unauthenticated"
  | authenticated => "Authenticated"
  | destroyed => "Destroyed"

end Status

/-- What an observer sees of a session. -/
structure View where
  status : Status
  credential : Option Credential

/-- A session. -/
structure World where
  now : Instant
  trigger : Trigger
  selfLookup : Bool
  canLogInAgain : Bool
  /-- The numbers that jitter is drawn from. -/
  draws : Nat → Nat
  drawn : Nat
  schedule : Schedule Job
  /-- The task that looks after the installed grant. -/
  slot : Option Nat
  current : Option Grant
  /-- The operations that want the login lock; the first one holds it. -/
  lock : List Nat
  /-- The fault of the latest login, if it failed. -/
  lastFault : Option Fault
  /-- How many logins have finished. -/
  loginsDone : Nat
  destroyed : Bool
  /-- Whether anybody outside still holds the session. -/
  held : Bool
  operations : List (Nat × Point)
  nextOperation : Nat
  nextGrant : Nat
  audience : Audience SessionEvent View
  /-- What happened, latest first. -/
  history : List Happening

namespace World

/-- A new session. -/
def initial (settings : Settings) (discipline : Discipline) (draws : Nat → Nat) : World where
  now := Instant.start
  trigger := settings.trigger
  selfLookup := settings.selfLookup
  canLogInAgain := settings.canLogInAgain
  draws := draws
  drawn := 0
  schedule := Schedule.empty discipline
  slot := none
  current := none
  lock := []
  lastFault := none
  loginsDone := 0
  destroyed := false
  held := true
  operations := []
  nextOperation := 0
  nextGrant := 0
  audience := Audience.empty
  history := []

/-- The installed grant, unless its lifetime has run out. -/
def usable? (w : World) : Option Grant :=
  w.current.filter fun g => !g.credential.isExpired w.now

/-- Whether that very grant is installed. -/
def isCurrent (w : World) (g : Grant) : Bool := w.current.any (·.serial == g.serial)

/-- What the session shows of itself. -/
def status (w : World) : Status :=
  if w.destroyed then .destroyed
  else if w.usable?.isSome then .authenticated
  else .unauthenticated

/-- What an observer sees. -/
def view (w : World) : View := ⟨w.status, w.usable?.map Grant.credential⟩

/-- Whether anybody outside or any operation still holds the session. -/
def isAlive (w : World) : Bool := w.held || !w.operations.isEmpty

/-- Where an operation stands. -/
def point? (w : World) (op : Nat) : Option Point := w.operations.lookup op

/-- Moves an operation to a point. -/
def setPoint (w : World) (op : Nat) (p : Point) : World :=
  { w with operations := (op, p) :: w.operations.filter (·.1 != op) }

/-- Notes what happened. -/
def note (w : World) (h : Happening) : World := { w with history := h :: w.history }

/-- The session on one line. -/
def render (w : World) : String :=
  Text.record "SessionEngine" [("state", w.status.render), ("trigger", w.trigger.render)]

/-- How many calls of a kind were made. -/
def calls (w : World) (p : Call → Bool) : Nat :=
  w.history.countP fun
    | .called _ c => p c
    | _ => false

/-- How an operation ended, if it has. -/
def outcome? (w : World) (op : Nat) : Option Outcome :=
  w.history.findSome? fun
    | .ended o r => if o == op then some r else none
    | _ => none

end World

end LeaseKeeper.Session
