import LeaseKeeper.Leases.Step
import LeaseKeeper.Server.Secrets
import LeaseKeeper.Server.Tokens
import LeaseKeeper.Session.Step

/-!
# Keepers

A session and a lease engine against one server. The calls of the lease engine are made
with the session's token: a call first asks the session (`Link.asking`), and is with the
server once the token is there (`Link.sent`). A shutdown ends the lease engine, then the
session, then the schedules, each when the one before has ended (`Closing`).
-/

namespace LeaseKeeper.Keeper

/-- How far a call of the lease engine has come. -/
inductive Link where
  /-- An operation of the session is to bring a token. -/
  | asking (operation : Nat)
  /-- The call is with the server, made with that credential. -/
  | sent (credential : Credential)
deriving DecidableEq

/-- How far a shutdown has come. -/
inductive Closing where
  /-- That operation ends the lease engine. -/
  | leases (operation : Nat)
  /-- That operation ends the session. -/
  | session (operation : Nat)
deriving DecidableEq, Repr

/-- A session and a lease engine. -/
structure World where
  config : Config
  connection : Connection
  session : Session.World
  leases : Leases.World
  /-- The calls of the lease engine, by operation. -/
  links : List (Nat × Link)
  /-- The shutdowns under way, oldest first. -/
  closings : List Closing

/-- The name of the program. -/
def appName : String := "vault-lifecycle"

/-- The version of the program. -/
def version : String := "0.1.0"

namespace World

/-- Counts every event of a session. -/
def watchSession (w : Session.World) : Session.World :=
  ((w.listen .regular ⟨"metrics", .measure⟩).2.listen .errors ⟨"metrics", .measure⟩).2

/-- Counts every event of a lease engine. -/
def watchLeases (w : Leases.World) : Leases.World :=
  ((w.listen .regular ⟨"metrics", .measure⟩).2.listen .errors ⟨"metrics", .measure⟩).2

/-- The fault of a configuration whose trigger does not exist. -/
def noTrigger : Fault := .config "The lead time is too long"

/-- What a session is built with. -/
def sessionSettings (c : SessionConfig) (method : LoginMethod) :
    Except Fault Session.Settings :=
  match c.trigger? with
  | some t => .ok ⟨.fixed t, c.selfLookup, method.canLogInAgain⟩
  | none => .error noTrigger

/-- What a lease engine is built with. -/
def leaseSettings (c : LeaseConfig) : Except Fault Leases.Settings :=
  match c.trigger? with
  | some t => .ok ⟨.fixed t, c.strategy, c.increment?⟩
  | none => .error noTrigger

/-- Builds a keeper, if its configuration and its connection can be used. -/
def build (config : Config) (connection : Connection) (method : LoginMethod)
    (draws : Nat → Nat) : Except Fault World := do
  config.validate
  connection.validate
  let session := Session.World.initial (← sessionSettings config.session method) .timed draws
  let leases := Leases.World.initial (← leaseSettings config.lease) .timed draws
  let watched := config.observability.enableMetrics
  pure {
    config := config
    connection := connection
    session := if watched then watchSession session else session
    leases := if watched then watchLeases leases else leases
    links := []
    closings := [] }

/-- How far a call of the lease engine has come. -/
def link? (w : World) (op : Nat) : Option Link := w.links.lookup op

/-- Notes how far a call has come. -/
def setLink (w : World) (op : Nat) (l : Link) : World :=
  { w with links := (op, l) :: w.links.filter (·.1 != op) }

/-- Forgets a call that is over. -/
def unlink (w : World) (op : Nat) : World := { w with links := w.links.filter (·.1 != op) }

/-- Everything that was counted. -/
def metrics (w : World) : Metrics := w.session.audience.metrics.joined w.leases.audience.metrics

/-- The keeper on one line. -/
def render (w : World) : String :=
  Text.record "VaultLifecycle" [("address", Text.quote w.connection.address),
    ("session", w.session.render), ("leases", w.leases.render)]

end World

end LeaseKeeper.Keeper
