import LeaseKeeper.Credential
import LeaseKeeper.Fault
import LeaseKeeper.Handle
import LeaseKeeper.Log
import LeaseKeeper.Secret

/-!
# Events

What a session tells about its credentials (`SessionEvent`) and a lease engine about its
secrets (`LeaseEvent`). An event is an error or it is not; which it is decides who hears
it. Every event has a name, used in log lines and metrics, and a log line of its own.
-/

namespace LeaseKeeper

/-- A credential as an engine holds it. Two grants are the same only if their serial
numbers are, however alike their credentials. -/
structure Grant where
  serial : Nat
  credential : Credential
deriving DecidableEq, Inhabited

/-- What happened to a session's credential. -/
inductive SessionEvent where
  /-- A login installed it. -/
  | created (grant : Grant)
  /-- It took the place of the one it renews. -/
  | renewed (grant : Grant)
  /-- Something failed, the named credential being concerned if there is one. -/
  | failed (fault : Fault) (grant : Option Grant)
  /-- It was dropped because it cannot be renewed any more. -/
  | loginTokenExpired (grant : Grant)
  /-- It was revoked. -/
  | revoked (grant : Grant)
deriving DecidableEq

namespace SessionEvent

/-- Whether the error listeners hear it. -/
def isError : SessionEvent → Bool
  | failed _ _ => true
  | _ => false

/-- The name of an event. -/
def kind : SessionEvent → String
  | created _ => "created"
  | renewed _ => "renewed"
  | failed _ _ => "error"
  | loginTokenExpired _ => "login_token_expired"
  | revoked _ => "revoked"

/-- The grant an event is about. -/
def grant? : SessionEvent → Option Grant
  | created g => some g
  | renewed g => some g
  | failed _ g => g
  | loginTokenExpired g => some g
  | revoked g => some g

/-- The credential an event is about. -/
def credential? (e : SessionEvent) : Option Credential := e.grant?.map Grant.credential

/-- The failure that an event tells of. -/
def fault? : SessionEvent → Option Fault
  | failed f _ => some f
  | _ => none

/-- Whole seconds in digits. -/
def seconds (s : Span) : String := toString s.asSeconds

/-- The line about an event. -/
def logLine (now : Instant) : SessionEvent → LogLine
  | created g =>
    ⟨.info, "Vault session established", [("kind", g.credential.origin.name),
      ("ttl_secs", seconds g.credential.ttl), ("renewable", Text.truth g.credential.renewable)]⟩
  | renewed g => ⟨.debug, "Vault token renewed", [("ttl_secs", seconds g.credential.ttl)]⟩
  | failed f _ =>
    ⟨.warn, "Vault session error", [("error", f.message), ("error_kind", f.kind)]⟩
  | loginTokenExpired g =>
    ⟨.warn, "Vault login token expired and was dropped",
      [("remaining_secs", seconds (g.credential.remaining now))]⟩
  | revoked _ => ⟨.info, "Vault token revoked", []⟩

end SessionEvent

/-- What happened to a secret. -/
inductive LeaseChange where
  /-- It was registered and fetched. -/
  | created (lease : Lease) (data : SecretData)
  /-- Its lease was extended. -/
  | renewed (previous lease : Lease)
  /-- It was fetched again. -/
  | rotated (previous lease : Lease) (data : SecretData)
  /-- Its lease is lost. -/
  | expired (lease : Lease)
  /-- Something failed while it had that lease. -/
  | failed (lease : Lease) (fault : Fault)
  /-- There is no secret at its path. -/
  | notFound
  /-- Its lease was given back. -/
  | revoked (lease : Lease)

/-- An event about one registered secret. -/
structure LeaseEvent where
  handle : Handle
  path : String
  change : LeaseChange

namespace LeaseChange

/-- Whether the error listeners hear it. -/
def isError : LeaseChange → Bool
  | failed _ _ => true
  | _ => false

/-- The name of an event. -/
def kind : LeaseChange → String
  | created _ _ => "created"
  | renewed _ _ => "renewed"
  | rotated _ _ _ => "rotated"
  | expired _ => "expired"
  | failed _ _ => "error"
  | notFound => "not_found"
  | revoked _ => "revoked"

/-- The lease an event is about; the new one where there are two. -/
def lease? : LeaseChange → Option Lease
  | created l _ => some l
  | renewed _ l => some l
  | rotated _ l _ => some l
  | expired l => some l
  | failed l _ => some l
  | notFound => none
  | revoked l => some l

/-- The lease before the event, where there are two. -/
def previous? : LeaseChange → Option Lease
  | renewed p _ => some p
  | rotated p _ _ => some p
  | _ => none

/-- The data that came with the event. -/
def data? : LeaseChange → Option SecretData
  | created _ d => some d
  | rotated _ _ d => some d
  | _ => none

/-- The failure that an event tells of. -/
def fault? : LeaseChange → Option Fault
  | failed _ f => some f
  | _ => none

end LeaseChange

namespace LeaseEvent

/-- Whether the error listeners hear it. -/
def isError (e : LeaseEvent) : Bool := e.change.isError

/-- The name of an event. -/
def kind (e : LeaseEvent) : String := e.change.kind

/-- The line about an event. -/
def logLine (e : LeaseEvent) : LogLine :=
  let path := ("path", e.path)
  match e.change with
  | .created l _ => ⟨.info, "Secret lease created", [path, ("lease", l.display)]⟩
  | .renewed _ l => ⟨.debug, "Secret lease renewed", [path, ("lease", l.display)]⟩
  | .rotated p l _ =>
    ⟨.info, "Secret rotated", [path, ("previous", p.display), ("lease", l.display)]⟩
  | .expired l => ⟨.warn, "Secret lease expired", [path, ("lease", l.display)]⟩
  | .failed l f =>
    ⟨.warn, "Secret lease error",
      [path, ("lease", l.display), ("error", f.message), ("error_kind", f.kind)]⟩
  | .notFound => ⟨.warn, "Secret not found", [path]⟩
  | .revoked l => ⟨.info, "Secret lease revoked", [path, ("lease", l.display)]⟩

end LeaseEvent

end LeaseKeeper
