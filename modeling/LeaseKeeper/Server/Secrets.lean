import LeaseKeeper.Leases.Step
import LeaseKeeper.Server.Wire
import LeaseKeeper.Credential

/-!
# Secrets of the server

How a lease engine's calls reach the server. A lease without an identifier is unknown
there: it cannot be renewed, and there is nothing to give back (`early?`). Every other
call is made with a token, and fails as the token does if there is none (`denied`).
-/

namespace LeaseKeeper.Server

open Leases (Call Reply)

/-! ## Bodies -/

/-- The fields of a lease. -/
def leaseShape : Json.Shape :=
  [("lease_id", .defaulted), ("lease_duration", .defaulted), ("renewable", .defaulted)]

/-- Reads a lease granted now. -/
def readLease? (now : Instant) (j : Json) : Option Lease := do
  match ← Json.fields? leaseShape j with
  | [id, seconds, renewable] =>
    let id ← Json.orDefault "" Json.text? id
    let ttl := Span.ofSeconds (← Json.orDefault 0 Json.word? seconds)
    let renewable ← Json.orDefault false Json.bool? renewable
    pure (if id.isEmpty then Lease.ofTtl now ttl else Lease.granted now id ttl renewable)
  | _ => none

/-- Reads a secret with its lease, both in one object. -/
def readSecret? (now : Instant) (j : Json) : Option Secret := do
  let ms ← j.members?
  let lease ← readLease? now (.object ms)
  let data ← Json.orDefault none (Json.nullable Json.members?) (ms.lookup "data")
  pure ⟨data.getD [], lease⟩

/-- What a fetch came to; nothing there is no fault. -/
def readFetch (now : Instant) (r : Except Fault (Option Json)) : Except Fault (Option Secret) :=
  match r with
  | .error (.notFound _) => .ok none
  | .error f => .error f
  | .ok none => .ok none
  | .ok (some j) =>
    match readSecret? now j with
    | some s => .ok (some s)
    | none => .error unreadable

/-! ## Calls -/

/-- Fetches a secret. -/
def fetchSecret (c : Connection) (now : Instant) (cred : Credential) (path : String) :
    Attempt (Option Secret) :=
  (ask c "GET" path cred.token.expose none).andThen (readFetch now)

/-- Renews a lease. -/
def renewLease (c : Connection) (now : Instant) (cred : Credential) (lease : Lease)
    (increment : Span) : Attempt Lease :=
  (ask c "PUT" "sys/leases/renew" cred.token.expose
    (some (.object [("lease_id", .text lease.id), ("increment", .nat increment.asSeconds)]))).andThen
    fun r => r.bind (decode "lease renewal" (readLease? now))

/-- Gives a lease back. -/
def revokeLease (c : Connection) (cred : Credential) (lease : Lease) : Attempt Unit :=
  (ask c "PUT" "sys/leases/revoke" cred.token.expose
    (some (.object [("lease_id", .text lease.id)]))).andThen fun r => r.map fun _ => ()

/-- The reply to a call that needs no token. -/
def early? : Call → Option Reply
  | .fetch _ _ => none
  | .renew lease _ =>
    if lease.hasId then none
    else some (.renewal (.error (.internal "Cannot renew a secret without a lease id")))
  | .revoke lease => if lease.hasId then none else some (.revocation (.ok ()))

/-- The reply to a call for which there is no token. -/
def denied (f : Fault) : Call → Reply
  | .fetch _ _ => .fetched (.error f)
  | .renew _ _ => .renewal (.error f)
  | .revoke _ => .revocation (.error f)

/-- Makes a call with a token. -/
def attempt (c : Connection) (now : Instant) (cred : Credential) : Call → Attempt Reply
  | .fetch _ path => (fetchSecret c now cred path).andThen fun r => .ok (.fetched r)
  | .renew lease increment =>
    (renewLease c now cred lease increment).andThen fun r => .ok (.renewal r)
  | .revoke lease => (revokeLease c cred lease).andThen fun r => .ok (.revocation r)

/-! ## Written forms -/

/-- Who makes calls on a connection, on one line: the address is all that is shown of it. -/
def renderCaller (name : String) (c : Connection) : String :=
  Text.record name [("http", Text.record "VaultHttp" [("address", Text.quote c.address)])]

/-- Who renews and revokes leases, on one line. -/
def renderLeaseCaller (c : Connection) : String := renderCaller "VaultLeaseTransport" c

/-- Who fetches secrets, on one line. -/
def renderFetcher (c : Connection) : String := renderCaller "VaultSecretFetcher" c

end LeaseKeeper.Server
