import LeaseKeeper.Rehearsal.Network
import LeaseKeeper.Rehearsal.Sketch
import LeaseKeeper.Server.Secrets
import LeaseKeeper.Server.Tokens

/-!
# Rehearsing the server's calls

Single calls on a rehearsed network, each for itself. Calls about leases and secrets are
made with a token that is there or not. A breakdown is the end of all of them.
-/

namespace LeaseKeeper.Rehearsal.ServerPlay

open Server

/-- A call. -/
inductive ServerCue where
  | login (method : LoginMethod)
  | renewToken (credential : CredentialSketch) (increment : Option Span)
  | revokeToken (credential : CredentialSketch)
  | lookupToken (credential : CredentialSketch)
  | renewLease (token : Except Fault CredentialSketch) (lease : LeaseSketch) (increment : Span)
  | revokeLease (token : Except Fault CredentialSketch) (lease : LeaseSketch)
  | fetch (token : Except Fault CredentialSketch) (path : String)

/-- The result of a call. -/
inductive Result where
  | ok
  | fault (f : Fault)
  | credential (c : Credential)
  | lookup (l : TokenLookup)
  | lease (l : Lease)
  | secret (s : Option Secret)

namespace Result

/-- The result of a call that may fail. -/
def of {α : Type} (f : α → Result) : Except Fault α → Result
  | .ok a => f a
  | .error e => fault e

/-- The result of a lease engine's call. -/
def ofReply : Leases.Reply → Result
  | .fetched r => of secret r
  | .renewal r => of lease r
  | .revocation r => of (fun _ => ok) r

end Result

/-- The instant of all calls. -/
def now : Instant := Instant.start

/-- Carries an attempt over the network. -/
def carry {α : Type} (f : α → Result) (a : Attempt α) (n : Network) :
    Except Breakdown (Result × Network) :=
  (a.complete Network.send n).map fun p => (.of f p.1, p.2)

/-- Makes a lease engine's call. -/
def callWith (c : Connection) (token : Except Fault CredentialSketch) (call : Leases.Call)
    (n : Network) : Except Breakdown (Result × Network) :=
  match early? call, token with
  | some reply, _ => .ok (.ofReply reply, n)
  | none, .error f => .ok (.ofReply (denied f call), n)
  | none, .ok sketch => carry .ofReply (attempt c now (sketch.issue now) call) n

/-- Makes a call. -/
def act (c : Connection) (n : Network) : ServerCue → Except Breakdown (Result × Network)
  | .login method => carry .credential (method.login now) n
  | .renewToken cred increment =>
    carry .credential (renewToken c increment now (cred.issue now)) n
  | .revokeToken cred => carry (fun _ => .ok) (revokeToken c (cred.issue now)) n
  | .lookupToken cred => carry .lookup (lookupToken c (cred.issue now)) n
  | .renewLease token lease increment =>
    callWith c token (.renew (lease.grant now) increment) n
  | .revokeLease token lease => callWith c token (.revoke (lease.grant now)) n
  | .fetch token path => callWith c token (.fetch "" path) n

/-- What a call leaves behind. -/
structure Record where
  result : Result
  requests : List Request

/-- Makes calls one after the other. -/
def play (c : Connection) : List ServerCue → Network → Except Breakdown (List Record)
  | [], _ => .ok []
  | cue :: cues, n => do
    let (r, n) ← act c n cue
    let (requests, n) := n.take
    pure (⟨r, requests⟩ :: (← play c cues n))

end LeaseKeeper.Rehearsal.ServerPlay
