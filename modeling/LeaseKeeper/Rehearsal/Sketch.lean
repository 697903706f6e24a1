import LeaseKeeper.Credential
import LeaseKeeper.Secret

/-!
# Sketches

Credentials, leases and secrets as a script describes them: without the instant at which
they are issued. That is the instant at which the sketch is carried out.
-/

namespace LeaseKeeper.Rehearsal

/-- A credential to be issued. -/
structure CredentialSketch where
  origin : Origin
  token : String
  ttl : Span
  renewable : Bool
  metadata : List (String × String)
deriving Inhabited

/-- Issues the credential. -/
def CredentialSketch.issue (s : CredentialSketch) (now : Instant) : Credential :=
  s.metadata.foldl (fun c n => c.withNote n.1 n.2)
    ⟨⟨s.token⟩, s.ttl, s.renewable, now, s.origin, []⟩

/-- A lease to be granted. -/
inductive LeaseSketch where
  | absent
  | ttl (ttl : Span)
  | full (id : String) (ttl : Span) (renewable : Bool)
deriving Inhabited

/-- Grants the lease. -/
def LeaseSketch.grant (now : Instant) : LeaseSketch → Lease
  | absent => Lease.absent now
  | ttl t => Lease.ofTtl now t
  | full id t renewable => Lease.granted now id t renewable

/-- A secret to be served. -/
structure SecretSketch where
  data : SecretData
  lease : LeaseSketch
deriving Inhabited

/-- Serves the secret. -/
def SecretSketch.serve (s : SecretSketch) (now : Instant) : Secret := ⟨s.data, s.lease.grant now⟩

end LeaseKeeper.Rehearsal
