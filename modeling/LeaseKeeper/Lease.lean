import LeaseKeeper.Span
import LeaseKeeper.Text.Quoted

/-!
# Leases

What the server grants with a secret: an identifier to renew and revoke it by, a
lifetime, and whether it can be renewed. A lease without identifier belongs to a secret
that the server does not keep track of; it is never renewed or revoked.
-/

namespace LeaseKeeper

/-- The lease of a secret. -/
structure Lease where
  id : String
  ttl : Span
  renewable : Bool
  issued : Instant
deriving DecidableEq, Inhabited

namespace Lease

/-- A lease granted now. -/
def granted (now : Instant) (id : String) (ttl : Span) (renewable : Bool) : Lease :=
  ⟨id, ttl, renewable, now⟩

/-- The lease of a secret that has none. -/
def absent (now : Instant) : Lease := ⟨"", Span.zero, false, now⟩

/-- A lifetime without a lease. -/
def ofTtl (now : Instant) (ttl : Span) : Lease := ⟨"", ttl, false, now⟩

/-- Whether the server keeps track of the lease. -/
def hasId (l : Lease) : Bool := !l.id.isEmpty

/-- Whether the lease can be renewed: it has the right to be, and an identifier. -/
def canRenew (l : Lease) : Bool := l.hasId && l.renewable

/-- What is left of the lifetime. -/
def remaining (l : Lease) (now : Instant) : Span := l.ttl - now.since l.issued

/-- The lease in words. -/
def display (l : Lease) : String :=
  if l.hasId then l.id ++ " (" ++ toString l.ttl.asSeconds ++ "s)" else "<none>"

/-- The lease with its parts, on one line. -/
def render (l : Lease) : String :=
  if !l.hasId && l.ttl.isZero then Text.tuple "Lease" ["none"]
  else Text.record "Lease" [("id", Text.quote l.id), ("lease_duration", l.ttl.render),
    ("renewable", Text.truth l.renewable)]

end Lease

end LeaseKeeper
