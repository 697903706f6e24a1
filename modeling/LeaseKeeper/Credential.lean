import LeaseKeeper.SecretText
import LeaseKeeper.Span
import LeaseKeeper.Text.Quoted

/-!
# Credentials

A token with what the server said about its lifetime. A credential never changes: a
renewal makes a new one. It is permanent when it has neither a lifetime nor the right to
be renewed, and it wants renewal when it has both. `Credential.remaining` is what is left
of its lifetime; a credential whose lifetime is zero never expires.
-/

namespace LeaseKeeper

/-- Where a credential comes from. -/
inductive Origin where
  /-- A login of the session itself. -/
  | login
  /-- A token handed in from outside, of unknown lifetime until looked up. -/
  | external
deriving DecidableEq, Inhabited, Repr

/-- The label of an origin. -/
def Origin.name : Origin → String
  | .login => "login"
  | .external => "external"

/-- The origin on one line of a larger value. -/
def Origin.render : Origin → String
  | .login => "Login"
  | .external => "External"

/-- A token and what is known about its lifetime. -/
structure Credential where
  token : SecretText
  ttl : Span
  renewable : Bool
  issued : Instant
  origin : Origin
  metadata : List (String × String)
deriving DecidableEq, Inhabited

namespace Credential

/-- A credential that a login just brought. -/
def ofLogin (now : Instant) (token : String) (ttl : Span) (renewable : Bool) : Credential :=
  ⟨⟨token⟩, ttl, renewable, now, .login, []⟩

/-- A token handed in from outside. -/
def ofToken (now : Instant) (token : String) : Credential :=
  ⟨⟨token⟩, Span.zero, false, now, .external, []⟩

/-- The same token with another lifetime, counted from now. -/
def withLease (c : Credential) (now : Instant) (ttl : Span) (renewable : Bool) : Credential :=
  { c with ttl := ttl, renewable := renewable, issued := now }

/-- The same credential issued again now. -/
def reissue (c : Credential) (now : Instant) : Credential :=
  c.withLease now c.ttl c.renewable

/-- Notes something about how the token was issued; a later note replaces an earlier one. -/
def withNote (c : Credential) (key value : String) : Credential :=
  { c with metadata := c.metadata.filter (·.1 != key) ++ [(key, value)] }

/-- The credential on one line. Instants have no text of their own, and `issued` stands for that of
its issue; the notes come in whatever order their table has. -/
def render (c : Credential) (issued : String)
    (arrange : List (String × String) → List (String × String)) : String :=
  Text.record "Credential" [("token", c.token.render), ("lease_duration", c.ttl.render),
    ("renewable", Text.truth c.renewable), ("issued_at", issued), ("kind", c.origin.render),
    ("metadata", Text.mapping (arrange c.metadata))]

/-- Whether a login of the session brought the token. -/
def isLogin (c : Credential) : Bool := c.origin == .login

/-- Whether the token neither expires nor is renewed. -/
def isPermanent (c : Credential) : Bool := c.ttl.isZero && !c.renewable

/-- Whether the token has a lifetime that can be extended. -/
def wantsRenewal (c : Credential) : Bool := c.renewable && !c.ttl.isZero

/-- What is left of the lifetime. -/
def remaining (c : Credential) (now : Instant) : Span := c.ttl - now.since c.issued

/-- Whether at most `threshold` is left of the lifetime. -/
def isExpiring (c : Credential) (now : Instant) (threshold : Span) : Bool :=
  !c.ttl.isZero && decide (c.remaining now ≤ threshold)

/-- Whether the lifetime has run out. -/
def isExpired (c : Credential) (now : Instant) : Bool := c.isExpiring now Span.zero

/-- Whether lifetime and right to renew are still to be found out. -/
def isUnknown (c : Credential) : Bool := c.origin == .external && c.isPermanent

/-- Whether the notes of one are all among those of the other. -/
def notesWithin (a b : List (String × String)) : Bool :=
  a.all fun n => b.lookup n.1 == some n.2

/-- Whether two credentials are equal in every part, the order of notes left aside. -/
def same (a b : Credential) : Bool :=
  a.token == b.token && a.ttl == b.ttl && a.renewable == b.renewable && a.issued == b.issued &&
    a.origin == b.origin && notesWithin a.metadata b.metadata && notesWithin b.metadata a.metadata

theorem isExpiring_iff {c : Credential} {now : Instant} {threshold : Span} :
    c.isExpiring now threshold = true ↔ c.ttl ≠ Span.zero ∧ c.remaining now ≤ threshold := by
  have h : c.ttl.isZero = false ↔ c.ttl ≠ Span.zero := by
    rw [← Bool.not_eq_true, Span.isZero_iff]
  simp [isExpiring, h]

end Credential

/-- The answer to a question about a token's lifetime. -/
structure TokenLookup where
  ttl : Span
  renewable : Bool
deriving DecidableEq, Inhabited

end LeaseKeeper
