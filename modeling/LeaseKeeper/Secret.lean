import LeaseKeeper.Json.Basic
import LeaseKeeper.Lease

/-!
# Secrets

The data of a secret, by key, with the lease that came with it.
-/

namespace LeaseKeeper

/-- The data of a secret. -/
abbrev SecretData := List (String × Json)

/-- A fetched secret. -/
structure Secret where
  data : SecretData
  lease : Lease
deriving Inhabited

namespace Secret

/-- A secret without a lease. -/
def leaseless (now : Instant) (data : SecretData) : Secret := ⟨data, Lease.absent now⟩

/-- The value under a key, if it is a text. -/
def text? (s : Secret) (key : String) : Option String := (s.data.lookup key).bind Json.text?

end Secret

end LeaseKeeper
