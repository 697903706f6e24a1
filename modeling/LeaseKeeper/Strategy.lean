import LeaseKeeper.Fault
import LeaseKeeper.Json.Fields

/-!
# Strategies and modes

What becomes of a lease whose renewal failed (`Strategy`), and how a registered secret is
looked after (`Mode`).
-/

namespace LeaseKeeper

/-- What becomes of a lease whose renewal failed. -/
inductive Strategy where
  /-- Every failure ends the lease. -/
  | dropOnError
  /-- A transient failure leaves the lease; it is tried again on the next cycle. -/
  | retainOnTransientError
deriving DecidableEq, Inhabited, Repr

namespace Strategy

/-- The label of a strategy. -/
def name : Strategy → String
  | dropOnError => "drop-on-error"
  | retainOnTransientError => "retain-on-transient-error"

/-- The strategy on one line of a larger value. -/
def render : Strategy → String
  | dropOnError => "DropOnError"
  | retainOnTransientError => "RetainOnTransientError"

/-- Whether the lease survives that failure. -/
def retains : Strategy → Fault → Bool
  | dropOnError, _ => false
  | retainOnTransientError, f => f.isTransient

/-- Reads a strategy by its label; blanks around it, capitals and underscores for hyphens
are accepted. -/
def parse (s : String) : Except Fault Strategy :=
  let word := Text.lower (Text.trim s)
  if word = "drop-on-error" ∨ word = "drop_on_error" then .ok dropOnError
  else if word = "retain-on-transient-error" ∨ word = "retain_on_transient_error" then
    .ok retainOnTransientError
  else .error (.config ("Unknown lease strategy '" ++ word ++ "'"))

/-- A strategy from a document, by its exact label. -/
def ofJson? (j : Json) : Option Strategy := do
  let word ← Json.choice? j
  if word = "drop-on-error" then some dropOnError
  else if word = "retain-on-transient-error" then some retainOnTransientError
  else none

/-- The strategy in a document. -/
def toJson (s : Strategy) : Json := .text s.name

end Strategy

/-- How a registered secret is looked after. -/
inductive Mode where
  /-- Its lease is renewed; once lost, the secret is gone. -/
  | renewable
  /-- Its lease is renewed; once lost, the secret is fetched again. -/
  | rotating
  /-- As renewable, but without a first fetch it is not registered at all. -/
  | immediate
deriving DecidableEq, Inhabited, Repr

namespace Mode

/-- The label of a mode. -/
def name : Mode → String
  | renewable => "renewable"
  | rotating => "rotating"
  | immediate => "immediate"

/-- The mode on one line of a larger value. -/
def render : Mode → String
  | renewable => "Renewable"
  | rotating => "Rotating"
  | immediate => "Immediate"

/-- Whether a lost secret is fetched again. -/
def isRotating (m : Mode) : Bool := m == rotating

/-- Whether registration needs the first fetch to succeed. -/
def isImmediate (m : Mode) : Bool := m == immediate

/-- A mode from a document, by its label. -/
def ofJson? (j : Json) : Option Mode := do
  let word ← Json.choice? j
  if word = "renewable" then some renewable
  else if word = "rotating" then some rotating
  else if word = "immediate" then some immediate
  else none

/-- The mode in a document. -/
def toJson (m : Mode) : Json := .text m.name

end Mode

/-- A path to look after, and how. -/
structure SecretRequest where
  path : String
  mode : Mode
deriving DecidableEq, Inhabited, Repr

/-- The request with the parts that can be shown, on one line. -/
def SecretRequest.render (r : SecretRequest) : String :=
  Text.partialRecord "RequestedSecret" [("path", Text.quote r.path), ("mode", r.mode.render)]

end LeaseKeeper
