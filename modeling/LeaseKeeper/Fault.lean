import LeaseKeeper.Span
import LeaseKeeper.Text.Quoted
import LeaseKeeper.Text.Blank

/-!
# Faults

What can go wrong while logging in, renewing or fetching. A fault is transient when the
same request may well succeed on the next scheduled cycle: the network failed, the server
took too long, or it answered that it is overloaded (`Fault.isTransient`). Every other
fault ends the credential or lease it concerns. `Fault.classify` sorts an answer of the
server by its status and message.
-/

namespace LeaseKeeper

/-- A failed operation, by cause. -/
inductive Fault where
  /-- The login was refused. -/
  | authentication (message : String)
  /-- There is no such token, lease or secret. -/
  | notFound (path : String)
  /-- A policy of the server forbids the operation. -/
  | permissionDenied (message : String)
  /-- The server refused the request with some other status. -/
  | rejected (status : UInt16) (message : String)
  /-- The server could not be reached. -/
  | transport (message : String)
  /-- The operation took too long. -/
  | timeout (operation : String) (millis : UInt64)
  /-- The configuration cannot be used. -/
  | config (message : String)
  /-- The body of an answer could not be read. -/
  | serialization (message : String)
  /-- The engine has been shut down. -/
  | destroyed
  /-- Anything else. -/
  | internal (message : String)
deriving DecidableEq, Inhabited, Repr

namespace Fault

/-- An operation that was given up after `limit`. -/
def afterLimit (operation : String) (limit : Span) : Fault :=
  .timeout operation (UInt64.ofNat limit.asMillis)

/-- Whether a status says that the server is overloaded or broken. -/
def isOverload (status : UInt16) : Bool := status == 429 || 500 ≤ status

/-- Whether another attempt on the next cycle may succeed. -/
def isTransient : Fault → Bool
  | .transport _ => true
  | .timeout _ _ => true
  | .rejected status _ => isOverload status
  | _ => false

/-- Whether the fault ends what it concerns. -/
def isTerminal (f : Fault) : Bool := !f.isTransient

/-- The label of a fault in log fields and metrics. -/
def kind : Fault → String
  | .authentication _ => "authentication"
  | .notFound _ => "not_found"
  | .permissionDenied _ => "permission_denied"
  | .rejected _ _ => "rejected"
  | .transport _ => "transport"
  | .timeout _ _ => "timeout"
  | .config _ => "config"
  | .serialization _ => "serialization"
  | .destroyed => "destroyed"
  | .internal _ => "internal"

/-- The fault in words. -/
def message : Fault → String
  | .authentication m => "Authentication failed: " ++ m
  | .notFound p => "Not found: " ++ p
  | .permissionDenied m => "Permission denied: " ++ m
  | .rejected status m => "Request rejected (status: " ++ toString status.toNat ++ "): " ++ m
  | .transport m => "Transport error: " ++ m
  | .timeout op ms => "Operation timed out: " ++ op ++ " after " ++ toString ms.toNat ++ "ms"
  | .config m => "Configuration error: " ++ m
  | .serialization m => "Serialization error: " ++ m
  | .destroyed => "Lifecycle engine has been destroyed"
  | .internal m => "Internal error: " ++ m

/-- The fault with its parts, on one line. -/
def render : Fault → String
  | .authentication m => Text.record "Authentication" [("message", Text.quote m)]
  | .notFound p => Text.record "NotFound" [("path", Text.quote p)]
  | .permissionDenied m => Text.record "PermissionDenied" [("message", Text.quote m)]
  | .rejected status m =>
    Text.record "Rejected" [("status", toString status.toNat), ("message", Text.quote m)]
  | .transport m => Text.record "Transport" [("message", Text.quote m)]
  | .timeout op ms =>
    Text.record "Timeout" [("operation", Text.quote op), ("duration_ms", toString ms.toNat)]
  | .config m => Text.record "Config" [("message", Text.quote m)]
  | .serialization m => Text.record "Serialization" [("message", Text.quote m)]
  | .destroyed => "Destroyed"
  | .internal m => Text.record "Internal" [("message", Text.quote m)]

/-- Whether the message of an answer says that its subject does not exist, in capitals or not. To lower
the ASCII letters is enough for this: the phrases have no `k` and do not end in `i` (`Text.lower`),
nor do those that are looked for below. -/
def saysMissing (message : String) : Bool :=
  let text := Text.lower message
  Text.contains text "not found" || Text.contains text "invalid lease"

/-- Whether the message of an answer says that a policy forbids the operation. -/
def saysForbidden (message : String) : Bool :=
  Text.contains (Text.lower message) "permission denied"

/-- Sorts a refusal of the server by status and message: a missing subject first, then a
forbidden operation, then the status alone. -/
def classify (status : UInt16) (message : String) : Fault :=
  if status == 404 || saysMissing message then .notFound message
  else if status == 403 || saysForbidden message then .permissionDenied message
  else .rejected status message

/-- Whether the text of a failed exchange says that the connection was at fault. -/
def saysUnreachable (message : String) : Bool :=
  let text := Text.lower message
  ["connection refused", "connection reset", "connection closed", "timed out", "timeout",
    "error sending request"].any (Text.contains text)

/-- Sorts a failed exchange that brought no status by its text. -/
def ofExchange (message : String) : Fault :=
  if saysUnreachable message then .transport message else .internal message

end Fault

/-- Why an exchange with the server brought no usable answer, before it is sorted. -/
inductive ExchangeFault where
  /-- The server refused, with a status and its error texts. -/
  | refused (status : UInt16) (errors : List String)
  | fileNotFound (path : String)
  | loginMethod
  | emptyResponse
  | emptyData
  | wrapUnreadable
  | wrapExpired
  | nothingUpdated
  /-- The request failed on the way. -/
  | request
deriving DecidableEq, Repr

namespace ExchangeFault

/-- The reason in words; a refusal is told by its error texts. -/
def message : ExchangeFault → String
  | refused _ errors => Text.commas errors
  | fileNotFound path => "Failed to find file: " ++ path
  | loginMethod => "Invalid login method"
  | emptyResponse => "The request returned an empty response"
  | emptyData => "The result contained an empty data field"
  | wrapUnreadable => "Error parsing response wrapping result"
  | wrapExpired => "The wrapped response doesn't exist or is not longer valid"
  | nothingUpdated => "The parameters given to the endpoint didn't update anything"
  | request => "An error occurred with the request"

/-- A refusal is sorted by its status, anything else by its text. -/
def toFault : ExchangeFault → Fault
  | refused status errors => Fault.classify status (Text.commas errors)
  | other => Fault.ofExchange other.message

end ExchangeFault

end LeaseKeeper
