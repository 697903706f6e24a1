import LeaseKeeper.Config.Document
import LeaseKeeper.Config.Environment
import LeaseKeeper.Url.Reader

/-!
# Connections

Where the server is, whose part of it is meant, and how long a request may take. The
address is kept as it was given; whether it can be used is found out by validation, or
else when the first request is made (`Connection.endpoint`).
-/

namespace LeaseKeeper

/-- How a server is reached. -/
structure Connection where
  address : String
  /-- Whose part of the server is meant. -/
  scope : Option String
  timeoutSeconds : UInt64
deriving DecidableEq, Repr

namespace Connection

/-- How long a request may take unless told otherwise. -/
def usualTimeout : UInt64 := 30

/-- The connection to an address. -/
def ofAddress (address : String) : Connection := ⟨address, none, usualTimeout⟩

/-- How long a request may take. -/
def timeout (c : Connection) : Span := Span.ofSeconds c.timeoutSeconds

/-- The connection with its parts, on one line. -/
def render (c : Connection) : String :=
  Text.record "VaultConnection" [("address", Text.quote c.address),
    ("namespace", Text.optional (c.scope.map Text.quote)),
    ("request_timeout_seconds", toString c.timeoutSeconds.toNat)]

/-! ## Documents -/

/-- The fields of a connection. -/
def shape : Json.Shape :=
  [("address", .required), ("namespace", .nullable), ("request_timeout_seconds", .defaulted)]

/-- Reads a connection. -/
def ofJson? (j : Json) : Option Connection := do
  match ← Json.fields? shape j with
  | [some address, scope, timeout] =>
    pure {
      address := ← address.text?
      scope := ← Json.orDefault none (Json.nullable Json.text?) scope
      timeoutSeconds := ← Json.orDefault usualTimeout Json.word? timeout }
  | _ => none

/-- Writes a connection. -/
def toJson (c : Connection) : Json :=
  .object [("address", .text c.address), ("namespace", Json.optional (c.scope.map Json.text)),
    ("request_timeout_seconds", .ofWord c.timeoutSeconds)]

/-! ## Validation -/

/-- Whether the address is a URL. -/
def hasUrl (c : Connection) : Bool :=
  match Url.parse c.address with
  | .ok _ => true
  | .error _ => false

/-- The longest time that a request may take. -/
def longestTimeout : UInt64 := 300

/-- What is wrong with the fields, in their alphabetical order. -/
def complaints (c : Connection) : List String :=
  Config.complain (!c.hasUrl) "address" "Vault address must be a valid URL" ++
    Config.complain (c.timeoutSeconds < 1 || longestTimeout < c.timeoutSeconds)
      "request_timeout_seconds" "Request timeout must be between 1 and 300 seconds"

/-- Whether a connection can be used. -/
def validate (c : Connection) : Except Fault Unit :=
  match c.complaints with
  | [] => .ok ()
  | cs => .error (.config ("Invalid Vault connection: " ++ String.intercalate "\n" cs))

/-! ## The environment -/

/-- How long a request may take, from the environment. -/
def readTimeout (env : Environment) : Except Fault UInt64 :=
  match env.raw "REQUEST_TIMEOUT_SECONDS" with
  | none => .ok usualTimeout
  | some value =>
    match Text.readNumber value with
    | .ok n => .ok n
    | .error e =>
      .error (.config ("Invalid request timeout '" ++ value ++ "': " ++ e.message))

/-- Reads and validates a connection; without an address there is none. -/
def ofEnvironment (env : Environment) : Except Fault (Option Connection) :=
  match env "VAULT_ADDR" with
  | none => .ok none
  | some address => do
    let c : Connection := ⟨address, env "VAULT_NAMESPACE", ← readTimeout env⟩
    c.validate
    pure (some c)

/-! ## Endpoints -/

/-- The address with a slash at its end. -/
def slashed (c : Connection) : String :=
  if c.address.toList.getLast? = some '/' then c.address else c.address ++ "/"

/-- The URL of a path of the server's interface. -/
def endpoint (c : Connection) (path : String) : Except Fault Url :=
  match Url.parse c.slashed with
  | .error e => .error (.config ("Invalid Vault address '" ++ c.address ++ "': " ++ e.message))
  | .ok base =>
    match base.below ("v1/" ++ String.ofList (path.toList.dropWhile (· == '/'))) with
    | .error e => .error (.config ("Invalid Vault path '" ++ path ++ "': " ++ e.message))
    | .ok u => .ok u

end Connection

end LeaseKeeper
