import LeaseKeeper.Credential
import LeaseKeeper.Server.Client

/-!
# Tokens of the server

How a session comes by its tokens (`LoginMethod`), and how it has them extended, given
back and looked up. A login that fails for good is an authentication fault, whatever the
server said; one that may succeed later stays what it is.
-/

namespace LeaseKeeper

open Server

/-- A role that logs in with a secret of its own. -/
structure AppRole where
  connection : Connection
  /-- Where the roles are kept. -/
  mount : String
  roleId : String
  secretId : SecretText
deriving DecidableEq

/-- How tokens are come by. -/
inductive LoginMethod where
  /-- The token is handed in; there is no other once it is gone. -/
  | token (text : SecretText)
  | appRole (role : AppRole)
deriving DecidableEq

namespace AppRole

/-- Where roles are kept unless told otherwise. -/
def usualMount : String := "approle"

/-- The role with its parts, on one line. -/
def render (r : AppRole) : String :=
  Text.record "AppRoleAuthentication" [("address", Text.quote r.connection.address),
    ("mount", Text.quote r.mount), ("role_id", Text.quote r.roleId),
    ("secret_id", r.secretId.render)]

/-- The segments of a mount, encoded. -/
def mountPath (mount : String) : String :=
  String.intercalate "/" ((mount.toList.splitOnP (· == '/')).map fun s =>
    String.ofList (Url.percentEncode Url.isEncodedInSegment s))

/-- The fault of a login. -/
def loginFault (f : Fault) : Fault :=
  if f.isTransient then f else .authentication ("AppRole login failed: " ++ f.message)

/-- The credential that a login brings. -/
def credential (now : Instant) (g : TokenGrant) : Credential :=
  ((Credential.ofLogin now g.token (Span.ofSeconds g.seconds) g.renewable).withNote "accessor"
    g.accessor).withNote "method" "approle"

/-- What a login came to. -/
def readLogin (now : Instant) (r : Except Fault TokenGrant) : Except Fault Credential :=
  match r with
  | .ok g => .ok (credential now g)
  | .error f => .error (loginFault f)

/-- Logs in. A client that cannot be set up is told as it is. -/
def login (r : AppRole) (now : Instant) : Attempt Credential :=
  match setUp r.connection with
  | .ok (.error f) => .settled (.error f)
  | _ =>
    (post r.connection "POST" ("auth/" ++ mountPath r.mount ++ "/login") ""
      [("role_id", .text r.roleId), ("secret_id", .text r.secretId.expose)]
      readTokenGrant).andThen (readLogin now)

end AppRole

namespace LoginMethod

/-- Whether a lost token can be replaced. -/
def canLogInAgain : LoginMethod → Bool
  | token _ => false
  | appRole _ => true

/-- The method with its parts, on one line. -/
def render : LoginMethod → String
  | token t => Text.record "TokenAuthentication" [("token", t.render)]
  | appRole r => r.render

/-- The variable that a token is taken from. -/
def tokenVariable : String := "VAULT_TOKEN"

/-- A token from the environment. -/
def ofEnvironment (env : Environment) : Except Fault LoginMethod :=
  match env tokenVariable with
  | none => .error (.config (tokenVariable ++ " is not set"))
  | some t => if t.isEmpty then .error (.config (tokenVariable ++ " is empty")) else .ok (token ⟨t⟩)

/-- Logs in. -/
def login (m : LoginMethod) (now : Instant) : Attempt Credential :=
  match m with
  | token t => .settled (.ok (Credential.ofToken now t.expose))
  | appRole r => r.login now

end LoginMethod

namespace Server

/-- Has a token extended, by a given time if there is one. -/
def renewToken (c : Connection) (increment : Option Span) (now : Instant) (cred : Credential) :
    Attempt Credential :=
  (post c "POST" "auth/token/renew-self" cred.token.expose
    (match increment with
      | some s => [("increment", .text (toString s.asSeconds ++ "s"))]
      | none => []) readTokenGrant).andThen fun r =>
    r.map fun g => cred.withLease now (Span.ofSeconds g.seconds) g.renewable

/-- Gives a token back. -/
def revokeToken (c : Connection) (cred : Credential) : Attempt Unit :=
  post c "POST" "auth/token/revoke-self" cred.token.expose [] readDone

/-- The fields of what is known about a token. -/
def lookupShape : Json.Shape := [("ttl", .defaulted), ("renewable", .defaulted)]

/-- Reads what is known about a token. -/
def readLookup? (j : Json) : Option TokenLookup := do
  match ← Json.fields? [("data", .required)] j with
  | [some data] =>
    match ← Json.fields? lookupShape data with
    | [ttl, renewable] =>
      pure ⟨Span.ofSeconds (← Json.orDefault 0 Json.word? ttl),
        ← Json.orDefault false Json.bool? renewable⟩
    | _ => none
  | _ => none

/-- Asks about a token. -/
def lookupToken (c : Connection) (cred : Credential) : Attempt TokenLookup :=
  (ask c "GET" "auth/token/lookup-self" cred.token.expose none).andThen fun r =>
    r.bind (decode "token lookup" readLookup?)

end Server

end LeaseKeeper
