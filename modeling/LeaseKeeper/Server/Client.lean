import LeaseKeeper.Server.Wire

/-!
# The strict client

Calls that are answered in an envelope of fixed form: logins, and the renewal and
revocation of a token. The client is stricter than the wire asks for. An answer that is
not in the form counts as a failed exchange (`ExchangeFault.request`), an envelope without
a grant as an empty one, and a refusal is told by its error texts. Where the client is set
up with what cannot be part of a request, it breaks down.
-/

namespace LeaseKeeper.Server

/-- What is granted with a token. -/
structure TokenGrant where
  token : String
  accessor : String
  seconds : UInt64
  renewable : Bool
deriving DecidableEq, Repr

/-- The base of all paths: nothing, or the path of the address with two slashes. -/
def basePath (u : Url) : String := if u.path.isRoot then "/v1/" else "/v1" ++ u.path.text ++ "//"

/-- The URL of a client's address, which must be one of the web. -/
def setUp (c : Connection) : Except Breakdown (Except Fault Url) :=
  match Url.parse c.address with
  | .error _ => .error (.address c.address)
  | .ok u =>
    if u.isHttp then .ok (.ok u)
    else .ok (.error (.config
      ("Invalid Vault client configuration: Invalid scheme for HTTP URL: " ++ u.scheme)))

/-- A call of an endpoint; an empty token is left out. -/
def post {α : Type} (c : Connection) (method endpoint token : String)
    (body : List (String × Json)) (read : Reception → Except Fault α) : Attempt α :=
  match setUp c with
  | .error b => .broken b
  | .ok (.error f) => .settled (.error f)
  | .ok (.ok u) =>
    if isHeaderText token && c.scope.all isHeaderText then
      .exchange
        { method := method
          target := basePath u ++ endpoint
          token := if token.isEmpty then none else some token
          scope := c.scope
          body := if body.isEmpty then none else some (.object body) } read
    else .broken .header

/-- Whether a status tells the client of success. -/
def isClientSuccess (status : UInt16) : Bool := 200 ≤ status && status ≤ 208

/-- The error texts of a refusal. -/
def refusal? (body : String) : Option (List String) :=
  (Json.parse? body).bind fun j => (j.member? "errors").bind texts?

/-- The body of an answer, or why there is none. -/
def readAnswer : Reception → Except ExchangeFault String
  | .lost _ => .error .request
  | .answered status body =>
    if isClientSuccess status then .ok body
    else
      match refusal? body with
      | some errors => .error (.refused status errors)
      | none => .error .request

/-- Whether a member is there and read. -/
def hasMember {α : Type} (j : Json) (name : String) (read : Json → Option α) : Bool :=
  ((j.member? name).bind read).isSome

/-- The texts by name in an object, or null. -/
def noteTexts? (j : Json) : Option Unit :=
  match j with
  | .null => some ()
  | j => j.members?.bind fun ms => if ms.all (·.2.text?.isSome) then some () else none

/-- Reads a grant. -/
def readGrant? (j : Json) : Option TokenGrant := do
  let token ← (j.member? "client_token").bind Json.text?
  let accessor ← (j.member? "accessor").bind Json.text?
  let seconds ← (j.member? "lease_duration").bind Json.word?
  let renewable ← (j.member? "renewable").bind Json.bool?
  if hasMember j "policies" texts? && hasMember j "token_policies" texts? &&
      hasMember j "metadata" noteTexts? && hasMember j "entity_id" Json.text? &&
      hasMember j "token_type" Json.text? && hasMember j "orphan" Json.bool? then
    some ⟨token, accessor, seconds, renewable⟩
  else none

/-- A whole number of thirty-two bits. -/
def halfWord? (j : Json) : Option Nat := j.natural?.filter (· < 4294967296)

/-- Whether a document is an envelope without data. -/
def isEnvelope (j : Json) : Bool :=
  hasMember j "lease_id" Json.text? && hasMember j "request_id" Json.text? &&
    hasMember j "lease_duration" halfWord? && hasMember j "renewable" Json.bool? &&
    (j.member? "data").all fun d =>
      match d with
      | .null => true
      | _ => false

/-- The grant in an envelope. -/
def openEnvelope (body : String) : Except ExchangeFault TokenGrant :=
  match Json.parse? body with
  | none => .error .request
  | some j =>
    if isEnvelope j then
      match j.member? "auth" with
      | none => .error .emptyResponse
      | some .null => .error .emptyResponse
      | some auth =>
        match readGrant? auth with
        | some g => .ok g
        | none => .error .request
    else .error .request

/-- Reads an envelope with a grant. -/
def readTokenGrant (r : Reception) : Except Fault TokenGrant :=
  ((readAnswer r).bind openEnvelope).mapError ExchangeFault.toFault

/-- Reads an answer of which only the status counts. -/
def readDone (r : Reception) : Except Fault Unit :=
  ((readAnswer r).map fun _ => ()).mapError ExchangeFault.toFault

end LeaseKeeper.Server
