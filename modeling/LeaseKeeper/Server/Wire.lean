import LeaseKeeper.Fault
import LeaseKeeper.Json.Fields
import LeaseKeeper.Json.Reader
import LeaseKeeper.Server.Connection

/-!
# The wire

Requests to the server and what comes back. An `Attempt` is a call whose result is known
already, or hangs on what comes back for one request; who makes the attempt carries the
request (`Attempt.complete`). A client that cannot put a request together at all breaks
down, and who called it with it (`Breakdown`). Bodies are read leniently: members of no
concern are passed over, the last of several members of one name counts, and a refusal whose
body says nothing is told by the phrase of its status.
-/

namespace LeaseKeeper.Server

/-- A request. -/
structure Request where
  method : String
  target : String
  token : Option String
  scope : Option String
  body : Option Json

/-- Why nothing came back. -/
inductive Loss where
  /-- Nobody was there. -/
  | unreachable
  /-- Nobody answered in time. -/
  | overdue
  /-- The connection was closed. -/
  | closed
deriving DecidableEq, Repr

/-- What came back for a request. -/
inductive Reception where
  | lost (why : Loss)
  | answered (status : UInt16) (body : String)
deriving DecidableEq, Repr

/-- Why a client broke down. -/
inductive Breakdown where
  /-- The address is no URL. -/
  | address (text : String)
  /-- A text that cannot stand in a header was to be put into one. -/
  | header
deriving DecidableEq, Repr

/-- The last words of a client. -/
def Breakdown.message (b : Breakdown) : String :=
  "called `Result::unwrap()` on an `Err` value: " ++
    match b with
    | address text => Text.quote ("Invalid URL format: " ++ text)
    | header => "InvalidHeaderValue"

/-- A call of the server. -/
inductive Attempt (α : Type) where
  | settled (result : Except Fault α)
  | broken (why : Breakdown)
  | exchange (request : Request) (read : Reception → Except Fault α)

namespace Attempt

variable {α β : Type}

/-- Changes the result. -/
def andThen (a : Attempt α) (f : Except Fault α → Except Fault β) : Attempt β :=
  match a with
  | settled r => settled (f r)
  | broken b => broken b
  | exchange request read => exchange request fun r => f (read r)

/-- Makes an attempt by way of `send`. -/
def complete {σ : Type} (a : Attempt α) (send : Request → σ → Reception × σ) (s : σ) :
    Except Breakdown (Except Fault α × σ) :=
  match a with
  | settled r => .ok (r, s)
  | broken b => .error b
  | exchange request read =>
    let (r, s) := send request s
    .ok (read r, s)

end Attempt

/-! ## Statuses -/

/-- Whether a status tells of success. -/
def isSuccess (status : UInt16) : Bool := 200 ≤ status && status < 300

/-- The standard phrases of statuses. -/
def phrases : List (UInt16 × String) :=
  [(100, "Continue"), (101, "Switching Protocols"), (102, "Processing"), (200, "OK"),
    (201, "Created"), (202, "Accepted"), (203, "Non Authoritative Information"),
    (204, "No Content"), (205, "Reset Content"), (206, "Partial Content"), (207, "Multi-Status"),
    (208, "Already Reported"), (226, "IM Used"), (300, "Multiple Choices"),
    (301, "Moved Permanently"), (302, "Found"), (303, "See Other"), (304, "Not Modified"),
    (305, "Use Proxy"), (307, "Temporary Redirect"), (308, "Permanent Redirect"),
    (400, "Bad Request"), (401, "Unauthorized"), (402, "Payment Required"), (403, "Forbidden"),
    (404, "Not Found"), (405, "Method Not Allowed"), (406, "Not Acceptable"),
    (407, "Proxy Authentication Required"), (408, "Request Timeout"), (409, "Conflict"),
    (410, "Gone"), (411, "Length Required"), (412, "Precondition Failed"),
    (413, "Payload Too Large"), (414, "URI Too Long"), (415, "Unsupported Media Type"),
    (416, "Range Not Satisfiable"), (417, "Expectation Failed"), (418, "I'm a teapot"),
    (421, "Misdirected Request"), (422, "Unprocessable Entity"), (423, "Locked"),
    (424, "Failed Dependency"), (425, "Too Early"), (426, "Upgrade Required"),
    (428, "Precondition Required"), (429, "Too Many Requests"),
    (431, "Request Header Fields Too Large"), (451, "Unavailable For Legal Reasons"),
    (500, "Internal Server Error"), (501, "Not Implemented"), (502, "Bad Gateway"),
    (503, "Service Unavailable"), (504, "Gateway Timeout"), (505, "HTTP Version Not Supported"),
    (506, "Variant Also Negotiates"), (507, "Insufficient Storage"), (508, "Loop Detected"),
    (510, "Not Extended"), (511, "Network Authentication Required")]

/-- The phrase of a status. -/
def phrase (status : UInt16) : String := (phrases.lookup status).getD "unexpected status"

/-! ## Bodies -/

mutual

/-- The document in which of several members of one name the last is kept; there is none
if a text is garbled. -/
def settle? : Json → Option Json
  | .garbled => none
  | .array js => (settleItems? js).map .array
  | .object ms => (settleMembers? ms).map .object
  | j => some j

/-- Item by item. -/
def settleItems? : List Json → Option (List Json)
  | [] => some []
  | j :: js => do
    let j ← settle? j
    let js ← settleItems? js
    pure (j :: js)

/-- Member by member. -/
def settleMembers? : List (String × Json) → Option (List (String × Json))
  | [] => some []
  | (k, j) :: ms => do
    let j ← settle? j
    let ms ← settleMembers? ms
    pure (if (ms.lookup k).isSome then ms else (k, j) :: ms)

end

/-- The texts of a list of texts. -/
def texts? (j : Json) : Option (List String) := j.items?.bind fun js => js.mapM Json.text?

/-- The error texts of a refusal, if its body has such. -/
def errorTexts (body : String) : List String :=
  match (Json.parse? body).bind (Json.fields? [("errors", .defaulted)]) with
  | some [some errors] => (texts? errors).getD []
  | _ => []

/-- What a refusal says. -/
def errorMessage (status : UInt16) (body : String) : String :=
  match errorTexts body with
  | [] => phrase status
  | errors => String.intercalate "; " errors

/-- The fault of a body that cannot be read. -/
def unreadable : Fault := .serialization "the body of the answer cannot be read"

/-- The fault of a body that was expected. -/
def missing (what : String) : Fault :=
  .internal ("Vault returned an empty response for " ++ what)

/-- Reads what came back: a body, or nothing where the server has nothing to say. -/
def readBody : Reception → Except Fault (Option Json)
  | .lost .overdue => .error (.timeout "vault request" 0)
  | .lost _ => .error (.transport "error sending request")
  | .answered status body =>
    if status == 204 then .ok none
    else if !isSuccess status then .error (Fault.classify status (errorMessage status body))
    else if body.isEmpty then .ok none
    else
      match (Json.parse? body).bind settle? with
      | some j => .ok (some j)
      | none => .error unreadable

/-- Reads a record from a body. -/
def decode {α : Type} (what : String) (read : Json → Option α) (body : Option Json) :
    Except Fault α :=
  match body with
  | none => .error (missing what)
  | some j =>
    match read j with
    | some a => .ok a
    | none => .error unreadable

/-! ## Requests -/

/-- Whether a text can stand in a header. -/
def isHeaderText (s : String) : Bool :=
  s.toList.all fun c => (0x20 ≤ c.toNat && c.toNat != 0x7f) || c == '\t'

/-- A call of a path with a token. -/
def ask (c : Connection) (method path token : String) (body : Option Json) :
    Attempt (Option Json) :=
  match c.endpoint path with
  | .error f => .settled (.error f)
  | .ok url =>
    if url.isHttp && isHeaderText token && c.scope.all isHeaderText then
      .exchange ⟨method, url.target, some token, c.scope, body⟩ readBody
    else .settled (.error (.transport "builder error"))

end LeaseKeeper.Server
