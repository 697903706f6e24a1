import LeaseKeeper.Session.Step

/-!
# Blocking calls

A caller who cannot take turns with others waits in its place for an operation of a
session, and no longer than a limit. When the limit has passed the operation is given up
where it stands and the caller is told so (`World.expect`); a caller who does take turns
with others is refused at once, before anything has begun (`BlockingCall.refusal`).
-/

namespace LeaseKeeper.Session

/-- What may be asked for in place. -/
inductive BlockingCall where
  | token
  | revoke
deriving DecidableEq, Repr

namespace BlockingCall

/-- The call in words. -/
def name : BlockingCall → String
  | token => "session token"
  | revoke => "session revoke"

/-- What the session is asked for. -/
def request : BlockingCall → Request
  | token => .token
  | revoke => .revoke

/-- Why a caller who takes turns with others is refused. -/
def refusal (c : BlockingCall) : Fault :=
  .internal (c.name ++ " cannot block inside an async runtime; use SessionEngine directly")

/-- What a caller is told whose operation was given up. -/
def overdue (c : BlockingCall) (limit : Span) : Fault := Fault.afterLimit c.name limit

end BlockingCall

namespace World

/-- What a caller gets who looks after its operation: the outcome, or word that the limit
has passed, the operation being given up; nothing so far otherwise. -/
def expect (w : World) (c : BlockingCall) (op : Nat) (began : Instant) (limit : Span) :
    Option (Except Fault Outcome × World) :=
  match w.outcome? op with
  | some outcome => some (.ok outcome, w)
  | none =>
    if limit ≤ w.now.since began then (w.abandon op).map (.error (c.overdue limit), ·) else none

/-- Begins a call in place; one from the inside is refused. -/
def beginBlocking (w : World) (c : BlockingCall) (inside : Bool) : Except Fault (Nat × World) :=
  if inside then .error c.refusal else .ok (w.nextOperation, w.begin c.request)

end World

end LeaseKeeper.Session
