import LeaseKeeper.Keeper.World

/-!
# The steps of a keeper

A step of the session or of the lease engine, or what ties them together: a call that has
just been made asks for a token at once (`settle`), goes on when the session has brought
one (`resume`), and is answered by the server; a shutdown goes on when what it waits for
has ended (`proceed`).
-/

namespace LeaseKeeper.Keeper

namespace World

/-- Changes the session. -/
def onSession (w : World) (s : Option Session.World) : Option World :=
  s.map fun s => { w with session := s }

/-- Changes the lease engine. -/
def onLeases (w : World) (l : Option Leases.World) : Option World :=
  l.map fun l => { w with leases := l }

/-- Hands the lease engine a reply; the call is over. -/
def deliver (w : World) (op : Nat) (r : Leases.Reply) : World :=
  match w.leases.answer op r with
  | some l => { w.unlink op with leases := l }
  | none => w.unlink op

/-- Goes on with a call whose token is there, or is refused. -/
def withToken (w : World) (op : Nat) (call : Leases.Call) : Session.Outcome → World
  | .granted g => w.setLink op (.sent g.credential)
  | .refused f => w.deliver op (Server.denied f call)
  | .finished => w

/-- Asks for a token on behalf of a call. -/
def ask (w : World) (op : Nat) (call : Leases.Call) : World :=
  match Server.early? call with
  | some r => w.deliver op r
  | none =>
    let operation := w.session.nextOperation
    let w := { w with session := w.session.begin .token }
    match w.session.outcome? operation with
    | some outcome => w.withToken op call outcome
    | none => w.setLink op (.asking operation)

/-- Asks for a token if the operation waits for a call that has not done so. -/
def askFor (w : World) (op : Nat) : World :=
  match w.link? op, w.leases.call? op with
  | none, some call => w.ask op call
  | _, _ => w

/-- Every call that has just been made asks for a token, oldest operation first. -/
def settle (w : World) : World := (w.leases.operations.reverse.map (·.1)).foldl askFor w

/-- Goes on with a call for which the session has brought a token, or none. -/
def resume (w : World) (op : Nat) : Option World :=
  match w.link? op, w.leases.call? op with
  | some (.asking operation), some call =>
    (w.session.outcome? operation).map fun outcome => (w.withToken op call outcome).settle
  | _, _ => none

/-- The server answers a call of the lease engine. -/
def answer (w : World) (op : Nat) (r : Leases.Reply) : Option World :=
  match w.link? op with
  | some (.sent _) =>
    (w.leases.answer op r).map fun l => ({ w.unlink op with leases := l }).settle
  | _ => none

/-- Begins a shutdown. -/
def shutdown (w : World) : World :=
  ({ w with
    closings := w.closings ++ [Closing.leases w.leases.nextOperation]
    leases := w.leases.begin .destroy }).settle

/-- Stops both schedules. -/
def stop (w : World) : World := { w with session := w.session.stop, leases := w.leases.stop }

/-- What a shutdown does when what it waits for has ended; nothing is left of it in the
end. -/
def goOn (w : World) : Closing → Option (Option Closing × World)
  | .leases op =>
    (w.leases.outcome? op).map fun _ =>
      (some (.session w.session.nextOperation), { w with session := w.session.begin .destroy })
  | .session op => (w.session.outcome? op).map fun _ => (none, w.stop)

/-- Goes on with the first shutdown that can. -/
def proceed (w : World) : Option World :=
  let rec go (before : List Closing) : List Closing → Option World
    | [] => none
    | c :: rest =>
      match w.goOn c with
      | some (next, w) => some { w with closings := before ++ next.toList ++ rest }
      | none => go (before ++ [c]) rest
  go [] w.closings

/-- Lets time pass. -/
def elapse (w : World) (t : Instant) : Option World := do
  let s ← w.session.elapse t
  let l ← w.leases.elapse t
  pure { w with session := s, leases := l }

end World

/-- What may happen next. -/
inductive Move where
  /-- Somebody asks the session for something. -/
  | session (request : Session.Request)
  /-- Somebody asks the lease engine for something. -/
  | leases (request : Leases.Request)
  | fireSession (task : Nat)
  | fireLeases (task : Nat)
  | enterSession (operation : Nat)
  | enterLeases (operation : Nat)
  | openNext (operation : Nat)
  | answerSession (operation : Nat) (reply : Session.Reply)
  | answerLeases (operation : Nat) (reply : Leases.Reply)
  | resume (operation : Nat)
  | shutdown
  | proceed
  | elapse (instant : Instant)

/-- One step of a keeper; there is none where the move does not fit. -/
def step (w : World) : Move → Option World
  | .session r => some { w with session := w.session.begin r }
  | .leases r => some ({ w with leases := w.leases.begin r }).settle
  | .fireSession id => w.onSession (w.session.fire id)
  | .fireLeases id => (w.onLeases (w.leases.fire id)).map World.settle
  | .enterSession op => w.onSession (w.session.enter op)
  | .enterLeases op => (w.onLeases (w.leases.enter op)).map World.settle
  | .openNext op => (w.onLeases (w.leases.openNext op)).map World.settle
  | .answerSession op r => w.onSession (w.session.answer op r)
  | .answerLeases op r => w.answer op r
  | .resume op => w.resume op
  | .shutdown => some w.shutdown
  | .proceed => w.proceed
  | .elapse t => w.elapse t

/-- A run of steps. -/
def run? (w : World) : List Move → Option World
  | [] => some w
  | m :: ms => (step w m).bind fun w => run? w ms

end LeaseKeeper.Keeper
