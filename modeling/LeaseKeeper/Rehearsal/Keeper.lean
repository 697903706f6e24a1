import LeaseKeeper.Keeper.Step
import LeaseKeeper.Rehearsal.Network

/-!
# Rehearsing a keeper

A keeper on a rehearsed network, at one instant: after every cue everything is done that
needs no time. Secrets are spoken of by name; a name stands for the handle that was last
given out for it. A script that speaks of a name without a handle has no records at all,
nor has one in which a client breaks down (`Collapse`).
-/

namespace LeaseKeeper.Rehearsal.KeeperPlay

open Keeper Server

/-- A cue about the keeper. -/
inductive KeeperCue where
  | add (name : String) (request : SecretRequest)
  | remove (name : String)
  | rotate (name : String)
  | token
  | revoke
  | shutdown
  | render
  | config

/-- The result of a cue. -/
inductive Result where
  | ok
  | flag (b : Bool)
  | fault (f : Fault)
  | credential (c : Credential)
  | text (s : String)
  | config (c : Config)

/-- Why there are no records of a script. -/
inductive Collapse where
  | unknownName
  | breakdown (why : Breakdown)
deriving DecidableEq, Repr

/-- The reason in words. -/
def Collapse.message : Collapse → String
  | unknownName => "no entry found for key"
  | breakdown b => b.message

/-- The keeper, its network, and the secrets by name, latest first. -/
structure Scene where
  world : World
  method : LoginMethod
  network : Network
  names : List (String × Handle)
  /-- The breakdown of a client; nothing happens after it. -/
  broken : Option Breakdown

namespace Scene

/-- Carries an attempt over the network and makes the move that its result calls for. -/
def carry {α : Type} (s : Scene) (a : Attempt α) (move : Except Fault α → Move) : Option Scene :=
  match a.complete Network.send s.network with
  | .error b => some { s with broken := some b }
  | .ok (r, n) => (step s.world (move r)).map fun w => { s with world := w, network := n }

/-- The answer to a call of the session. -/
def answerSession (s : Scene) (op : Nat) (c : Session.Call) : Option Scene :=
  let w := s.world
  let now := w.session.now
  match c with
  | .login => s.carry (s.method.login now) fun r => .answerSession op (.login r)
  | .lookup cred =>
    s.carry (lookupToken w.connection cred) fun r => .answerSession op (.lookup r)
  | .renew g =>
    s.carry (renewToken w.connection none now g.credential) fun r =>
      .answerSession op (.renewal r)
  | .revoke g =>
    s.carry (revokeToken w.connection g.credential) fun r => .answerSession op (.revocation r)

/-- The answer to a call of the lease engine. -/
def answerLeases (s : Scene) (op : Nat) (cred : Credential) (c : Leases.Call) : Option Scene :=
  s.carry (attempt s.world.connection s.world.leases.now cred c) fun
    | .ok reply => .answerLeases op reply
    | .error f => .answerLeases op (denied f c)

/-- Makes a move. -/
def move (s : Scene) (m : Move) : Option Scene := (step s.world m).map fun w => { s with world := w }

/-- Goes on with an operation of the session. -/
def goOnSession (s : Scene) (op : Nat) (p : Session.Point) : Option Scene :=
  match p.call? with
  | some c => s.answerSession op c
  | none => s.move (.enterSession op)

/-- Goes on with an operation of the lease engine. -/
def goOnLeases (s : Scene) (op : Nat) (p : Leases.Point) : Option Scene :=
  match s.world.link? op, s.world.leases.callAt? p with
  | some (.sent cred), some c => s.answerLeases op cred c
  | some (.asking _), _ => s.move (.resume op)
  | _, _ => (s.move (.openNext op)).orElse fun _ => s.move (.enterLeases op)

/-- Does the first thing that needs no time. -/
def advance (s : Scene) : Option Scene :=
  if s.broken.isSome then none
  else ((s.world.session.operations.reverse.findSome? fun o => s.goOnSession o.1 o.2).orElse fun _ =>
    s.world.leases.operations.reverse.findSome? fun o => s.goOnLeases o.1 o.2).orElse fun _ =>
    s.move .proceed

/-- Does everything that needs no time, as long as the fuel lasts. -/
def settle : Nat → Scene → Scene
  | 0, s => s
  | fuel + 1, s =>
    match s.advance with
    | none => s
    | some s => settle fuel s

/-- More than a cue ever leads to. -/
def patience : Nat := 1000000

/-- Asks the session, and waits for the end. -/
def askSession (s : Scene) (r : Session.Request) : Result × Scene :=
  let op := s.world.session.nextOperation
  let s := settle patience ((s.move (.session r)).getD s)
  match s.world.session.outcome? op with
  | some (.granted g) => (.credential g.credential, s)
  | some (.refused f) => (.fault f, s)
  | _ => (.ok, s)

/-- Asks the lease engine, and waits for the end. -/
def askLeases (s : Scene) (r : Leases.Request) : Option Leases.Outcome × Scene :=
  let op := s.world.leases.nextOperation
  let s := settle patience ((s.move (.leases r)).getD s)
  (s.world.leases.outcome? op, s)

/-- The result of an operation of the lease engine. -/
def resultOf : Option Leases.Outcome → Result
  | some (.refused f) => .fault f
  | some (.removed found) => .flag found
  | _ => .ok

/-- The handle of a name. -/
def handle (s : Scene) (name : String) : Except Collapse Handle :=
  match s.names.lookup name with
  | some h => .ok h
  | none => .error .unknownName

/-- Does what a cue says. -/
def follow (s : Scene) : KeeperCue → Except Collapse (Result × Scene)
  | .add name request =>
    match s.askLeases (.add request "") with
    | (some (.registered h), s) => .ok (.ok, { s with names := (name, h) :: s.names })
    | (o, s) => .ok (resultOf o, s)
  | .remove name => (s.handle name).map fun h =>
    let (o, s) := s.askLeases (.remove h)
    (resultOf o, s)
  | .rotate name => (s.handle name).map fun h =>
    let (o, s) := s.askLeases (.rotate h)
    (resultOf o, s)
  | .token => .ok (s.askSession .token)
  | .revoke => .ok (s.askSession .revoke)
  | .shutdown => .ok (.ok, settle patience ((s.move .shutdown).getD s))
  | .render => .ok (.text s.world.render, s)
  | .config => .ok (.config s.world.config, s)

/-- Acts on a cue, unless that is the end of the script. -/
def act (s : Scene) (cue : KeeperCue) : Except Collapse (Result × Scene) := do
  let (r, s) ← s.follow cue
  match s.broken with
  | some b => throw (.breakdown b)
  | none => pure (r, s)

end Scene

/-- What a cue leaves behind. -/
structure Record where
  result : Result
  requests : List Request
  secrets : List (String × Option Leases.Snapshot)
  count : Nat
  destroyed : Bool
  status : Session.Status
  credential : Option Credential

namespace Scene

/-- The secrets by name, each name once. -/
def secrets (s : Scene) : List (String × Option Leases.Snapshot) :=
  (s.names.map (·.1)).eraseDups.map fun name =>
    (name, (s.names.lookup name).bind s.world.leases.snapshot?)

/-- The record of a cue. -/
def record (r : Result) (s : Scene) : Record × Scene :=
  let (requests, network) := s.network.take
  let view := s.world.session.view
  (⟨r, requests, s.secrets, s.world.leases.count, s.world.leases.destroyed, view.status,
      view.credential⟩, { s with network := network })

end Scene

/-- Plays a script. -/
def play : List KeeperCue → Scene → Except Collapse (List Record × Metrics)
  | [], s => .ok ([], s.world.metrics)
  | cue :: cues, s => do
    let (r, s) ← s.act cue
    let (record, s) := s.record r
    let (rest, metrics) ← play cues s
    pure (record :: rest, metrics)

/-- Builds a keeper on a network. -/
def start (config : Config) (connection : Connection) (method : LoginMethod)
    (network : Network) : Except Fault Scene :=
  (World.build config connection method fun _ => 0).map fun w =>
    ⟨w, method, network, [], none⟩

end LeaseKeeper.Rehearsal.KeeperPlay
