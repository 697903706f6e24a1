import LeaseKeeper.Rehearsal.Sketch
import LeaseKeeper.Rehearsal.Stage

/-!
# Rehearsing credentials

Credentials by name on a clock: made, changed into others, compared and looked at. A name
stands for the credential that was last made under it.
-/

namespace LeaseKeeper.Rehearsal.CredentialPlay

/-- A cue about credentials. -/
inductive CredentialCue where
  | make (name : String) (sketch : CredentialSketch)
  | withLease (name source : String) (ttl : Span) (renewable : Bool)
  | withNote (name source key value : String)
  | sleep (time : Span)
  | same (name other : String)
  | look (name : String) (thresholds : List Span)

/-- The result of a cue. -/
inductive Result where
  | ok
  /-- Nothing has that name. -/
  | absent
  | flag (b : Bool)
  /-- A credential at an instant, and whether it is expiring by each of the thresholds. -/
  | credential (c : Credential) (now : Instant) (expiring : List Bool)

/-- The clock, and the credentials by name, latest first. -/
structure Scene where
  now : Instant
  credentials : List (String × Credential)

namespace Scene

/-- Nothing has a name yet. -/
def start : Scene := ⟨Instant.start, []⟩

/-- The credential of a name. -/
def find? (s : Scene) (name : String) : Option Credential := s.credentials.lookup name

/-- Gives a credential a name. -/
def put (s : Scene) (name : String) (c : Credential) : Result × Scene :=
  (.ok, { s with credentials := (name, c) :: s.credentials })

/-- Acts on a cue. -/
def act (s : Scene) : CredentialCue → Result × Scene
  | .make name sketch => s.put name (sketch.issue s.now)
  | .withLease name source ttl renewable =>
    match s.find? source with
    | some c => s.put name (c.withLease s.now ttl renewable)
    | none => (.absent, s)
  | .withNote name source key value =>
    match s.find? source with
    | some c => s.put name (c.withNote key value)
    | none => (.absent, s)
  | .sleep time => (.ok, { s with now := wakingTime s.now time })
  | .same name other =>
    match s.find? name, s.find? other with
    | some a, some b => (.flag (a.same b), s)
    | _, _ => (.absent, s)
  | .look name thresholds =>
    match s.find? name with
    | some c => (.credential c s.now (thresholds.map (c.isExpiring s.now)), s)
    | none => (.absent, s)

end Scene

/-- Plays a script. -/
def play : List CredentialCue → Scene → List Result
  | [], _ => []
  | cue :: cues, s =>
    let (r, s) := s.act cue
    r :: play cues s

end LeaseKeeper.Rehearsal.CredentialPlay
