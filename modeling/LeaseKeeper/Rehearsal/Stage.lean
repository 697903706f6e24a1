import LeaseKeeper.Span

/-!
# The stage

Plays a script against a machine on a clock that moves only when nothing else can. A
script is a list of cues; a cue acts on the machine at once, waits for time to pass or for
another strand, or opens a strand of its own. What has become possible is played first
come, first served; what was just made possible by the thing in hand comes before
everything else (`Order.now`). What belongs to one strand is played in one go. The main
strand is the exception to the order: when the clock has moved it comes first, and at any
other time it comes last. Only when nothing is possible does the clock move to the earliest
appointment (`Play.advance`), and a cue of the main strand is over when it is finished and
nothing more can happen at that instant.
-/

namespace LeaseKeeper.Rehearsal

/-- A cue of a script; `γ` are the cues that the machine itself understands. -/
inductive Cue (γ : Type) where
  | sleep (time : Span)
  | spawn (name : String) (cue : Cue γ)
  | join (name : String)
  | act (cue : γ)

instance {γ : Type} : Inhabited (Cue γ) := ⟨.sleep Span.zero⟩

/-- When somebody wakes up who falls asleep at an instant; nobody sleeps for more than thirty
years. -/
def wakingTime (now : Instant) (time : Span) : Instant :=
  now.plus (Span.shorter time Span.thirtyYears)

/-- When something is played. -/
inductive Order (ω : Type) where
  /-- Before everything else. -/
  | now (job : ω)
  /-- When its turn comes. -/
  | soon (job : ω)
  /-- At that instant. -/
  | at (due : Instant) (job : ω)
  /-- When its turn comes, and not before that instant; the appointment is made in turn. -/
  | timed (due : Instant) (job : ω)

/-- What a strand waits for; `κ` are the ends that the machine tells of. -/
inductive Waiting (κ R : Type) where
  | over (result : R)
  | time (due : Instant)
  | strand (id : Nat)
  | machine (wait : κ)

/-- What the stage needs to know of the machine that it plays. -/
structure Machine (σ γ κ ω R : Type) where
  clock : σ → Instant
  setClock : Instant → σ → σ
  /-- Acts on a cue: the result, or what to wait for. -/
  act : γ → σ → σ × Waiting κ R
  /-- Plays a job that has become possible. -/
  perform : ω → σ → σ
  /-- What has become possible between two states. -/
  orders : σ → σ → List (Order ω)
  /-- The number of the next operation. -/
  opened : σ → Nat
  /-- The operation that a job goes on with. -/
  concerns : ω → Option Nat
  /-- The result that somebody waits for, once it is there. -/
  result? : κ → σ → Option R
  /-- The result of a cue that only had to be done. -/
  done : R
  /-- The result of a cue about a strand that is not there. -/
  unknown : R

/-- A job of the machine, at once or by appointment, or the opening of a strand, or the end
of a sleep. -/
inductive Job (γ ω : Type) where
  | machine (job : ω)
  | appoint (due : Instant) (job : ω)
  | open (strand : Nat) (cue : Cue γ)
  | wake (strand : Nat)

/-- A play under way. -/
structure Play (σ γ κ ω R : Type) where
  state : σ
  ready : List (Job γ ω)
  appointments : List (Instant × Nat × Job γ ω)
  /-- How many appointments were ever made. -/
  made : Nat
  strands : List (Nat × Waiting κ R)
  names : List (String × Nat)
  nextStrand : Nat
  /-- The operations that were begun by strands. -/
  owners : List (Nat × Nat)

namespace Play

variable {σ γ κ ω R : Type}

/-- A play about to begin. -/
def start (state : σ) : Play σ γ κ ω R := ⟨state, [], [], 0, [], [], 0, []⟩

/-- Makes an appointment. -/
def appoint (p : Play σ γ κ ω R) (due : Instant) (job : Job γ ω) : Play σ γ κ ω R :=
  { p with appointments := p.appointments ++ [(due, p.made, job)], made := p.made + 1 }

/-- Follows the orders that a change of the machine gave; what is to be played now is
returned. -/
def follow (p : Play σ γ κ ω R) : List (Order ω) → List ω × Play σ γ κ ω R
  | [] => ([], p)
  | .now job :: rest =>
    let (jobs, p) := p.follow rest
    (job :: jobs, p)
  | .soon job :: rest => { p with ready := p.ready ++ [Job.machine job] }.follow rest
  | .at due job :: rest => (p.appoint due (Job.machine job)).follow rest
  | .timed due job :: rest => { p with ready := p.ready ++ [Job.appoint due job] }.follow rest

/-- Notes which operations were begun between two states on behalf of a strand. -/
def own (m : Machine σ γ κ ω R) (before after : σ) (p : Play σ γ κ ω R) : Option Nat →
    Play σ γ κ ω R
  | none => p
  | some strand =>
    let begun := (List.range (m.opened after - m.opened before)).map (· + m.opened before)
    { p with owners := begun.map (·, strand) ++ p.owners }

/-- Changes the machine on behalf of a strand, or of nobody, and plays at once what that
makes possible at once. -/
def change (m : Machine σ γ κ ω R) (owner : Option Nat) : Nat → (σ → σ) → Play σ γ κ ω R →
    Play σ γ κ ω R
  | 0, f, p => { p with state := f p.state }
  | fuel + 1, f, p =>
    let state := f p.state
    let (jobs, q) := { p with state := state }.follow (m.orders p.state state)
    jobs.foldl (fun p job => change m owner fuel (m.perform job) p) (q.own m p.state state owner)

/-- More changes in one go than a machine ever makes. -/
def patience : Nat := 1000000

/-- What a strand waits for. -/
def waiting? (p : Play σ γ κ ω R) (strand : Nat) : Option (Waiting κ R) := p.strands.lookup strand

/-- Sets what a strand waits for. -/
def setWaiting (p : Play σ γ κ ω R) (strand : Nat) (w : Waiting κ R) : Play σ γ κ ω R :=
  { p with strands := (strand, w) :: p.strands.filter (·.1 != strand) }

/-- Whether what a strand waits for is there, and with what result. -/
def arrived? (m : Machine σ γ κ ω R) (p : Play σ γ κ ω R) : Waiting κ R → Option R
  | .over r => some r
  | .time due => if due ≤ m.clock p.state then some m.done else none
  | .strand id =>
    match p.waiting? id with
    | some (.over r) => some r
    | _ => none
  | .machine w => m.result? w p.state

/-- Ends the strands whose wait is over; one may wait for another. -/
def sweep (m : Machine σ γ κ ω R) : Nat → Play σ γ κ ω R → Play σ γ κ ω R
  | 0, p => p
  | fuel + 1, p =>
    sweep m fuel { p with strands := p.strands.map fun (id, w) =>
      match w with
      | .over r => (id, .over r)
      | w =>
        match p.arrived? m w with
        | some r => (id, .over r)
        | none => (id, w) }

/-- Opens a strand by its cue. -/
def begin (m : Machine σ γ κ ω R) (strand : Nat) (cue : Cue γ) (p : Play σ γ κ ω R) :
    Play σ γ κ ω R :=
  match cue with
  | .sleep time =>
    let due := wakingTime (m.clock p.state) time
    if time.isZero then p.setWaiting strand (.over m.done)
    else (p.setWaiting strand (.time due)).appoint due (Job.wake strand)
  | .spawn name cue =>
    let id := p.nextStrand
    { p.setWaiting strand (.over m.done) with
      nextStrand := id + 1
      names := (name, id) :: p.names.filter (·.1 != name)
      ready := p.ready ++ [Job.open id cue] }
  | .join name =>
    match p.names.lookup name with
    | none => p.setWaiting strand (.over m.unknown)
    | some id =>
      { p.setWaiting strand (.strand id) with names := p.names.filter (·.1 != name) }
  | .act c =>
    let before := p.state
    let (state, w) := m.act c before
    change m (some strand) patience (fun _ => state) (p.setWaiting strand w)

/-- The strand that a job belongs to. -/
def owner? (m : Machine σ γ κ ω R) (p : Play σ γ κ ω R) : Job γ ω → Option Nat
  | .machine job => (m.concerns job).bind fun op => p.owners.lookup op
  | .appoint _ job => (m.concerns job).bind fun op => p.owners.lookup op
  | .open strand _ => some strand
  | .wake strand => some strand

/-- What the jobs of one strand are put in order by. -/
def rank (m : Machine σ γ κ ω R) : Job γ ω → Nat
  | .machine job => (m.concerns job).getD 0
  | _ => 0

/-- Plays one job. -/
def perform (m : Machine σ γ κ ω R) (p : Play σ γ κ ω R) (job : Job γ ω) : Play σ γ κ ω R :=
  match job with
  | .machine inner => change m (p.owner? m job) patience (m.perform inner) p
  | .appoint due inner =>
    if due ≤ m.clock p.state then change m (p.owner? m job) patience (m.perform inner) p
    else p.appoint due (.machine inner)
  | .open strand cue => p.begin m strand cue
  | .wake _ => p

/-- Plays jobs of one strand in one go. -/
def performAll (m : Machine σ γ κ ω R) (jobs : List (Job γ ω)) (p : Play σ γ κ ω R) :
    Play σ γ κ ω R :=
  (jobs.mergeSort fun a b => decide (rank m a ≤ rank m b)).foldl (perform m) p

/-- The jobs to be played next, and the others: the first that does not belong to the main
strand, with all others of its strand, or else those of the main strand. -/
def nextJobs (m : Machine σ γ κ ω R) (main : Nat) (p : Play σ γ κ ω R) :
    List (Job γ ω) × List (Job γ ω) :=
  match p.ready.find? fun job => p.owner? m job != some main with
  | none => (p.ready, [])
  | some job =>
    match p.owner? m job with
    | some strand => p.ready.partition fun j => p.owner? m j == some strand
    | none =>
      let before := p.ready.takeWhile fun j => p.owner? m j == some main
      ([job], before ++ (p.ready.drop (before.length + 1)))

/-- The earliest appointment. -/
def earliest? (p : Play σ γ κ ω R) : Option Instant :=
  (p.appointments.map (·.1)).foldl (fun best t =>
    match best with
    | none => some t
    | some b => some (if t.millis < b.millis then t else b)) none

/-- Moves the clock to that instant; its appointments become possible in the order in which
they were made, and those of the main strand are kept at once. -/
def advance (m : Machine σ γ κ ω R) (main : Nat) (t : Instant) (p : Play σ γ κ ω R) :
    Play σ γ κ ω R :=
  let (due, later) := p.appointments.partition fun a => a.1 == t
  let (first, others) := (due.map fun a => a.2.2).partition fun job => p.owner? m job == some main
  performAll m first { p with
    state := m.setClock t p.state, appointments := later, ready := p.ready ++ others }

/-- Plays until the main strand is over and nothing more can happen at that instant. -/
def runUntil (m : Machine σ γ κ ω R) (main : Nat) : Nat → Play σ γ κ ω R → Play σ γ κ ω R
  | 0, p => p
  | fuel + 1, p =>
    let p := sweep m (p.strands.length) p
    match p.ready with
    | _ :: _ =>
      let (jobs, rest) := p.nextJobs m main
      runUntil m main fuel (performAll m jobs { p with ready := rest })
    | [] =>
      match p.waiting? main with
      | some (.over _) => p
      | _ =>
        match p.earliest? with
        | none => p
        | some t => runUntil m main fuel (p.advance m main t)

/-- More jobs than a script ever needs. -/
def stamina : Nat := 1000000000

/-- Plays one cue of the main strand and tells its result, if it came to an end. -/
def playCue (m : Machine σ γ κ ω R) (cue : Cue γ) (p : Play σ γ κ ω R) :
    Option R × Play σ γ κ ω R :=
  let strand := p.nextStrand
  let p := runUntil m strand stamina ({ p with nextStrand := strand + 1 }.begin m strand cue)
  match p.waiting? strand with
  | some (.over r) => (some r, { p with strands := p.strands.filter (·.1 != strand) })
  | _ => (none, p)

/-- Plays a script, telling after each cue what `record` makes of its result and of the
states before and after. -/
def playAll {A : Type} (m : Machine σ γ κ ω R) (record : Cue γ → Option R → σ → σ → A) :
    List (Cue γ) → Play σ γ κ ω R → List A × Play σ γ κ ω R
  | [], p => ([], p)
  | cue :: cues, p =>
    let (r, q) := playCue m cue p
    let (rest, final) := playAll m record cues q
    (record cue r p.state q.state :: rest, final)

end Play

end LeaseKeeper.Rehearsal
