import LeaseKeeper.Proofs.Leases.Queue
import LeaseKeeper.Proofs.Leases.Scenes

/-!
# What a step of any lease engine can do

`Deed` describes the steps of an engine that is not shut down. Here is what a step can do in
any engine (`Act`), with all that happens in it: it leaves the entries alone (`Aside`), a
removal finds nothing, or an operation gets on with one entry (`Does`). What a move brings, a
lease or a removal, can be told from the move and from where its operation stands
(`World.grant?`, `World.removal?`).
-/

namespace LeaseKeeper.Leases

open World

/-! ## Leases and removals that moves bring -/

/-- The lease that came with a secret, if one was found. -/
def leaseOf? : Except Fault (Option Secret) → Option Lease
  | .ok found => found.map Secret.lease
  | .error _ => none

/-- Why a secret is not even registered, if its first fetch brought nothing. -/
def rejection? (request : SecretRequest) : Except Fault (Option Secret) → Option Fault
  | .ok (some _) => none
  | .ok none => if request.mode.isImmediate then some (.notFound request.path) else none
  | .error f => if request.mode.isImmediate then some f else none

/-- How the operation of a removal ends. -/
def Remover.verdict : Remover → Bool → Outcome
  | caller, found => .removed found
  | registration, _ => .refused .destroyed
  | shutdown _, found => .removed found

namespace World

/-- The lease that is granted to a secret by a move. -/
def grant? (w : World) (h : Handle) : Move → Option Lease
  | .answer op r =>
    match w.point? op, r with
    | some (.registering k), .fetched found => if h = k then leaseOf? found else none
    | some (.rotating k _ _), .fetched found => if h = k then leaseOf? found else none
    | some (.renewing k _ _), .renewal result => if h = k then result.toOption else none
    | _, _ => none
  | _ => none

/-- The operation that comes to remove a secret by a move. -/
def removal? (w : World) (h : Handle) : Move → Option Nat
  | .begin (.remove k) => if h = k then some w.nextOperation else none
  | .openNext op =>
    match w.point? op with
    | some (.opening k _) => if h = k then some op else none
    | _ => none
  | _ => none

end World

/-- An operation stands there that serves a registered entry. -/
def Point.Serves (h : Handle) : Point → Prop
  | queued k (.act _ _) => k = h
  | queued k .rotate => k = h
  | renewing k _ _ => k = h
  | rotating k _ _ => k = h
  | _ => False

/-- An operation serves an entry: it has just come for a registered one, or stands where it
serves it. -/
def Serving (w : World) (op : Nat) (h : Handle) (e : Entry) : Prop :=
  (op = w.nextOperation ∧ e.standing = .registered) ∨ ∃ q, w.point? op = some q ∧ q.Serves h

/-! ## Coming to the lock -/

/-- The lock was free, or the operation was its holder, and now it heads the queue. -/
structure Heads (op : Nat) (l l' : List Nat) : Prop where
  head : l'.head? = some op
  nodup : l'.Nodup
  mem : ∀ a, a ≠ op → (a ∈ l' ↔ a ∈ l)
  others : ∀ a, a ≠ op → l.head? ≠ some a

namespace Heads

variable {op : Nat} {h : Handle} {l l' : List Nat}

theorem free (hl : l = []) : Heads op l (l ++ [op]) := by
  subst hl
  exact ⟨rfl, List.nodup_singleton _, fun a ha => by simp [ha], fun a _ => by simp⟩

theorem same (hl : l.head? = some op) (hnd : l.Nodup) : Heads op l l :=
  ⟨hl, hnd, fun _ _ => Iff.rfl, fun _ ha hh => ha (Option.some.inj (hh.symm.trans hl))⟩

theorem stays (hl : Heads op l l') {q : Point} (hq : q.wants? = some h) :
    Orderly.Passed op l l' (some q) h :=
  ⟨hl.nodup, hl.mem, ⟨fun _ => rfl, fun _ => List.mem_of_mem_head? hl.head⟩, fun _ _ _ => hl.head,
    fun a ha hh => absurd hh (hl.others a ha), fun r hr => by cases hr; exact hq⟩

theorem leaves (hl : Heads op l l') : Orderly.Passed op l (l'.filter (· != op)) none h :=
  ⟨hl.nodup.filter _, fun a ha => by simp [hl.mem a ha, ha], by simp, fun _ hq => (by cases hq),
    fun a ha hh => absurd hh (hl.others a ha), fun _ hq => by cases hq⟩

end Heads

/-- A newcomer takes the last place of a queue. -/
theorem Orderly.Passed.joins {op : Nat} {h : Handle} {l : List Nat} (hnd : l.Nodup) (hop : op ∉ l)
    (errand : Errand) : Orderly.Passed op l (l ++ [op]) (some (.queued h errand)) h := by
  refine ⟨?_, fun a ha => by simp [ha], by simp, fun q hq hh => ?_, fun a _ hh => ?_, fun q hq => ?_⟩
  · refine List.nodup_append.mpr ⟨hnd, List.nodup_singleton _, fun a ha b hb hab => hop ?_⟩
    rw [List.mem_singleton] at hb
    exact hb ▸ hab ▸ ha
  · cases hq
    cases hh
  · rw [List.head?_append, hh]
    rfl
  · cases hq
    rfl

/-- Whoever gets the lock leaves the tasks that wait. -/
theorem World.Gets.mem_live {w : World} {op : Nat} {h : Handle} {e : Entry} {errand : Errand}
    {care : Care} (hg : Gets w op h e errand care) {t : Task Job} (ht : care.Allows w h t) :
    t ∈ w.schedule.live := by
  cases hg with
  | comes hg => cases hg <;> exact ht
  | enters _ => exact ht

/-! ## What operations do -/

/-- All that was told is about the secret of that entry, which is looked after. -/
def Tells (w : World) (h : Handle) (e : Entry) (hs : List Happening) : Prop :=
  ∀ x ∈ hs, w.isLive e = true ∧ ∃ event : LeaseEvent, x = .published event ∧ event.handle = h

/-- An operation comes to remove a registered entry. -/
inductive Removes (w : World) (m : Move) (op : Nat) (h : Handle) : Remover → Prop
  | asked : m = .begin (.remove h) → op = w.nextOperation → Removes w m op h .caller
  | opened {parent : Nat} : m = .openNext op → w.point? op = some (.opening h parent) →
    Removes w m op h (.shutdown parent)

/-- An operation takes an entry out: who does it, which snapshot it finds, what becomes of the
tasks, which lease has been granted with the same move, and whether the removal has just
come. -/
inductive Leaving (w : World) (m : Move) (op : Nat) (h : Handle) (e : Entry) :
    Remover → Option Snapshot → Care → Option Lease → Option Nat → Prop
  | removes {remover : Remover} : Removes w m op h remover → e.standing = .registered →
    Leaving w m op h e remover e.snapshot .cancelled none (some op)
  | late {s : Option Snapshot} {r : Except Fault (Option Secret)} : m = .answer op (.fetched r) →
    w.point? op = some (.registering h) → w.destroyed = true → rejection? e.request r = none →
    s.map Snapshot.lease = leaseOf? r →
    Leaving w m op h e .registration s .cancelled (leaseOf? r) none
  | waited {remover : Remover} : w.point? op = some (.queued h (.remove remover)) →
    e.standing = .removed → Leaving w m op h e remover e.snapshot .kept none none

/-- With the lock in hand, a removal gives a lease back, or there is none to give back. -/
inductive Takes (op : Nat) (h : Handle) (remover : Remover) :
    Option Snapshot → List Nat → List Nat → Option Point → List Happening → Prop
  | returns {s : Snapshot} {l : List Nat} : s.lease.hasId = true →
    Takes op h remover (some s) l l (some (.revoking h s remover)) [.called op h (.revoke s.lease)]
  | ends {s : Option Snapshot} {l : List Nat} :
    (s.map Snapshot.lease).filter Lease.hasId = none →
    Takes op h remover s l (l.filter (· != op)) none [.ended op (remover.verdict true)]

/-- How a revocation went. -/
inductive Returned : LeaseChange → Prop
  | revoked {l : Lease} : Returned (.revoked l)
  | failed {l : Lease} {f : Fault} : Returned (.failed l f)

/-- How an operation gets on with the entry of a handle by a move, in a step to `u`: what becomes of
the entry and the tasks, where the operation stands, what happens, which lease is granted by the
move, and which removal comes by it. -/
inductive Does (w u : World) (m : Move) (op : Nat) (h : Handle) :
    Option Entry → Option Point → List Happening → Care → Option Lease → Option Nat → Prop
  | adds {e : Entry} {source path : String} : w.destroyed = false → op = w.nextOperation →
    h.serial = w.nextHandle → w.nextHandle < u.nextHandle → e.standing = .pending →
    e.snapshot = none → e.lock = [op] →
    Does w u m op h (some e) (some (.registering h)) [.called op h (.fetch source path)] .kept none
      none
  | forgets {e : Entry} {r : Except Fault (Option Secret)} {f : Fault} :
    w.point? op = some (.registering h) → w.face? h = some e → m = .answer op (.fetched r) →
    rejection? e.request r = some f →
    Does w u m op h none none [.ended op (.refused f)] .kept none none
  | registers {e : Entry} {s : Option Snapshot} {l : List Nat} {hs : List Happening} {care : Care} :
    w.point? op = some (.registering h) → w.face? h = some e → w.destroyed = false →
    Orderly.Passed op e.lock l none h → Tells w h e hs →
    Does w u m op h (some { e with snapshot := s, lock := l, standing := .registered }) none
      (.ended op (.registered h) :: hs) care (s.map Snapshot.lease) none
  | joins {e : Entry} {l : List Nat} {q : Point} {care : Care} : w.face? h = some e →
    op = w.nextOperation → e.standing = .registered →
    Orderly.Passed op e.lock l (some q) h → q.Serves h →
    (∀ t, care.Allows w h t → t ∈ w.schedule.live) →
    Does w u m op h (some { e with lock := l }) (some q) [] care none none
  | passes {e : Entry} {s : Option Snapshot} {l : List Nat} {o : Outcome} {hs : List Happening}
    {care : Care} : w.face? h = some e → Serving w op h e →
    Orderly.Passed op e.lock l none h → s = e.snapshot ∨ w.isLive e = true ∧ s = none →
    Tells w h e hs → (w.isLive e = true ∨ ∀ t, care.Allows w h t → t ∈ w.schedule.live) →
    Does w u m op h (some { e with snapshot := s, lock := l }) none (.ended op o :: hs) care none none
  | renews {e : Entry} {s : Snapshot} {l : List Nat} {since : Instant} {increment : Span}
    {care : Care} :
    w.face? h = some e → Serving w op h e → Gets w op h e (.act s .renew) care →
    w.isLive e = true → e.isCurrent s = true →
    Orderly.Passed op e.lock l (some (.renewing h s since)) h →
    Does w u m op h (some { e with lock := l }) (some (.renewing h s since))
      [.called op h (.renew s.lease increment)] care none none
  | fetches {e : Entry} {l : List Nat} {previous : Lease} {cause : Cause} {source path : String}
    {hs : List Happening} {care : Care} : w.face? h = some e → Serving w op h e →
    w.isLive e = true → Orderly.Passed op e.lock l (some (.rotating h previous cause)) h →
    Tells w h e hs →
    Does w u m op h (some { e with lock := l }) (some (.rotating h previous cause))
      (.called op h (.fetch source path) :: hs) care none none
  | installs {e : Entry} {s : Snapshot} {q : Point} {l : List Nat} {o : Outcome}
    {hs : List Happening} {care : Care} : w.face? h = some e → w.point? op = some q → q.Serves h →
    q.holds? = some h → Orderly.Passed op e.lock l none h → Tells w h e hs →
    (w.isLive e = true ∨ ∀ t, care.Allows w h t → t ∈ w.schedule.live) →
    Does w u m op h (some { e with snapshot := some s, lock := l }) none (.ended op o :: hs) care
      (some s.lease) none
  | waits {e : Entry} {l : List Nat} {remover : Remover} : w.face? h = some e →
    Removes w m op h remover → e.standing = .registered →
    Orderly.Passed op e.lock l (some (.queued h (.remove remover))) h →
    Does w u m op h (some { e with lock := l, standing := .removed })
      (some (.queued h (.remove remover))) [] .cancelled none (some op)
  | takes {e : Entry} {s : Option Snapshot} {l l' : List Nat} {p : Option Point} {remover : Remover}
    {hs : List Happening} {care : Care} {g : Option Lease} {a : Option Nat} : w.face? h = some e →
    Leaving w m op h e remover s care g a → Heads op e.lock l → Takes op h remover s l l' p hs →
    Does w u m op h (some { e with snapshot := none, lock := l', standing := .removed }) p hs care g a
  | returned {e : Entry} {s : Snapshot} {l : List Nat} {remover : Remover} {path : String}
    {k : LeaseChange} : w.face? h = some e → w.point? op = some (.revoking h s remover) →
    Orderly.Passed op e.lock l none h → Returned k →
    Does w u m op h (some { e with lock := l }) none
      [.ended op (remover.verdict true), .published ⟨h, path, k⟩] .kept none none

/-- Where an operation comes from that gets on with an entry: it has just begun, it wanted that
entry, or was about to remove it. -/
inductive Whence (w : World) (op : Nat) (h : Handle) : Prop
  | begins : op = w.nextOperation → Whence w op h
  | stands {q : Point} : w.point? op = some q → q.wants? = some h → Whence w op h
  | opens {parent : Nat} : w.point? op = some (.opening h parent) → Whence w op h

theorem Point.Serves.wants {h : Handle} {q : Point} (hq : q.Serves h) : q.wants? = some h := by
  cases q with
  | queued k errand => cases errand <;> first | exact congrArg some hq | exact hq.elim
  | renewing | rotating => exact congrArg some hq
  | _ => exact hq.elim

theorem Serving.whence {w : World} {op : Nat} {h : Handle} {e : Entry} (hs : Serving w op h e) :
    Whence w op h := by
  rcases hs with ⟨hop, -⟩ | ⟨q, hq, hserves⟩
  · exact .begins hop
  · exact .stands hq hserves.wants

theorem Removes.whence {w : World} {m : Move} {op : Nat} {h : Handle} {remover : Remover}
    (hr : Removes w m op h remover) : Whence w op h := by
  cases hr with
  | asked _ hop => exact .begins hop
  | opened _ hq => exact .opens hq

theorem Does.whence {w u : World} {m : Move} {op : Nat} {h : Handle} {face : Option Entry}
    {p : Option Point} {hs : List Happening} {care : Care} {g : Option Lease} {a : Option Nat}
    (hd : Does w u m op h face p hs care g a) : Whence w op h := by
  cases hd with
  | adds _ hop _ _ _ _ _ => exact .begins hop
  | forgets hq _ _ _ | registers hq _ _ _ _ => exact .stands hq rfl
  | joins _ hop _ _ _ _ => exact .begins hop
  | passes _ hs _ _ _ _ | renews _ hs _ _ _ _ | fetches _ hs _ _ _ => exact hs.whence
  | installs _ hq hserves _ _ _ _ => exact .stands hq hserves.wants
  | waits _ hr _ _ => exact hr.whence
  | takes _ hl _ _ =>
    cases hl with
    | removes hr _ => exact hr.whence
    | late _ hq _ _ _ | waited hq _ => exact .stands hq rfl
  | returned _ hq _ _ => exact .stands hq rfl

/-- The entries, the operations that want one, and the tasks are as they were, but for tasks that
are cancelled; what ends stood somewhere else, or has just begun. Removals that are about to begin
stay so if they have something to remove. -/
structure Aside (w u : World) : Prop where
  faces : ∀ h, u.face? h = w.face? h
  wants : ∀ a q, q.wants? ≠ none → (u.point? a = some q ↔ w.point? a = some q)
  opens : ∀ a h parent e, w.point? a = some (.opening h parent) → w.face? h = some e →
    e.standing = .registered → u.point? a = some (.opening h parent)
  fresh : ∀ a q, u.point? a = some q → a < u.nextOperation
  stands : ∀ a, u.point? a ≠ none → w.point? a = none → w.nextOperation ≤ a
  history : ∃ hs, u.history = hs ++ w.history ∧
    ∀ x ∈ hs, ∃ b o, x = .ended b o ∧ (w.point? b = none → w.nextOperation ≤ b)
  nextOperation : w.nextOperation ≤ u.nextOperation
  nextHandle : w.nextHandle ≤ u.nextHandle
  booked : u.Booked
  live : ∀ t ∈ u.schedule.live, t ∈ w.schedule.live
  shut : u.destroyed = true → w.destroyed = true ∨ ∀ h e, u.face? h = some e →
    e.standing = .registered → ∃ a parent, u.point? a = some (.opening h parent)

/-- An operation has ended, and that was how. -/
structure Concluded (w : World) (op : Nat) (o : Outcome) : Prop where
  gone : w.point? op = none
  begun : op < w.nextOperation
  outcome : w.outcome? op = some o

/-- What a step can do. -/
inductive Act (w : World) (m : Move) (w' : World) : Prop
  | aside : Aside w w' → (∀ h, w.grant? h m = none) → (∀ h, w.removal? h m = none) → Act w m w'
  /-- A removal finds nothing. -/
  | misses {op : Nat} {h : Handle} : Aside w w' → (∀ k, w.grant? k m = none) →
    (∀ k, w.removal? k m = if k = h then some op else none) → w.registered? h = none →
    Concluded w' op (.removed false) → Act w m w'
  /-- An operation gets on with an entry, and the operation that waits for its end may be told. -/
  | does {u : World} {op : Nat} {h : Handle} {face : Option Entry} {p : Option Point}
    {hs : List Happening} {care : Care} {g : Option Lease} {a : Option Nat} :
    Does w u m op h face p hs care g a → Scene w u op h face p hs care →
    w' = u ∨ (∃ parent, w' = u.childEnded parent) →
    (∀ k, w.grant? k m = if k = h then g else none) →
    (∀ k, w.removal? k m = if k = h then a else none) → Act w m w'

end LeaseKeeper.Leases
