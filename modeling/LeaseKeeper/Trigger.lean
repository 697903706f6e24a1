import LeaseKeeper.Span
import LeaseKeeper.Text.Quoted

/-!
# Triggers

When the next renewal of something happens. A `FixedTrigger` asks for it a fixed lead time
before the end, earlier by a random amount of at most the jitter, and never sooner than
the minimal delay. A one-shot trigger answers once and then never again. The random
amount is drawn from outside: a draw is any number, taken modulo the number of
milliseconds that the jitter leaves to choose from. A `Policy` is any other trigger: nothing is
known of its answers, nor of the threshold that it has for a lifetime.
-/

namespace LeaseKeeper

/-- No renewal happens sooner than this. -/
def minimalDelay : Span := Span.ofSeconds 1

/-- What the default threshold adds to the lead time. -/
def thresholdMargin : Span := Span.ofSeconds 2

/-- Asks for a renewal a fixed time before the end. -/
structure FixedTrigger where
  lead : Span
  minDelay : Span
  threshold : Span
  maxJitter : Span
deriving DecidableEq, Inhabited

namespace FixedTrigger

/-- The trigger of a lead time; there is none if its threshold is beyond the longest span. -/
def ofLead? (lead : Span) : Option FixedTrigger :=
  (lead.add? thresholdMargin).map fun threshold =>
    { lead := lead, minDelay := minimalDelay, threshold := threshold, maxJitter := Span.zero }

/-- The same trigger with another threshold. -/
def withThreshold (t : FixedTrigger) (threshold : Span) : FixedTrigger :=
  { t with threshold := threshold }

/-- The same trigger with a jitter, which the lead time caps. -/
def withJitter (t : FixedTrigger) (jitter : Span) : FixedTrigger :=
  { t with maxJitter := Span.shorter jitter t.lead }

/-- The delay without jitter. -/
def baseDelay (t : FixedTrigger) (ttl : Span) : Span := Span.longer (ttl - t.lead) t.minDelay

/-- How many milliseconds of jitter there are to choose from, zero among them. The count
of milliseconds is kept in sixty-four bits. -/
def jitterChoices (t : FixedTrigger) : Nat := t.maxJitter.asMillis % 18446744073709551616 + 1

/-- Whether a delay depends on a draw. -/
def isRandom (t : FixedTrigger) : Bool := !t.maxJitter.isZero

/-- The jitter that a draw chooses. -/
def jitter (t : FixedTrigger) (draw : Nat) : Span :=
  if t.isRandom then Span.ofMillis (draw % t.jitterChoices) else Span.zero

/-- The delay until the next renewal of something with `ttl` left. -/
def delay (t : FixedTrigger) (draw : Nat) (ttl : Span) : Span :=
  Span.longer (ttl - t.lead - t.jitter draw) t.minDelay

/-- The shortest delay that a draw can lead to, by the greatest jitter. -/
def shortestDelay (t : FixedTrigger) (ttl : Span) : Span :=
  Span.longer (t.baseDelay ttl - t.maxJitter) t.minDelay

/-- Whether a delay lies between the shortest one and the one without jitter. -/
def isInBounds (t : FixedTrigger) (ttl delay : Span) : Bool :=
  decide (t.shortestDelay ttl ≤ delay) && decide (delay ≤ t.baseDelay ttl)

/-- Whether different draws can lead to different delays. -/
def hasChoice (t : FixedTrigger) : Bool := 0 < t.maxJitter.asMillis

/-- The trigger with its parts, on one line. -/
def render (t : FixedTrigger) : String :=
  Text.record "FixedTimeoutTrigger" [("lead_time", t.lead.render),
    ("valid_ttl_threshold", t.threshold.render), ("max_jitter", t.maxJitter.render)]

theorem ofLead?_eq_none_iff {lead : Span} :
    ofLead? lead = none ↔ lead.add? thresholdMargin = none := by
  simp [ofLead?]

@[simp] theorem lead_withThreshold (t : FixedTrigger) (s : Span) :
    (t.withThreshold s).lead = t.lead := rfl

@[simp] theorem lead_withJitter (t : FixedTrigger) (s : Span) : (t.withJitter s).lead = t.lead := rfl

@[simp] theorem minDelay_withThreshold (t : FixedTrigger) (s : Span) :
    (t.withThreshold s).minDelay = t.minDelay := rfl

@[simp] theorem minDelay_withJitter (t : FixedTrigger) (s : Span) :
    (t.withJitter s).minDelay = t.minDelay := rfl

end FixedTrigger

/-- How somebody else decides when the next renewal happens. -/
structure Policy where
  /-- What is not above this is not worth renewing, by the lifetime that was granted. -/
  threshold : Span → Span
  /-- The delay by what is left, if there is to be a renewal. Whatever else the policy goes by, what
  it was asked before or the time of day, stands in the draw. -/
  answer : Nat → Span → Option Span
  /-- The policy on one line. -/
  text : String

/-- When the next renewal happens. -/
inductive Trigger where
  | fixed (t : FixedTrigger)
  | oneShot (delay : Span) (fired : Bool)
  | other (policy : Policy)
deriving Inhabited

namespace Trigger

/-- A trigger that answers once. -/
def once (delay : Span) : Trigger := .oneShot delay false

/-- What is not above this is not worth renewing, by the lifetime that was granted. -/
def thresholdFor : Trigger → Span → Span
  | fixed t => fun _ => t.threshold
  | oneShot _ _ => fun _ => Span.zero
  | other policy => policy.threshold

/-- The threshold of a trigger that has the same one for every lifetime. -/
def threshold (t : Trigger) : Span := t.thresholdFor Span.zero

/-- Whether the next answer takes a draw. -/
def takesDraw : Trigger → Bool
  | fixed t => t.isRandom
  | oneShot _ _ => false
  | other _ => true

/-- The delay until the next renewal of something with `ttl` left, and the trigger
afterwards. -/
def next (draw : Nat) (ttl : Span) : Trigger → Option Span × Trigger
  | fixed t => (some (t.delay draw ttl), fixed t)
  | oneShot delay true => (none, oneShot delay true)
  | oneShot delay false => (some delay, oneShot delay true)
  | other policy => (policy.answer draw ttl, other policy)

/-- The trigger with its parts, on one line. -/
def render : Trigger → String
  | fixed t => t.render
  | oneShot delay fired =>
    Text.record "OneShotTrigger" [("delay", delay.render), ("fired", Text.truth fired)]
  | other policy => policy.text

/-- No answer changes the threshold. -/
@[simp] theorem thresholdFor_next (draw : Nat) (ttl : Span) (t : Trigger) :
    (t.next draw ttl).2.thresholdFor = t.thresholdFor := by
  cases t with
  | fixed t => rfl
  | oneShot delay fired => cases fired <;> rfl
  | other policy => rfl

end Trigger

end LeaseKeeper
