import LeaseKeeper.Proofs.Delays
import LeaseKeeper.Proofs.Timing

/-!
# The tempo of retries

A trigger that can be had never asks for a renewal sooner than after the minimal delay
(`IsMade.le_delay`). Whether it asks for one before the lifetime is over depends on what is left of
that alone, and not on the jitter that is drawn (`IsMade.delay_lt_iff`). So every retry takes a second
of what was left at first, and there are no more of them than seconds: `Tempo` says how far a chain of
retries has got at an instant, `Tempo.retry` is the step, and `Tempo.lt_attempts` the bound.
-/

namespace LeaseKeeper

/-- The seconds that a span begins. -/
def Span.startedSeconds (s : Span) : Nat := (s.nanos + (nanosPerSecond - 1)) / nanosPerSecond

/-- How often something may be tried of which so much is left at first. -/
def Span.attempts (left : Span) : Nat := max 1 left.startedSeconds

/-- What is added to an instant is counted up, or taken for thirty years. -/
theorem Instant.add_le_plus (i : Instant) {d : Span} (hd : minimalDelay ≤ d) :
    i.millis + 1000 ≤ (i.plus d).millis := by
  have hmin : minimalDelay.nanos = 1000 * nanosPerMilli := by decide
  have hyears : 1000 ≤ Span.thirtyYears.asMillis := by decide
  rw [Span.le_def, hmin] at hd
  unfold Instant.plus
  split
  · have hle : 1000 ≤ (d.nanos + 999999) / nanosPerMilli := by
      simp only [nanosPerMilli] at hd ⊢
      omega
    exact Nat.add_le_add_left hle _
  · exact Nat.add_le_add_left hyears _

namespace FixedTrigger

/-- The triggers that can be had: that of a lead time, and what becomes of one with another threshold or
with a jitter. -/
inductive IsMade : FixedTrigger → Prop
  | ofLead {lead : Span} {t : FixedTrigger} : ofLead? lead = some t → IsMade t
  | withThreshold {t : FixedTrigger} (threshold : Span) : IsMade t → IsMade (t.withThreshold threshold)
  | withJitter {t : FixedTrigger} (jitter : Span) : IsMade t → IsMade (t.withJitter jitter)

namespace IsMade

variable {t : FixedTrigger} (h : t.IsMade)

include h

theorem minDelay_eq : t.minDelay = minimalDelay := by
  induction h with
  | ofLead ht =>
    obtain ⟨threshold, -, rfl⟩ := Option.map_eq_some_iff.mp ht
    rfl
  | withThreshold _ _ ih | withJitter _ _ ih => exact ih

theorem maxJitter_le : t.maxJitter ≤ t.lead := by
  induction h with
  | ofLead ht =>
    obtain ⟨threshold, -, rfl⟩ := Option.map_eq_some_iff.mp ht
    exact Nat.zero_le _
  | withThreshold _ _ ih => exact ih
  | @withJitter t jitter _ _ =>
    show (Span.shorter jitter t.lead).nanos ≤ t.lead.nanos
    rw [Span.nanos_shorter]
    exact Nat.min_le_right _ _

theorem le_delay (draw : Nat) (left : Span) : minimalDelay ≤ t.delay draw left := by
  rw [Span.le_def, delay, Span.nanos_longer, h.minDelay_eq]
  exact Nat.le_max_right _ _

/-- The jitter that is drawn has no say in whether a renewal comes in time. -/
theorem delay_lt_iff (draw : Nat) (left : Span) :
    t.delay draw left < left ↔ Span.zero < t.lead ∧ minimalDelay < left := by
  have hjitter := Nat.le_trans (t.jitter_le draw) h.maxJitter_le
  have hmin : minimalDelay.nanos = 1000000000 := by decide
  simp only [Span.lt_def, delay, Span.nanos_longer, Span.nanos_sub, h.minDelay_eq, Span.nanos_zero]
  omega

theorem delay_lt_of_lt {draw : Nat} {left : Span} (hlt : t.delay draw left < left) (draw' : Nat) :
    t.delay draw' left < left :=
  (h.delay_lt_iff _ _).mpr ((h.delay_lt_iff _ _).mp hlt)

end IsMade

end FixedTrigger

/-! ## How far a chain of retries has got -/

/-- At `i`, there have been `n` retries of what was tried first at `start`, when so much was left: one
in each second at most, and so few that all of it was not over when the last one was decided on. -/
structure Tempo (start : Instant) (left : Span) (n : Nat) (i : Instant) : Prop where
  pace : start.millis + 1000 * n ≤ i.millis
  room : n = 0 ∨ n * nanosPerSecond < left.nanos

namespace Tempo

variable {start issued i j : Instant} {left ttl delay : Span} {n : Nat}

theorem first (start : Instant) (left : Span) : Tempo start left 0 start := ⟨Nat.le_refl _, .inl rfl⟩

theorem later (h : Tempo start left n i) (hj : i ≤ j) : Tempo start left n j :=
  ⟨Nat.le_trans h.pace hj, h.room⟩

/-- A retry is decided on that comes after the minimal delay and before the end. -/
theorem retry (h : Tempo start (ttl - start.since issued) n i) (hs : issued ≤ start)
    (hmin : minimalDelay ≤ delay) (hlt : delay < ttl - i.since issued) :
    Tempo start (ttl - start.since issued) (n + 1) (i.plus delay) := by
  have hleft : (i.millis - issued.millis) * nanosPerMilli + delay.nanos < ttl.nanos := by
    have hbound := ttl.nanos_le
    rw [Span.lt_def, Span.nanos_sub, Instant.nanos_since] at hlt
    omega
  have hpace := h.pace
  have hpassed : (start.millis - issued.millis) * nanosPerMilli + n * nanosPerSecond ≤
      (i.millis - issued.millis) * nanosPerMilli := by
    change issued.millis ≤ start.millis at hs
    simp only [nanosPerSecond, nanosPerMilli]
    omega
  have hnext : start.millis + 1000 * (n + 1) ≤ (i.plus delay).millis := by
    rw [Nat.mul_succ, ← Nat.add_assoc]
    exact Nat.le_trans (Nat.add_le_add_right hpace _) (i.add_le_plus hmin)
  have hsecond : nanosPerSecond ≤ delay.nanos := Nat.le_trans (by decide) hmin
  refine ⟨hnext, .inr ?_⟩
  rw [Span.nanos_sub, Instant.nanos_since, Nat.add_mul, Nat.one_mul]
  refine Nat.lt_sub_of_add_lt (Nat.lt_of_le_of_lt ?_ hleft)
  calc n * nanosPerSecond + nanosPerSecond + min ((start.millis - issued.millis) * nanosPerMilli) longestNanos
    _ ≤ n * nanosPerSecond + delay.nanos + (start.millis - issued.millis) * nanosPerMilli :=
      Nat.add_le_add (Nat.add_le_add_left hsecond _) (Nat.min_le_left ..)
    _ = (start.millis - issued.millis) * nanosPerMilli + n * nanosPerSecond + delay.nanos := by
      rw [Nat.add_right_comm, Nat.add_comm (n * nanosPerSecond)]
    _ ≤ (i.millis - issued.millis) * nanosPerMilli + delay.nanos := Nat.add_le_add_right hpassed _

/-- There are no more attempts than that. -/
theorem lt_attempts (h : Tempo start left n i) : n < left.attempts := by
  have hroom := h.room
  simp only [Span.attempts, Span.startedSeconds, nanosPerSecond] at hroom ⊢
  omega

end Tempo

end LeaseKeeper
