import LeaseKeeper.Trigger

/-!
# Renewals in time

The arithmetic by which a renewal comes early enough. `Leaves` says that at an instant at least
the lead time is left of a lifetime; a task that a trigger asks for is due at such an instant
(`FixedTrigger.leaves_plus`), and what begins at such an instant and takes less than the lead
time ends before the lifetime does (`Leaves.lasts`). Lifetimes are in whole milliseconds here,
as a task that is due a fraction of one is started at the next whole one.
-/

namespace LeaseKeeper

/-- A span of whole milliseconds. -/
def Span.IsWhole (s : Span) : Prop := nanosPerMilli ∣ s.nanos

/-- The clock can still count thirty years. -/
def Instant.Counts (i : Instant) : Prop :=
  i.millis / 1000 + Span.thirtyYears.asSeconds < Instant.countedSeconds

instance (i : Instant) : Decidable i.Counts := inferInstanceAs (Decidable (_ < _))

/-- At `i`, at least `lead` is left of the lifetime `ttl` that began at `issued`. -/
def Leaves (issued : Instant) (ttl lead : Span) (i : Instant) : Prop :=
  i.millis * nanosPerMilli + lead.nanos ≤ issued.millis * nanosPerMilli + ttl.nanos

namespace Leaves

variable {issued i j : Instant} {ttl lead : Span}

theorem mono (h : Leaves issued ttl lead i) (hj : j ≤ i) : Leaves issued ttl lead j := by
  have : j.millis * nanosPerMilli ≤ i.millis * nanosPerMilli := Nat.mul_le_mul_right _ hj
  unfold Leaves at h ⊢
  omega

theorem le_remaining (h : Leaves issued ttl lead i) (hl : lead ≤ ttl) :
    lead ≤ ttl - i.since issued := by
  rw [Span.le_def] at hl ⊢
  rw [Span.nanos_sub, Instant.nanos_since, Nat.sub_mul]
  unfold Leaves at h
  omega

/-- What takes less than the lead time from then on ends before the lifetime does. -/
theorem lasts (h : Leaves issued ttl lead i) (ht : Span.zero < ttl) (hl : j.since i < lead) :
    Span.zero < ttl - j.since issued := by
  have := lead.nanos_le
  rw [Span.lt_def, Instant.nanos_since, Nat.sub_mul] at hl
  rw [Span.lt_def, Span.nanos_zero] at ht ⊢
  rw [Span.nanos_sub, Instant.nanos_since, Nat.sub_mul]
  unfold Leaves at h
  omega

end Leaves

/-- What is added to an instant is counted up to the next whole millisecond. -/
theorem Instant.plus_le {i : Instant} {d s : Span} (hd : d ≤ s) (hs : s.IsWhole) (hi : i.Counts) :
    (i.plus d).millis * nanosPerMilli ≤ i.millis * nanosPerMilli + s.nanos := by
  obtain ⟨k, hk⟩ := hs
  rw [Span.le_def] at hd
  unfold Instant.plus
  split
  · simp only [nanosPerMilli] at hk ⊢
    omega
  · -- Thirty years are less than what no clock counts.
    rename_i hn
    simp only [Instant.Counts, Instant.countedSeconds, Span.thirtyYears, Span.asSeconds, Span.asMillis,
      nanosPerSecond, nanosPerMilli] at hn hi hk ⊢
    omega

namespace FixedTrigger

/-- A trigger leaves room between its threshold and the lead time. -/
def IsRoomy (t : FixedTrigger) : Prop := t.lead.nanos + t.minDelay.nanos ≤ t.threshold.nanos

theorem isRoomy_ofLead? {lead : Span} {t : FixedTrigger} (h : ofLead? lead = some t) (jitter : Span) :
    (t.withJitter jitter).lead = lead ∧ (t.withJitter jitter).IsRoomy := by
  unfold ofLead? Span.add? at h
  split at h
  · simp only [Option.map_some, Option.some.injEq] at h
    subst h
    have : minimalDelay.nanos ≤ thresholdMargin.nanos := by decide
    exact ⟨rfl, Nat.add_le_add_left this _⟩
  · cases h

theorem IsRoomy.lead_le {t : FixedTrigger} (h : t.IsRoomy) {ttl : Span} (ht : t.threshold < ttl) :
    t.lead ≤ ttl := by
  unfold IsRoomy at h
  rw [Span.lt_def] at ht
  rw [Span.le_def]
  omega

theorem delay_le {t : FixedTrigger} (h : t.IsRoomy) {ttl : Span} (ht : t.threshold ≤ ttl) (draw : Nat) :
    t.delay draw ttl ≤ ttl - t.lead := by
  unfold IsRoomy at h
  rw [Span.le_def] at ht ⊢
  simp only [delay, Span.nanos_longer, Span.nanos_sub]
  omega

/-- At the instant that a trigger asks for, its lead time is left. -/
theorem leaves_plus {t : FixedTrigger} (h : t.IsRoomy) {ttl : Span} (ht : t.threshold ≤ ttl)
    (hl : t.lead.IsWhole) (hw : ttl.IsWhole) {i : Instant} (hi : i.Counts) (draw : Nat) :
    Leaves i ttl t.lead (i.plus (t.delay draw ttl)) := by
  have hs : (ttl - t.lead).IsWhole := Nat.dvd_sub hw hl
  have hp := Instant.plus_le (t.delay_le h ht draw) hs hi
  unfold IsRoomy at h
  rw [Span.le_def] at ht
  rw [Span.nanos_sub] at hp
  unfold Leaves
  omega

end FixedTrigger

/-- The trigger of ten seconds. -/
def tenSeconds : FixedTrigger := ⟨.ofSeconds 10, minimalDelay, .ofSeconds 12, .zero⟩

/-- The trigger of ten seconds, with a jitter of at most one. -/
def jittery : FixedTrigger := tenSeconds.withJitter (.ofSeconds 1)

end LeaseKeeper
