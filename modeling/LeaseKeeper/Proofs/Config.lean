import LeaseKeeper.Config.Basic

/-!
# Accepted configurations

What a configuration that `Config.validate` accepts makes of its triggers. Validation bounds the
lead time of either section by a day and the jitter by the lead time, so that either trigger
exists and takes the jitter as it is configured (`triggerOfSeconds?_eq`). It bounds neither the
lead time nor the threshold from below: a renewal comes before the end of a lifetime exactly if
there is a lead time and the lifetime is longer than the minimal delay
(`FixedTrigger.delay_lt_iff`, `timely_of_validate`).
-/

namespace LeaseKeeper

/-! ## What validation bounds -/

namespace Config

variable {c : Config}

theorem complain_eq_nil_iff {isBad : Bool} {path message : String} :
    complain isBad path message = [] ↔ isBad = false := by
  cases isBad <;> simp [complain]

/-- An accepted configuration has no field at fault, and neither jitter exceeds its lead time. -/
theorem validate_eq_ok_iff :
    c.validate = .ok () ↔ c.fieldComplaints = [] ∧ c.session.jitterSeconds ≤ c.session.leadSeconds ∧
      c.lease.jitterSeconds ≤ c.lease.leadSeconds := by
  unfold validate
  cases hf : c.fieldComplaints with
  | cons complaint rest => simp
  | nil =>
    by_cases hs : c.session.leadSeconds < c.session.jitterSeconds
    · simp [hs, UInt64.not_le.mpr]
    · by_cases hl : c.lease.leadSeconds < c.lease.jitterSeconds
      · simp [hs, hl]
      · simp [hs, hl, UInt64.not_lt.mp]

/-- Without a complaint, both lead times are at most a day. -/
theorem lead_le_of_fieldComplaints (h : c.fieldComplaints = []) :
    c.session.leadSeconds ≤ daySeconds ∧ c.lease.leadSeconds ≤ daySeconds := by
  simp only [fieldComplaints, List.append_eq_nil_iff, complain_eq_nil_iff,
    decide_eq_false_iff_not, UInt64.not_lt] at h
  obtain ⟨⟨⟨⟨⟨hl, -⟩, -⟩, -⟩, -⟩, hs⟩ := h
  exact ⟨hs, hl⟩

end Config

/-! ## What a trigger answers -/

namespace FixedTrigger

variable {t : FixedTrigger}

theorem minDelay_le_delay (draw : Nat) (ttl : Span) : t.minDelay ≤ t.delay draw ttl := by
  rw [Span.le_def, delay, Span.nanos_longer]
  exact Nat.le_max_right _ _

/-- Without a lead time that caps it, there is no jitter. -/
theorem jitter_eq_zero (hj : t.maxJitter ≤ t.lead) (h : t.lead = Span.zero) (draw : Nat) :
    t.jitter draw = Span.zero := by
  have hz : t.maxJitter = Span.zero := by
    rw [h, Span.le_def, Span.nanos_zero] at hj
    exact Span.ext (Nat.le_zero.mp hj)
  simp [jitter, isRandom, hz, Span.isZero]

/-- A renewal comes before the end of a lifetime if there is a lead time and the lifetime is longer
than the minimal delay, and only then. -/
theorem delay_lt_iff (hj : t.maxJitter ≤ t.lead) (draw : Nat) (ttl : Span) :
    t.delay draw ttl < ttl ↔ Span.zero < t.lead ∧ t.minDelay < ttl := by
  rw [Span.lt_def, delay, Span.nanos_longer, Span.nanos_sub, Span.nanos_sub, Span.lt_def, Span.lt_def,
    Span.nanos_zero]
  rcases Nat.eq_zero_or_pos t.lead.nanos with hz | hp
  · rw [jitter_eq_zero hj (Span.ext hz) draw, Span.nanos_zero]
    omega
  · omega

end FixedTrigger

/-! ## The triggers of a configuration -/

/-- With a lead time of at most a day and a jitter of at most that there is a trigger, and its
jitter is the configured one. -/
theorem triggerOfSeconds?_eq {lead jitter : UInt64} (threshold : Option UInt64)
    (hl : lead ≤ Config.daySeconds) (hj : jitter ≤ lead) :
    ∃ t, triggerOfSeconds? lead threshold jitter = some t ∧ t.lead = Span.ofSeconds lead ∧
      t.minDelay = minimalDelay ∧ t.maxJitter = Span.ofSeconds jitter := by
  have hn : lead.toNat ≤ 86400 := UInt64.le_iff_toNat_le.mp hl
  have hadd : (Span.ofSeconds lead).nanos + thresholdMargin.nanos ≤ longestNanos := by
    have : (Span.ofSeconds lead).nanos = lead.toNat * nanosPerSecond := rfl
    have : thresholdMargin.nanos = 2 * nanosPerSecond := by decide
    simp only [nanosPerSecond, longestNanos] at *
    omega
  have hcap : Span.shorter (Span.ofSeconds jitter) (Span.ofSeconds lead) = Span.ofSeconds jitter :=
    if_pos (Nat.mul_le_mul_right _ (UInt64.le_iff_toNat_le.mp hj))
  rw [triggerOfSeconds?, FixedTrigger.ofLead?, Span.add?, dif_pos hadd]
  exact ⟨_, rfl, rfl, rfl, hcap⟩

/-- A section of a configuration has a trigger with the jitter that it configures, and whatever is
drawn, for a lifetime above the threshold the trigger asks for a renewal after at least the minimal
delay. The renewal comes before the end of the lifetime exactly if the section has a lead time and
the lifetime is longer than that delay. -/
def Timely (trigger? : Option FixedTrigger) (lead jitter : Span) : Prop :=
  ∃ t, trigger? = some t ∧ t.maxJitter = jitter ∧
    ∀ ttl, (Trigger.fixed t).threshold < ttl → ∀ draw, ∃ d,
      (Trigger.fixed t).next draw ttl = (some d, .fixed t) ∧ minimalDelay ≤ d ∧
        (d < ttl ↔ Span.zero < lead ∧ minimalDelay < ttl)

theorem timely_of_seconds {lead jitter : UInt64} (threshold : Option UInt64)
    (hl : lead ≤ Config.daySeconds) (hj : jitter ≤ lead) :
    Timely (triggerOfSeconds? lead threshold jitter) (Span.ofSeconds lead) (Span.ofSeconds jitter) := by
  obtain ⟨t, ht, hlead, hmin, hmax⟩ := triggerOfSeconds?_eq threshold hl hj
  refine ⟨t, ht, hmax, fun ttl _ draw => ⟨t.delay draw ttl, rfl, ?_, ?_⟩⟩
  · exact hmin ▸ t.minDelay_le_delay draw ttl
  · have hcap : t.maxJitter ≤ t.lead := by
      rw [hmax, hlead]
      exact Nat.mul_le_mul_right _ (UInt64.le_iff_toNat_le.mp hj)
    rw [FixedTrigger.delay_lt_iff hcap, hlead, hmin]

/-- Both triggers of an accepted configuration exist, take the configured jitter, and ask for a
renewal before the end of every lifetime above their threshold for which there is a lead time and
more than the minimal delay. -/
theorem timely_of_validate {c : Config} (h : c.validate = .ok ()) :
    Timely c.session.trigger? c.session.lead c.session.jitter ∧
      Timely c.lease.trigger? c.lease.lead c.lease.jitter := by
  obtain ⟨hf, hs, hl⟩ := Config.validate_eq_ok_iff.mp h
  obtain ⟨hsd, hld⟩ := Config.lead_le_of_fieldComplaints hf
  exact ⟨timely_of_seconds _ hsd hs, timely_of_seconds _ hld hl⟩

/-- A configuration by which a session is renewed at most ten and at least five seconds before the
end, and leases are renewed without a lead time whatever their lifetime. -/
def Config.mixed : Config :=
  { Config.default with
    session := { SessionConfig.default with jitterSeconds := 5 }
    lease := { LeaseConfig.default with leadSeconds := 0, thresholdSeconds := some 0 } }

theorem timely_of_mixed :
    Config.mixed.validate = .ok () ∧
      Timely Config.mixed.session.trigger? (Span.ofSeconds 5) (Span.ofSeconds 5) ∧
      Timely Config.mixed.lease.trigger? Span.zero Span.zero :=
  ⟨rfl, timely_of_validate (show Config.mixed.validate = .ok () from rfl)⟩

/-- Of what has a lifetime of ten seconds, the leases of that configuration are renewed at the end
of it only, and of what has a lifetime of half a second, half a second after it. -/
theorem mixed_is_late :
    Config.mixed.validate = .ok () ∧ ∃ t, Config.mixed.lease.trigger? = some t ∧
      (t.threshold < Span.ofSeconds 10 ∧
        ((Trigger.fixed t).next 0 (Span.ofSeconds 10)).1 = some (Span.ofSeconds 10) ∧
        ¬Span.ofSeconds 10 < Span.ofSeconds 10) ∧
      t.threshold < Span.ofMillis 500 ∧
        ((Trigger.fixed t).next 0 (Span.ofMillis 500)).1 = some (Span.ofSeconds 1) ∧
        ¬Span.ofSeconds 1 < Span.ofMillis 500 :=
  ⟨rfl, _, rfl, by decide, by decide, by decide, by decide⟩

end LeaseKeeper
