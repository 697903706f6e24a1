import LeaseKeeper.Proofs.Config
import Mathlib.Algebra.Group.Nat.Defs
import Mathlib.Logic.ExistsUnique

/-!
# Delays over the whole range of spans

How the delay that a trigger asks for lies to the lifetime it is for, whatever is drawn and however
long the spans are. A jitter is a whole number of milliseconds, and their count is kept in
sixty-four bits: a jitter of more milliseconds than that leaves fewer of them to choose from
(`FixedTrigger.nanos_jitter`), but never more than itself (`jitter_le`). So the delay stays between
the one without jitter and the shortest one (`shortestDelay_le_delay`, `delay_le_baseDelay`), and a
longer lifetime makes it longer by at most as much (`delay_mono`, `delay_sub_le`).
`FixedTrigger.inBounds_of_lead` puts this together for every trigger that there is.
-/

namespace LeaseKeeper.FixedTrigger

variable {t : FixedTrigger}

/-! ## Jitters -/

theorem jitterChoices_pos (t : FixedTrigger) : 0 < t.jitterChoices := Nat.succ_pos _

/-- No jitter is beyond the longest span: it is chosen from at most `2 ^ 64` milliseconds. -/
theorem nanos_jitter (t : FixedTrigger) (draw : Nat) :
    (t.jitter draw).nanos = draw % t.jitterChoices * nanosPerMilli := by
  unfold jitter
  split
  · have hlt : draw % t.jitterChoices < t.jitterChoices := Nat.mod_lt _ t.jitterChoices_pos
    have hword : t.jitterChoices ≤ 18446744073709551616 := by
      unfold jitterChoices
      omega
    show min (draw % t.jitterChoices * nanosPerMilli) longestNanos = _
    simp only [nanosPerMilli, longestNanos]
    omega
  · rename_i hr
    have hz : t.maxJitter = Span.zero := Span.isZero_iff.mp (by simpa [isRandom] using hr)
    have hone : t.jitterChoices = 1 := by simp [jitterChoices, hz, Span.asMillis]
    rw [hone, Nat.mod_one, Nat.zero_mul, Span.nanos_zero]

theorem jitter_le (t : FixedTrigger) (draw : Nat) : t.jitter draw ≤ t.maxJitter := by
  have hlt : draw % t.jitterChoices < t.jitterChoices := Nat.mod_lt _ t.jitterChoices_pos
  rw [Span.le_def, nanos_jitter]
  simp only [jitterChoices, Span.asMillis, nanosPerMilli] at hlt ⊢
  omega

/-- Every amount is drawn, and each by one of as many draws as there are amounts. -/
theorem existsUnique_draw {amount : Nat} (h : amount < t.jitterChoices) :
    ∃! draw, draw < t.jitterChoices ∧ (t.jitter draw).nanos = amount * nanosPerMilli := by
  refine ⟨amount, ⟨h, by rw [nanos_jitter, Nat.mod_eq_of_lt h]⟩, fun draw ⟨hd, he⟩ => ?_⟩
  rw [nanos_jitter, Nat.mod_eq_of_lt hd] at he
  exact Nat.eq_of_mul_eq_mul_right (by decide) he

/-! ## Delays -/

theorem shortestDelay_le_delay (t : FixedTrigger) (draw : Nat) (ttl : Span) :
    t.shortestDelay ttl ≤ t.delay draw ttl := by
  have hj := Span.le_def.mp (t.jitter_le draw)
  simp only [Span.le_def, shortestDelay, delay, baseDelay, Span.nanos_longer, Span.nanos_sub]
  omega

theorem delay_le_baseDelay (t : FixedTrigger) (draw : Nat) (ttl : Span) :
    t.delay draw ttl ≤ t.baseDelay ttl := by
  simp only [Span.le_def, delay, baseDelay, Span.nanos_longer, Span.nanos_sub]
  omega

/-- Where there is room for the minimal delay before the lead time begins, the renewal comes before
it begins. -/
theorem lead_add_delay_le {ttl : Span} (h : t.lead.nanos + t.minDelay.nanos ≤ ttl.nanos)
    (draw : Nat) : t.lead.nanos + (t.delay draw ttl).nanos ≤ ttl.nanos := by
  have hb := Span.le_def.mp (t.delay_le_baseDelay draw ttl)
  simp only [baseDelay, Span.nanos_longer, Span.nanos_sub] at hb
  omega

theorem delay_mono (t : FixedTrigger) (draw : Nat) {ttl ttl' : Span} (h : ttl ≤ ttl') :
    t.delay draw ttl ≤ t.delay draw ttl' := by
  simp only [Span.le_def, delay, Span.nanos_longer, Span.nanos_sub] at h ⊢
  omega

theorem delay_sub_le (t : FixedTrigger) (draw : Nat) {ttl ttl' : Span} (h : ttl ≤ ttl') :
    t.delay draw ttl' - t.delay draw ttl ≤ ttl' - ttl := by
  simp only [Span.le_def, delay, Span.nanos_longer, Span.nanos_sub] at h ⊢
  omega

/-! ## All triggers -/

/-- How the answers of a trigger lie to its lead time and to a cap on its jitter. -/
structure InBounds (lead cap : Span) (t : FixedTrigger) : Prop where
  lead_eq : t.lead = lead
  maxJitter_eq : t.maxJitter = cap
  /-- The amounts are the numbers of milliseconds up to the jitter's, as counted in sixty-four bits,
  and as many draws bring one of them each. -/
  drawn : ∀ amount ≤ cap.asMillis % 2 ^ 64, ∃! draw,
    draw < t.jitterChoices ∧ (t.jitter draw).nanos = amount * nanosPerMilli
  /-- No other amount is drawn. -/
  drawnOnly : ∀ draw, ∃ amount ≤ cap.asMillis % 2 ^ 64,
    (t.jitter draw).nanos = amount * nanosPerMilli
  base : ∀ ttl, (t.baseDelay ttl).nanos = max (ttl.nanos - lead.nanos) nanosPerSecond
  /-- There is a delay for every lifetime. It lies between the shortest one and the one without
  jitter, and leaves the lead time where there is room for it. -/
  answers : ∀ draw ttl, ∃ d, (Trigger.fixed t).next draw ttl = (some d, .fixed t) ∧
    max ((t.baseDelay ttl).nanos - cap.nanos) nanosPerSecond ≤ d.nanos ∧
    d.nanos ≤ (t.baseDelay ttl).nanos ∧
    (lead.nanos + nanosPerSecond ≤ ttl.nanos → lead.nanos ≤ ttl.nanos - d.nanos)
  /-- The same draw asks for no shorter a delay where there is more time left, and for one that is
  longer by no more than that. -/
  steady : ∀ draw ttl ttl' d d', ttl ≤ ttl' → ((Trigger.fixed t).next draw ttl).1 = some d →
    ((Trigger.fixed t).next draw ttl').1 = some d' →
    d.nanos ≤ d'.nanos ∧ d'.nanos - d.nanos ≤ ttl'.nanos - ttl.nanos

theorem inBounds (h : t.minDelay = minimalDelay) : t.InBounds t.lead t.maxJitter where
  lead_eq := rfl
  maxJitter_eq := rfl
  drawn amount ha := existsUnique_draw (Nat.lt_succ_of_le ha)
  drawnOnly draw := ⟨draw % t.jitterChoices,
    Nat.le_of_lt_succ (Nat.mod_lt _ t.jitterChoices_pos), t.nanos_jitter draw⟩
  base ttl := by
    rw [baseDelay, Span.nanos_longer, h]
    rfl
  answers draw ttl := by
    have hmin : t.minDelay.nanos = nanosPerSecond := by rw [h]; rfl
    have hlow := Span.le_def.mp (t.shortestDelay_le_delay draw ttl)
    rw [shortestDelay, Span.nanos_longer, Span.nanos_sub, hmin] at hlow
    refine ⟨t.delay draw ttl, rfl, hlow, t.delay_le_baseDelay draw ttl, fun hroom => ?_⟩
    have hlead : t.lead.nanos + (t.delay draw ttl).nanos ≤ ttl.nanos :=
      t.lead_add_delay_le (by rw [hmin]; exact hroom) draw
    omega
  steady draw ttl ttl' d d' hle hd hd' := by
    cases hd
    cases hd'
    exact ⟨t.delay_mono draw hle, t.delay_sub_le draw hle⟩

theorem minDelay_of_ofLead? {lead : Span} (h : ofLead? lead = some t) :
    t.lead = lead ∧ t.minDelay = minimalDelay := by
  obtain ⟨threshold, -, rfl⟩ := Option.map_eq_some_iff.mp h
  exact ⟨rfl, rfl⟩

/-- There is no trigger of a lead time exactly if two seconds more are beyond the longest span. Every
trigger that there is, with whatever threshold and jitter, keeps to its bounds; the lead time caps
the jitter. -/
theorem inBounds_of_lead (lead : Span) :
    (ofLead? lead = none ↔ longestNanos < lead.nanos + 2 * nanosPerSecond) ∧
      ∀ t, ofLead? lead = some t → ∀ threshold jitter,
        ((t.withThreshold threshold).withJitter jitter).InBounds lead (Span.shorter jitter lead) := by
  refine ⟨ofLead?_eq_none_iff.trans Span.add?_eq_none_iff, fun t ht threshold jitter => ?_⟩
  obtain ⟨rfl, hmin⟩ := minDelay_of_ofLead? ht
  exact inBounds (t := (t.withThreshold threshold).withJitter jitter) hmin

/-- The longest lead time for which there is a trigger. -/
def longestLead : Span := ⟨longestNanos - 2 * nanosPerSecond, Nat.sub_le _ _⟩

/-- With the longest lead time and a jitter as long as that, whose milliseconds are more than
sixty-four bits can count. -/
theorem inBounds_longestLead : ∃ t, ofLead? longestLead = some t ∧
    2 ^ 64 ≤ (Span.shorter Span.longest longestLead).asMillis ∧
    ((t.withThreshold t.threshold).withJitter Span.longest).InBounds longestLead
      (Span.shorter Span.longest longestLead) :=
  ⟨_, rfl, by decide, (inBounds_of_lead longestLead).2 _ rfl _ _⟩

end LeaseKeeper.FixedTrigger
