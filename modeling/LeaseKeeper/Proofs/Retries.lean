import LeaseKeeper.Proofs.Leases.Continuity
import LeaseKeeper.Proofs.Leases.Retries
import LeaseKeeper.Proofs.Session.Continuity
import LeaseKeeper.Proofs.Session.Retries

/-!
# Retries that end in time

Under a fixed trigger of any lead time and jitter, a session, and a lease engine that keeps leases on
transient faults, try a failed renewal again only while that is in time, and drop at once what cannot be
renewed in time; so the retries end before what they are to renew is over, whatever the server answers
and however long it takes (`retries_end_in_time`). The bound is reached: see `retried_to_the_end`.
-/

namespace LeaseKeeper

variable {t : FixedTrigger}

/-- A renewal that fails is tried again in time, or what it was to renew is dropped at once; and nothing
is renewed more often than seconds were left of it. The instant of issue is that at which a credential
or a lease is made, so that it has passed when one is renewed. -/
theorem retries_end_in_time (ht : t.IsMade) (draws : Nat → Nat) :
    (∀ selfLookup canLogInAgain ms,
      Session.RetriesEnd t (.initial ⟨.fixed t, selfLookup, canLogInAgain⟩ .timed draws) ms) ∧
    ∀ increment ms,
      Leases.RetriesEnd t (.initial ⟨.fixed t, .retainOnTransientError, increment⟩ .timed draws) ms :=
  ⟨fun selfLookup canLogInAgain ms => Session.retriesEnd_of_fixed ht selfLookup canLogInAgain draws ms,
    fun increment ms => Leases.retriesEnd_of_fixed ht increment draws ms⟩

/-- The server does not answer, and the renewal fails. -/
def noAnswer : Fault := .transport "reset"

/-- A login of a minute, after which the server answers no renewal. -/
def Session.unanswered : List Session.Move :=
  [.begin .token, .answer 0 (.login (.ok (issuedAt 0)))] ++
    (List.range 10).flatMap fun n =>
      [.elapse ⟨50000 + n * 1000⟩, .fire (n + 1), .answer (n + 1) (.renewal (.error noAnswer))]

/-- An engine under the trigger of ten seconds, with jitter, that keeps leases on transient faults. -/
def Leases.patient : Leases.World :=
  .initial ⟨.fixed jittery, .retainOnTransientError, none⟩ .timed fun _ => 0

/-- A secret of a minute, after which the server answers no renewal. -/
def Leases.unanswered : List Leases.Move :=
  [.begin (.add ⟨"path", .renewable⟩ "kv"), .answer 0 (.fetched (.ok (some (secretAt 0))))] ++
    (List.range 10).flatMap fun n =>
      [.elapse ⟨50000 + n * 1000⟩, .fire (n + 1), .answer (n + 1) (.renewal (.error noAnswer))]

/-- What is installed then. -/
def Leases.grantedFirst : Leases.Snapshot := ⟨0, (secretAt 0).lease, (secretAt 0).data⟩

/-- From ten seconds before the end of a credential it is renewed ten times; then it is dropped. -/
theorem Session.renewed_to_the_end :
    (∃ u v, Passes clocked unanswered u (.fire 1) v ∧ v.renewals = ⟨0, issuedAt 0⟩ :: u.renewals ∧
      u.now = ⟨50000⟩ ∧ u.attempts 0 = 0) ∧
    ∃ v w, Passes clocked unanswered v (.answer 10 (.renewal (.error noAnswer))) w ∧
      v.point? 10 = some (.renewing ⟨0, issuedAt 0⟩ ⟨59000⟩) ∧ v.current = some ⟨0, issuedAt 0⟩ ∧
      v.destroyed = false ∧ run? clocked unanswered = some w ∧ w.attempts 0 = 10 ∧ w.current = none :=
  ⟨⟨_, _, ⟨unanswered.take 3, ⟨_, rfl⟩, rfl, rfl⟩, rfl, rfl, rfl⟩,
    ⟨_, _, ⟨unanswered.dropLast, ⟨[], rfl⟩, rfl, rfl⟩, rfl, rfl, rfl, rfl, rfl, rfl⟩⟩

/-- From ten seconds before the end of a lease it is renewed ten times; then it is lost. -/
theorem Leases.renewed_to_the_end :
    (∃ u v, run? patient (unanswered.take 3) = some u ∧ step u (.fire 1) = some v ∧ u.point? 1 = none ∧
      v.point? 1 = some (.renewing ⟨1⟩ grantedFirst ⟨50000⟩) ∧ u.now = ⟨50000⟩ ∧
      timesAlong step (World.attempts 0) u (unanswered.drop 3) = 10) ∧
    ∃ v w, Passes patient unanswered v (.answer 10 (.renewal (.error noAnswer))) w ∧
      v.point? 10 = some (.renewing ⟨1⟩ grantedFirst ⟨59000⟩) ∧ v.snapshot? ⟨1⟩ = some grantedFirst ∧
      v.destroyed = false ∧ w.snapshot? ⟨1⟩ = none :=
  ⟨⟨_, _, rfl, rfl, rfl, rfl, rfl, rfl⟩,
    ⟨_, _, ⟨unanswered.dropLast, ⟨[], rfl⟩, rfl, rfl⟩, rfl, rfl, rfl, rfl⟩⟩

/-- The bound is reached in both runs: there are as many renewals as it allows, and the last one that
fails is not tried again. -/
theorem retried_to_the_end :
    (∃ v w, Session.run? Session.clocked Session.unanswered = some w ∧ w.attempts 0 = 10 ∧
      w.attempts 0 ≤ (Span.ofSeconds 10).attempts ∧
      Session.Passes Session.clocked Session.unanswered v (.answer 10 (.renewal (.error noAnswer))) w ∧
      v.Settles jittery 10 ⟨0, Session.issuedAt 0⟩ noAnswer w ∧ w.current = none) ∧
    ∃ u v w, Leases.run? Leases.patient (Leases.unanswered.take 3) = some u ∧
      timesAlong Leases.step (Leases.World.attempts 0) u (Leases.unanswered.drop 3) = 10 ∧
      timesAlong Leases.step (Leases.World.attempts 0) u (Leases.unanswered.drop 3) ≤
        (Span.ofSeconds 10).attempts ∧
      Leases.Passes Leases.patient Leases.unanswered v (.answer 10 (.renewal (.error noAnswer))) w ∧
      Leases.Settles jittery v 10 ⟨1⟩ Leases.grantedFirst noAnswer w ∧ w.snapshot? ⟨1⟩ = none := by
  have hlead : FixedTrigger.ofLead? (.ofSeconds 10) = some tenSeconds := by decide
  have hmade : jittery.IsMade := (FixedTrigger.IsMade.ofLead hlead).withJitter _
  obtain ⟨hsession, hleases⟩ := retries_end_in_time hmade fun _ => 0
  constructor
  · have hend := hsession false true Session.unanswered
    obtain ⟨⟨u, u', hfirst, hr, hnow, hnone⟩, v, w, hlast, hp, hc, hd, hw, hten, hgone⟩ :=
      Session.renewed_to_the_end
    refine ⟨v, w, hw, hten, ?_, hlast, hend.settled _ _ _ _ _ _ hlast hp hc hd, hgone⟩
    have hle := hend.counted u _ u' _ w hfirst hr (hnow ▸ by decide) hw
    rw [hnow, hnone, Nat.zero_add] at hle
    exact hle
  · have hend := hleases none Leases.unanswered
    obtain ⟨⟨u, u', hu, hs, hold, hnew, hnow, hten⟩, v, w, hlast, hp, hc, hd, hgone⟩ :=
      Leases.renewed_to_the_end
    refine ⟨u, v, w, hu, hten, ?_, hlast, hend.settled _ _ _ _ _ _ _ hlast hp hc hd, hgone⟩
    have hle := hend.counted (Leases.unanswered.take 3) _ (Leases.unanswered.drop 4) u u' 1 _ _ _ rfl hu hs
      (hold ▸ nofun) hnew (hnow ▸ by decide)
    rw [hnow] at hle
    exact hle

end LeaseKeeper
