import LeaseKeeper.Proofs.Leases.Counting
import LeaseKeeper.Proofs.Leases.Removal
import LeaseKeeper.Proofs.Session.Care
import LeaseKeeper.Proofs.Session.Counting

/-!
# Metrics agree with what happened

A session and a lease engine report to one recorder, and on each channel of both somebody counts from
the start. Then every counter shows how often that happened which it counts (`metrics_agree`): the
counters of attempts follow the answers of the server, and those of events follow what was published.
They differ where an answer comes too late: a lease that is renewed while its secret is removed is
counted among the renewals, but no event tells of it.
-/

namespace LeaseKeeper

/-- What a recorder shows after the moves `ms` of a session from `w₀` and `ns` of a lease engine from
`v₀`. -/
structure Metrics.Agrees (m : Metrics) (w₀ : Session.World) (ms : List Session.Move)
    (w : Session.World) (v₀ : Leases.World) (ns : List Leases.Move) (v : Leases.World) : Prop where
  /-- The gauge, once set, shows how many secrets are registered. -/
  managed : ∀ n, m.managed = some n → n = v.count
  /-- Logins that have ended, by their outcome. -/
  logins : ∀ ok, m.count (.login ok) = timesAlong Session.step (Session.World.answersLogin ok) w₀ ms
  spans : m.loginSpans.length = m.count (.login true) + m.count (.login false)
  /-- Renewals of leases that the server has answered, by their outcome. -/
  leaseRenewals : ∀ ok, m.count (.renewal .lease ok) =
    timesAlong Leases.step (Leases.World.answersRenewal ok) v₀ ns
  /-- Renewals of a token that the server has answered while the session was not shut down. -/
  sessionRenewals : ∀ ok, m.count (.renewal .session ok) =
    timesAlong Session.step (Session.World.answersRenewal ok) w₀ ms
  /-- Fetches other than the first, by what they found. -/
  rotations : ∀ mode ok, m.count (.rotation mode ok) =
    timesAlong Leases.step (Leases.World.answersRotation mode ok) v₀ ns
  sessionEvents : ∀ kind, m.count (.sessionEvent kind) =
    w.history.countP (Session.Happening.publishes kind)
  leaseEvents : ∀ kind, m.count (.leaseEvent kind) =
    v.history.countP (Leases.Happening.publishes kind)
  /-- Events tell of the renewals that succeed while the secret is still looked after, and only the
  others make a difference. -/
  renewed : m.count (.leaseEvent "renewed") =
      timesAlong Leases.step (Leases.World.renewsLive true) v₀ ns ∧
    m.count (.renewal .lease true) = m.count (.leaseEvent "renewed") +
      timesAlong Leases.step (Leases.World.renewsLive false) v₀ ns
  /-- And of the fetches that find a secret while it is still looked after. -/
  rotated : m.count (.leaseEvent "rotated") =
      timesAlong Leases.step (Leases.World.rotatesLive true) v₀ ns ∧
    m.count (.rotation .renewable true) + m.count (.rotation .rotating true) +
        m.count (.rotation .immediate true) = m.count (.leaseEvent "rotated") +
      timesAlong Leases.step (Leases.World.rotatesLive false) v₀ ns

namespace Leases.Reports

variable {v₀ v : Leases.World} {ns : List Leases.Move} (h : Leases.Reports v₀ ns v)

include h

/-- The successful renewals are those in time and those that come too late. -/
theorem renewals_eq : v.audience.metrics.count (.renewal .lease true) =
    v.audience.metrics.count (.leaseEvent "renewed") +
      timesAlong Leases.step (Leases.World.renewsLive false) v₀ ns := by
  rw [h.renewals, h.renewed, timesAlong, timesAlong, timesAlong, ← sumAlong_add]
  exact congrArg (sumAlong Leases.step · v₀ ns) (funext₂ Leases.World.answersRenewal_add)

/-- So are the secrets that other fetches find, of whatever mode. -/
theorem rotations_eq : v.audience.metrics.count (.rotation .renewable true) +
    v.audience.metrics.count (.rotation .rotating true) +
      v.audience.metrics.count (.rotation .immediate true) =
    v.audience.metrics.count (.leaseEvent "rotated") +
      timesAlong Leases.step (Leases.World.rotatesLive false) v₀ ns := by
  rw [h.rotations, h.rotations, h.rotations, h.rotated]
  simp only [timesAlong, ← sumAlong_add]
  exact congrArg (sumAlong Leases.step · v₀ ns) (funext₂ Leases.World.answersRotation_add)

end Leases.Reports

/-- A session and a lease engine that report to one recorder, with somebody who counts on each channel
of both from the start; others may come and go. -/
theorem metrics_agree {settings : Session.Settings} {limits : Leases.Settings} {d d' : Discipline}
    {draws draws' : Nat → Nat} {ls ls' : List (Channel × Observer)} {ids ids' : Channel → Nat}
    {w₀ w : Session.World} {v₀ v : Leases.World} {ms : List Session.Move} {ns : List Leases.Move}
    (hw₀ : Session.run? (.initial settings d draws) (ls.map fun l => .listen l.1 l.2) = some w₀)
    (hv₀ : Leases.run? (.initial limits d' draws') (ls'.map fun l => .listen l.1 l.2) = some v₀)
    (hw : w₀.audience.Metered ids) (hv : v₀.audience.Metered ids') (hms : ∀ m ∈ ms, m.Spares ids)
    (hns : ∀ m ∈ ns, m.Spares ids') (hrun : Session.run? w₀ ms = some w)
    (hrun' : Leases.run? v₀ ns = some v) :
    (w.audience.metrics.joined v.audience.metrics).Agrees w₀ ms w v₀ ns v := by
  have hs := Session.reports_of_run hw₀ hw hms hrun
  have hl := Leases.reports_of_run hv₀ hv hns hrun'
  -- Every mark is made by one of the two only.
  have hsession : ∀ k, k.isSession = true → (w.audience.metrics.joined v.audience.metrics).count k =
      w.audience.metrics.count k := fun k hk => by
    rw [Metrics.count_joined, hl.foreign k hk, Nat.zero_add]
  have hleases : ∀ k, k.isSession = false → (w.audience.metrics.joined v.audience.metrics).count k =
      v.audience.metrics.count k := fun k hk => by
    rw [Metrics.count_joined, hs.foreign k hk, Nat.add_zero]
  refine ⟨fun n hn => ?_, fun ok => ?_, ?_, fun ok => ?_, fun ok => ?_, fun mode ok => ?_,
    fun kind => ?_, fun kind => ?_, ⟨?_, ?_⟩, ?_, ?_⟩
  · refine hl.managed n ?_
    rwa [Metrics.joined, hs.managed, Option.or_none] at hn
  · rw [hsession _ rfl, hs.logins]
  · rw [hsession _ rfl, hsession _ rfl, ← hs.spans, Metrics.joined, hl.spans, List.nil_append]
  · rw [hleases _ rfl, hl.renewals]
  · rw [hsession _ rfl, hs.renewals]
  · rw [hleases _ rfl, hl.rotations]
  · rw [hsession _ rfl, hs.events]
  · rw [hleases _ rfl, hl.events]
  · rw [hleases _ rfl, hl.renewed]
  · rw [hleases _ rfl, hleases _ rfl, hl.renewals_eq]
  · rw [hleases _ rfl, hl.rotated]
  · rw [hleases _ rfl, hleases _ rfl, hleases _ rfl, hleases _ rfl, hl.rotations_eq]

/-- Somebody counts, and somebody else writes a log. -/
def countersFirst : List (Channel × Observer) :=
  [(.regular, ⟨"metrics", .measure⟩), (.errors, ⟨"metrics", .measure⟩), (.regular, ⟨"log", .log⟩)]

/-- The numbers of those who count. -/
def counterIds : Channel → Nat
  | .regular => 1
  | .errors => 2

/-- A login fails, and the next one succeeds; its renewal is answered after the session was shut
down. -/
def Session.shutWhileRenewing : List Session.Move :=
  [.begin .token, .answer 0 (.login (.error (.transport "reset"))), .begin .token,
    .answer 1 (.login (.ok Session.minuteLogin)), .fireNext, .begin .destroy,
    .answer 2 (.renewal (.ok Session.minuteLogin))]

/-- A lease is renewed, and once more while its secret is removed. -/
def Leases.removedWhileRenewing : List Leases.Move :=
  [.begin (.add ⟨"path", .renewable⟩ "kv"), .answer 0 (.fetched (.ok (some Leases.minuteSecret))),
    .fireNext, .answer 1 (.renewal (.ok Leases.laterLease)), .fireNext, .begin (.remove ⟨1⟩),
    .answer 2 (.renewal (.ok Leases.laterLease))]

/-- Two renewals of a lease are counted, and one event tells of them; that of the session is not
counted. -/
theorem metrics_of_late_answers : ∃ w₀ w v₀ v,
    Session.run? Session.early (countersFirst.map fun l => .listen l.1 l.2) = some w₀ ∧
      Session.run? w₀ Session.shutWhileRenewing = some w ∧
      Leases.run? Leases.early (countersFirst.map fun l => .listen l.1 l.2) = some v₀ ∧
      Leases.run? v₀ Leases.removedWhileRenewing = some v ∧
      (w.audience.metrics.joined v.audience.metrics).Agrees w₀ Session.shutWhileRenewing w v₀
        Leases.removedWhileRenewing v ∧
      v.audience.metrics.managed = some 0 ∧ v.audience.metrics.count (.renewal .lease true) = 2 ∧
      v.audience.metrics.count (.leaseEvent "renewed") = 1 ∧
      w.audience.metrics.count (.login true) = 1 ∧ w.audience.metrics.count (.login false) = 1 ∧
      w.audience.metrics.count (.renewal .session true) = 0 := by
  have hw₀ : Session.run? Session.early (countersFirst.map fun l => .listen l.1 l.2) = some _ := rfl
  have hv₀ : Leases.run? Leases.early (countersFirst.map fun l => .listen l.1 l.2) = some _ := rfl
  have hms : ∀ m ∈ Session.shutWhileRenewing, m.Spares counterIds := by
    simp [Session.shutWhileRenewing, Session.Move.Spares]
  have hns : ∀ m ∈ Leases.removedWhileRenewing, m.Spares counterIds := by
    simp [Leases.removedWhileRenewing, Leases.Move.Spares]
  refine ⟨_, _, _, _, hw₀, rfl, hv₀, rfl, ?_, rfl, rfl, rfl, rfl, rfl, rfl⟩
  refine metrics_agree hw₀ hv₀ ⟨fun c => ?_⟩ ⟨fun c => ?_⟩ hms hns rfl rfl
  · cases c <;> rfl
  · cases c <;> rfl

end LeaseKeeper
