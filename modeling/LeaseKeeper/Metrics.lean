import LeaseKeeper.Span
import LeaseKeeper.Strategy

/-!
# Metrics

What the engines count. A count is the number of marks of its kind (`Metrics.count`), so
nothing is lost between the events of a run and its totals; the gauge of managed secrets
keeps its last value, and the time of every login is kept as it was.
-/

namespace LeaseKeeper

/-- Whose renewals are counted together. -/
inductive RenewalTarget where
  | session
  | lease
deriving DecidableEq, Repr

/-- The label of a target. -/
def RenewalTarget.name : RenewalTarget → String
  | .session => "session"
  | .lease => "lease"

/-- One thing counted once. -/
inductive Mark where
  | login (succeeded : Bool)
  | renewal (target : RenewalTarget) (succeeded : Bool)
  | rotation (mode : Mode) (succeeded : Bool)
  | sessionEvent (kind : String)
  | leaseEvent (kind : String)
deriving DecidableEq, Repr

/-- The label of an outcome. -/
def statusName (succeeded : Bool) : String := if succeeded then "success" else "error"

/-- A metric's name with its labels. -/
def labelled (name : String) (labels : List (String × String)) : String :=
  name ++ "\x7b" ++ String.intercalate "," (labels.map fun l => l.1 ++ "=" ++ l.2) ++ "\x7d"

/-- The counter that a mark belongs to. -/
def Mark.counter : Mark → String
  | .login ok => labelled "vault_lifecycle_logins_total" [("status", statusName ok)]
  | .renewal target ok =>
    labelled "vault_lifecycle_renewals_total" [("target", target.name), ("status", statusName ok)]
  | .rotation mode ok =>
    labelled "vault_lifecycle_rotations_total" [("mode", mode.name), ("status", statusName ok)]
  | .sessionEvent kind =>
    labelled "vault_lifecycle_authentication_events_total" [("event", kind)]
  | .leaseEvent kind => labelled "vault_lifecycle_lease_events_total" [("event", kind)]

/-- Everything counted so far, latest first. -/
structure Metrics where
  marks : List Mark
  managed : Option Nat
  loginSpans : List Span
deriving Inhabited

namespace Metrics

/-- Nothing counted yet. -/
def empty : Metrics := ⟨[], none, []⟩

/-- Counts one thing. -/
def mark (m : Metrics) (k : Mark) : Metrics := { m with marks := k :: m.marks }

/-- Counts a login and keeps how long it took. -/
def login (m : Metrics) (succeeded : Bool) (took : Span) : Metrics :=
  { m.mark (.login succeeded) with loginSpans := took :: m.loginSpans }

/-- Sets the number of managed secrets. -/
def setManaged (m : Metrics) (count : Nat) : Metrics := { m with managed := some count }

/-- How often a thing was counted. -/
def count (m : Metrics) (k : Mark) : Nat := m.marks.count k

@[simp] theorem count_mark (m : Metrics) (j k : Mark) :
    (m.mark j).count k = m.count k + if j = k then 1 else 0 := by
  simp [mark, count, List.count_cons]

/-- The things counted at least once, in the order in which they first were. -/
def kinds (m : Metrics) : List Mark := m.marks.reverse.eraseDups

/-- The counters with their totals. -/
def counters (m : Metrics) : List (String × Nat) :=
  m.kinds.map fun k => (k.counter, m.count k)

/-- What two that report to the same recorder have counted together; the gauge is set by the
second, or else by the first. -/
def joined (a b : Metrics) : Metrics :=
  ⟨b.marks ++ a.marks, b.managed.or a.managed, b.loginSpans ++ a.loginSpans⟩

theorem count_joined (a b : Metrics) (k : Mark) :
    (a.joined b).count k = b.count k + a.count k := List.count_append

/-- The name of the gauge of managed secrets. -/
def managedName : String := "vault_lifecycle_managed_secrets"

/-- The name of the distribution of login times. -/
def loginSpansName : String := "vault_lifecycle_login_duration_seconds"

end Metrics

/-- What kind of number a metric is. -/
inductive MetricType where
  | counter
  | gauge
  | histogram
deriving DecidableEq, Repr

/-- The label of a metric's type. -/
def MetricType.name : MetricType → String
  | .counter => "counter"
  | .gauge => "gauge"
  | .histogram => "histogram"

/-- A metric as it is described to whoever collects it. -/
structure MetricDescription where
  name : String
  type : MetricType
  unit : String
  text : String
deriving DecidableEq, Repr

/-- All metrics. -/
def metricDescriptions : List MetricDescription :=
  [⟨"vault_lifecycle_logins_total", .counter, "count", "Login attempts by outcome"⟩,
    ⟨Metrics.loginSpansName, .histogram, "seconds", "Time spent performing a login"⟩,
    ⟨"vault_lifecycle_renewals_total", .counter, "count",
      "Token and lease renewal attempts by target and outcome"⟩,
    ⟨"vault_lifecycle_rotations_total", .counter, "count",
      "Secret rotations by registration mode and outcome"⟩,
    ⟨"vault_lifecycle_authentication_events_total", .counter, "count",
      "Published session events"⟩,
    ⟨"vault_lifecycle_lease_events_total", .counter, "count", "Published lease events"⟩,
    ⟨Metrics.managedName, .gauge, "count", "Secrets currently registered for lease management"⟩]

end LeaseKeeper
