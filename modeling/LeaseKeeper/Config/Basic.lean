import LeaseKeeper.Strategy
import LeaseKeeper.Trigger

/-!
# Configuration

What can be configured of a session, of the leases of secrets, and of logs and metrics,
with the defaults. Times are whole seconds of sixty-four bits. A section that is renewed
by the clock has a lead time, a threshold that is two seconds longer unless it is given,
and a jitter; they make its trigger, unless the lead time is so long that the threshold
does not fit into a span.
-/

namespace LeaseKeeper

/-- The configuration of a session. -/
structure SessionConfig where
  /-- A token is renewed this long before it expires. -/
  leadSeconds : UInt64
  /-- A token granted for no longer than this is not renewed. -/
  thresholdSeconds : Option UInt64
  /-- Whether the server is asked about tokens of unknown lifetime. -/
  selfLookup : Bool
  /-- How long a blocking caller waits. -/
  blockingTimeoutSeconds : UInt64
  /-- How much earlier, at random, a renewal may happen. -/
  jitterSeconds : UInt64
deriving DecidableEq

/-- The configuration of the leases of secrets. -/
structure LeaseConfig where
  /-- A lease is renewed this long before it expires. -/
  leadSeconds : UInt64
  /-- A lease granted for no longer than this is not renewed. -/
  thresholdSeconds : Option UInt64
  strategy : Strategy
  /-- How much earlier, at random, a renewal may happen. -/
  jitterSeconds : UInt64
  /-- What a renewal asks for; without it, the lease's own lifetime. -/
  incrementSeconds : Option UInt64
deriving DecidableEq

/-- The configuration of logs and metrics. -/
structure ObservabilityConfig where
  enableMetrics : Bool
  serviceName : String
  logLevel : String
  jsonLogging : Bool
deriving DecidableEq

/-- The whole configuration. -/
structure Config where
  session : SessionConfig
  lease : LeaseConfig
  observability : ObservabilityConfig
deriving DecidableEq

/-- The trigger of a lead time, a threshold and a jitter. -/
def triggerOfSeconds? (lead : UInt64) (threshold : Option UInt64) (jitter : UInt64) :
    Option FixedTrigger :=
  (FixedTrigger.ofLead? (Span.ofSeconds lead)).map fun t =>
    (t.withThreshold (match threshold with
      | some s => Span.ofSeconds s
      | none => t.threshold)).withJitter (Span.ofSeconds jitter)

namespace SessionConfig

/-- The configuration of a session unless told otherwise. -/
def default : SessionConfig := ⟨5, none, true, 30, 0⟩

instance : Inhabited SessionConfig := ⟨default⟩

/-- The lead time. -/
def lead (c : SessionConfig) : Span := Span.ofSeconds c.leadSeconds

/-- The jitter. -/
def jitter (c : SessionConfig) : Span := Span.ofSeconds c.jitterSeconds

/-- How long a blocking caller waits. -/
def blockingTimeout (c : SessionConfig) : Span := Span.ofSeconds c.blockingTimeoutSeconds

/-- The trigger of a session. -/
def trigger? (c : SessionConfig) : Option FixedTrigger :=
  triggerOfSeconds? c.leadSeconds c.thresholdSeconds c.jitterSeconds

/-- The threshold of a session. -/
def threshold? (c : SessionConfig) : Option Span := c.trigger?.map FixedTrigger.threshold

end SessionConfig

namespace LeaseConfig

/-- The configuration of leases unless told otherwise. -/
def default : LeaseConfig := ⟨5, none, .dropOnError, 0, none⟩

instance : Inhabited LeaseConfig := ⟨default⟩

/-- The lead time. -/
def lead (c : LeaseConfig) : Span := Span.ofSeconds c.leadSeconds

/-- The jitter. -/
def jitter (c : LeaseConfig) : Span := Span.ofSeconds c.jitterSeconds

/-- What a renewal asks for, if that is fixed. -/
def increment? (c : LeaseConfig) : Option Span := c.incrementSeconds.map Span.ofSeconds

/-- What a renewal of a lease of that lifetime asks for. -/
def increment (c : LeaseConfig) (ttl : Span) : Span := c.increment?.getD ttl

/-- The trigger of leases. -/
def trigger? (c : LeaseConfig) : Option FixedTrigger :=
  triggerOfSeconds? c.leadSeconds c.thresholdSeconds c.jitterSeconds

/-- The threshold of leases. -/
def threshold? (c : LeaseConfig) : Option Span := c.trigger?.map FixedTrigger.threshold

end LeaseConfig

namespace ObservabilityConfig

/-- The configuration of logs and metrics unless told otherwise. -/
def default : ObservabilityConfig := ⟨true, "vault-lifecycle", "info", false⟩

instance : Inhabited ObservabilityConfig := ⟨default⟩

end ObservabilityConfig

namespace Config

/-- The configuration unless told otherwise. -/
def default : Config := ⟨SessionConfig.default, LeaseConfig.default, ObservabilityConfig.default⟩

instance : Inhabited Config := ⟨default⟩

/-! ## Validation -/

/-- A day in seconds. -/
def daySeconds : UInt64 := 86400

/-- An hour in seconds. -/
def hourSeconds : UInt64 := 3600

/-- A complaint about one field, if the field is at fault. -/
def complain (isBad : Bool) (path message : String) : List String :=
  if isBad then [path ++ ": " ++ message] else []

/-- What is wrong with single fields. The complaints have no order of their own; that they stand in the
alphabetical order of the fields makes the text of a refusal a function of the configuration. -/
def fieldComplaints (c : Config) : List String :=
  complain (daySeconds < c.lease.leadSeconds) "lease.lead_time_seconds"
      "Lead time must be at most one day" ++
    complain (c.lease.incrementSeconds == some 0) "lease.renewal_increment_seconds"
      "Renewal increment must be at least one second" ++
    complain c.observability.logLevel.isEmpty "observability.log_level"
      "Log level cannot be empty" ++
    complain c.observability.serviceName.isEmpty "observability.service_name"
      "Service name cannot be empty" ++
    complain (c.session.blockingTimeoutSeconds < 1 ||
        hourSeconds < c.session.blockingTimeoutSeconds) "session.blocking_timeout_seconds"
      "Blocking timeout must be between 1 and 3600 seconds" ++
    complain (daySeconds < c.session.leadSeconds) "session.lead_time_seconds"
      "Lead time must be at most one day"

/-- Whether a configuration can be used: every field by itself first, then the jitter of
either section against its lead time. -/
def validate (c : Config) : Except Fault Unit :=
  match c.fieldComplaints with
  | [] =>
    if c.session.leadSeconds < c.session.jitterSeconds then
      .error (.config "Session jitter cannot exceed the session lead time")
    else if c.lease.leadSeconds < c.lease.jitterSeconds then
      .error (.config "Lease jitter cannot exceed the lease lead time")
    else .ok ()
  | complaints =>
    .error (.config ("Validation failed: " ++ String.intercalate "\n" complaints))

end Config

end LeaseKeeper
