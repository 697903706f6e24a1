import LeaseKeeper.Config.Basic
import LeaseKeeper.Json.Fields

/-!
# Configuration documents

A configuration as a document, and back. Every field has a default, so every one may be
left out; a field that is there has to have the right form.
-/

namespace LeaseKeeper

/-- A number of seconds in a document. -/
def Json.ofWord (n : UInt64) : Json := .nat n.toNat

/-- A number of seconds in a document, or null. -/
def Json.ofWord? (n : Option UInt64) : Json := Json.optional (n.map Json.ofWord)

namespace SessionConfig

/-- The fields of a session's section. -/
def shape : Json.Shape :=
  [("lead_time_seconds", .defaulted), ("valid_ttl_threshold_seconds", .defaulted),
    ("self_lookup", .defaulted), ("blocking_timeout_seconds", .defaulted),
    ("jitter_seconds", .defaulted)]

/-- Reads a session's section. -/
def ofJson? (j : Json) : Option SessionConfig := do
  match ← Json.fields? shape j with
  | [lead, threshold, selfLookup, timeout, jitter] =>
    pure {
      leadSeconds := ← Json.orDefault default.leadSeconds Json.word? lead
      thresholdSeconds :=
        ← Json.orDefault default.thresholdSeconds (Json.nullable Json.word?) threshold
      selfLookup := ← Json.orDefault default.selfLookup Json.bool? selfLookup
      blockingTimeoutSeconds :=
        ← Json.orDefault default.blockingTimeoutSeconds Json.word? timeout
      jitterSeconds := ← Json.orDefault default.jitterSeconds Json.word? jitter }
  | _ => none

/-- Writes a session's section. -/
def toJson (c : SessionConfig) : Json :=
  .object [("lead_time_seconds", .ofWord c.leadSeconds),
    ("valid_ttl_threshold_seconds", .ofWord? c.thresholdSeconds),
    ("self_lookup", .bool c.selfLookup),
    ("blocking_timeout_seconds", .ofWord c.blockingTimeoutSeconds),
    ("jitter_seconds", .ofWord c.jitterSeconds)]

end SessionConfig

namespace LeaseConfig

/-- The fields of the leases' section. -/
def shape : Json.Shape :=
  [("lead_time_seconds", .defaulted), ("valid_ttl_threshold_seconds", .defaulted),
    ("strategy", .defaulted), ("jitter_seconds", .defaulted),
    ("renewal_increment_seconds", .defaulted)]

/-- Reads the leases' section. -/
def ofJson? (j : Json) : Option LeaseConfig := do
  match ← Json.fields? shape j with
  | [lead, threshold, strategy, jitter, increment] =>
    pure {
      leadSeconds := ← Json.orDefault default.leadSeconds Json.word? lead
      thresholdSeconds :=
        ← Json.orDefault default.thresholdSeconds (Json.nullable Json.word?) threshold
      strategy := ← Json.orDefault default.strategy Strategy.ofJson? strategy
      jitterSeconds := ← Json.orDefault default.jitterSeconds Json.word? jitter
      incrementSeconds :=
        ← Json.orDefault default.incrementSeconds (Json.nullable Json.word?) increment }
  | _ => none

/-- Writes the leases' section. -/
def toJson (c : LeaseConfig) : Json :=
  .object [("lead_time_seconds", .ofWord c.leadSeconds),
    ("valid_ttl_threshold_seconds", .ofWord? c.thresholdSeconds),
    ("strategy", c.strategy.toJson), ("jitter_seconds", .ofWord c.jitterSeconds),
    ("renewal_increment_seconds", .ofWord? c.incrementSeconds)]

end LeaseConfig

namespace ObservabilityConfig

/-- The fields of the section on logs and metrics. -/
def shape : Json.Shape :=
  [("enable_metrics", .defaulted), ("service_name", .defaulted), ("log_level", .defaulted),
    ("json_logging", .defaulted)]

/-- Reads the section on logs and metrics. -/
def ofJson? (j : Json) : Option ObservabilityConfig := do
  match ← Json.fields? shape j with
  | [metrics, name, level, json] =>
    pure {
      enableMetrics := ← Json.orDefault default.enableMetrics Json.bool? metrics
      serviceName := ← Json.orDefault default.serviceName Json.text? name
      logLevel := ← Json.orDefault default.logLevel Json.text? level
      jsonLogging := ← Json.orDefault default.jsonLogging Json.bool? json }
  | _ => none

/-- Writes the section on logs and metrics. -/
def toJson (c : ObservabilityConfig) : Json :=
  .object [("enable_metrics", .bool c.enableMetrics), ("service_name", .text c.serviceName),
    ("log_level", .text c.logLevel), ("json_logging", .bool c.jsonLogging)]

end ObservabilityConfig

namespace Config

/-- The sections of a configuration. -/
def shape : Json.Shape :=
  [("session", .defaulted), ("lease", .defaulted), ("observability", .defaulted)]

/-- Reads a configuration. -/
def ofJson? (j : Json) : Option Config := do
  match ← Json.fields? shape j with
  | [session, lease, observability] =>
    pure {
      session := ← Json.orDefault default.session SessionConfig.ofJson? session
      lease := ← Json.orDefault default.lease LeaseConfig.ofJson? lease
      observability :=
        ← Json.orDefault default.observability ObservabilityConfig.ofJson? observability }
  | _ => none

/-- Writes a configuration. -/
def toJson (c : Config) : Json :=
  .object [("session", c.session.toJson), ("lease", c.lease.toJson),
    ("observability", c.observability.toJson)]

end Config

end LeaseKeeper
