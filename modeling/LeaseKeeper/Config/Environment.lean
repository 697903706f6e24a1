import LeaseKeeper.Config.Basic
import LeaseKeeper.Text.Numeral

/-!
# Configuration from the environment

A configuration from variables whose names begin with `VAULT_LIFECYCLE_`. A variable that
is not set leaves its field at the default; one that cannot be read ends the reading with
the fault of the first such variable, in the order of the fields. The configuration read
is then validated (`Config.ofEnvironment`).
-/

namespace LeaseKeeper

/-- The variables that are set. -/
abbrev Environment := String → Option String

namespace Environment

/-- The environment of these variables. -/
def ofList (vars : List (String × String)) : Environment := fun name => vars.lookup name

/-- What the names of all variables begin with. -/
def mark : String := "VAULT_LIFECYCLE_"

/-- The text of a variable. -/
def raw (env : Environment) (key : String) : Option String := env (mark ++ key)

/-- The fault of a variable that cannot be read. -/
def unreadable (key value reason : String) : Fault :=
  .config ("Invalid " ++ mark ++ key ++ "='" ++ value ++ "': " ++ reason)

/-- A number without the blanks around it. -/
def number (env : Environment) (key : String) : Except Fault (Option UInt64) :=
  match env.raw key with
  | none => .ok none
  | some value =>
    match Text.readNumber (Text.trim value) with
    | .ok n => .ok (some n)
    | .error e => .error (unreadable key value e.message)

/-- The truth value that a word stands for. -/
def flagOfWord? (word : String) : Option Bool :=
  if word = "1" ∨ word = "true" ∨ word = "yes" ∨ word = "on" then some true
  else if word = "0" ∨ word = "false" ∨ word = "no" ∨ word = "off" then some false
  else none

/-- A truth value without the blanks around it, capitals or not. -/
def flag (env : Environment) (key : String) : Except Fault (Option Bool) :=
  match env.raw key with
  | none => .ok none
  | some value =>
    match flagOfWord? (Text.lower (Text.trim value)) with
    | some b => .ok (some b)
    | none => .error (unreadable key value "expected a boolean")

/-- A strategy. -/
def strategy (env : Environment) (key : String) : Except Fault (Option Strategy) :=
  match env.raw key with
  | none => .ok none
  | some value =>
    match Strategy.parse value with
    | .ok s => .ok (some s)
    | .error e => .error (unreadable key value e.message)

end Environment

namespace SessionConfig

/-- Reads a session's section. -/
def ofEnvironment (env : Environment) : Except Fault SessionConfig := do
  let lead ← env.number "SESSION_LEAD_TIME_SECONDS"
  let threshold ← env.number "SESSION_VALID_TTL_THRESHOLD_SECONDS"
  let selfLookup ← env.flag "SESSION_SELF_LOOKUP"
  let timeout ← env.number "SESSION_BLOCKING_TIMEOUT_SECONDS"
  let jitter ← env.number "SESSION_JITTER_SECONDS"
  pure {
    leadSeconds := lead.getD default.leadSeconds
    thresholdSeconds := threshold
    selfLookup := selfLookup.getD default.selfLookup
    blockingTimeoutSeconds := timeout.getD default.blockingTimeoutSeconds
    jitterSeconds := jitter.getD default.jitterSeconds }

end SessionConfig

namespace LeaseConfig

/-- Reads the leases' section. -/
def ofEnvironment (env : Environment) : Except Fault LeaseConfig := do
  let lead ← env.number "LEASE_LEAD_TIME_SECONDS"
  let threshold ← env.number "LEASE_VALID_TTL_THRESHOLD_SECONDS"
  let strategy ← env.strategy "LEASE_STRATEGY"
  let jitter ← env.number "LEASE_JITTER_SECONDS"
  let increment ← env.number "LEASE_RENEWAL_INCREMENT_SECONDS"
  pure {
    leadSeconds := lead.getD default.leadSeconds
    thresholdSeconds := threshold
    strategy := strategy.getD default.strategy
    jitterSeconds := jitter.getD default.jitterSeconds
    incrementSeconds := increment }

end LeaseConfig

namespace ObservabilityConfig

/-- Reads the section on logs and metrics. -/
def ofEnvironment (env : Environment) : Except Fault ObservabilityConfig := do
  let metrics ← env.flag "ENABLE_METRICS"
  let json ← env.flag "JSON_LOGGING"
  pure {
    enableMetrics := metrics.getD default.enableMetrics
    serviceName := (env.raw "SERVICE_NAME").getD default.serviceName
    logLevel := (env.raw "LOG_LEVEL").getD default.logLevel
    jsonLogging := json.getD default.jsonLogging }

end ObservabilityConfig

namespace Config

/-- Reads and validates a configuration. -/
def ofEnvironment (env : Environment) : Except Fault Config := do
  let session ← SessionConfig.ofEnvironment env
  let lease ← LeaseConfig.ofEnvironment env
  let observability ← ObservabilityConfig.ofEnvironment env
  let config : Config := ⟨session, lease, observability⟩
  config.validate
  pure config

end Config

end LeaseKeeper
