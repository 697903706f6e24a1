import LeaseKeeper.Config.Environment
import LeaseKeeper.Log
import LeaseKeeper.LogFilter
import LeaseKeeper.Metrics

/-!
# Observability

Setting up logs and metrics by their section of the configuration. The filter of the log
is the one in the environment, if that is valid, and else the configured one, which must
be; a log that the program already writes is kept as it is. A filter that splits a character
ends the attempt.
-/

namespace LeaseKeeper

/-- What setting up logs and metrics leaves behind. -/
structure Observation where
  lines : List LogLine
  described : List MetricDescription
deriving DecidableEq, Repr

/-- What keeps logs and metrics from being set up. -/
inductive Obstacle where
  | fault (f : Fault)
  | split (s : Split)
deriving DecidableEq, Repr

namespace ObservabilityConfig

/-- The variable that a log filter is taken from. -/
def filterVariable : String := "RUST_LOG"

/-- The configured filter. -/
def ownFilter (c : ObservabilityConfig) : Except Obstacle String :=
  match LogFilter.check c.logLevel with
  | .ok () => .ok c.logLevel
  | .error .malformed =>
    .error (.fault (.config
      ("Invalid log level '" ++ c.logLevel ++ "': invalid filter directive")))
  | .error (.split s) => .error (.split s)

/-- The filter in force: of the environment if it is valid, or else the configured one. -/
def filter (c : ObservabilityConfig) (env : Environment) : Except Obstacle String :=
  match env filterVariable with
  | none => c.ownFilter
  | some f =>
    match LogFilter.check f with
    | .ok () => .ok f
    | .error .malformed => c.ownFilter
    | .error (.split s) => .error (.split s)

/-- The line about a log that is kept. -/
def keptLine : LogLine :=
  ⟨.debug, "Global tracing subscriber already installed; keeping it", []⟩

/-- The line about what was set up. -/
def doneLine (c : ObservabilityConfig) : LogLine :=
  ⟨.info, "Observability initialized", [("service_name", c.serviceName), ("log_level", c.logLevel),
    ("metrics_enabled", Text.truth c.enableMetrics)]⟩

/-- Sets up logs and metrics where a log is already written. -/
def setUp (c : ObservabilityConfig) (env : Environment) : Except Obstacle Observation :=
  (c.filter env).map fun _ =>
    ⟨[keptLine, c.doneLine], if c.enableMetrics then metricDescriptions else []⟩

end ObservabilityConfig

end LeaseKeeper
