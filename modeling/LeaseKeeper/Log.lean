/-!
# Log lines

A line of a log: its level, its message, and what it says about its subject by name.
-/

namespace LeaseKeeper

/-- How much a line matters. -/
inductive LogLevel where
  | debug
  | info
  | warn
  | error
deriving DecidableEq, Repr

/-- The label of a level. -/
def LogLevel.name : LogLevel → String
  | .debug => "DEBUG"
  | .info => "INFO"
  | .warn => "WARN"
  | .error => "ERROR"

/-- A line of a log. -/
structure LogLine where
  level : LogLevel
  message : String
  fields : List (String × String)
deriving DecidableEq, Repr

end LeaseKeeper
