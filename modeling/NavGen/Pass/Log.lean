/-!
# The log of a pass

Messages with a level, in the order written. Debug messages are written always and kept on request.
-/

namespace NavGen

/-- How much a message matters. -/
inductive LogLevel where
  | debug | info | warn | error
  deriving DecidableEq

/-- The word for a level. -/
def LogLevel.word : LogLevel → String
  | .debug => "debug"
  | .info => "info"
  | .warn => "warn"
  | .error => "error"

/-- A message of a log. -/
structure LogEntry where
  level : LogLevel
  message : String
  deriving DecidableEq

/-- A log. -/
abbrev Log := List LogEntry

/-- The messages that are kept, with or without those for debugging. -/
def Log.kept (debug : Bool) (log : Log) : Log :=
  log.filter fun entry => debug || entry.level != .debug

end NavGen
