import ScanWatch.Text.Literal

namespace ScanWatch

inductive LogLevel where
  | off
  | error
  | warn
  | info
  | debug
  | trace
deriving DecidableEq, Repr

inductive LogDestination where
  | file (path : String)
  | terminal
  | both (path : String)
deriving DecidableEq, Repr

namespace LogDestination

/-- The file that has to be created. -/
def path? : LogDestination → Option String
  | file path | both path => some path
  | terminal => none

/-- Whether some logger is left when the file cannot be created. -/
def survives : LogDestination → Bool
  | file _ => false
  | terminal | both _ => true

end LogDestination

/-- What setting up the loggers comes to: the new level, if it changes, and a warning. -/
structure LogSetup where
  level : Option LogLevel
  warning : Option String
deriving DecidableEq, Repr

/-- The warning about a file that cannot be created. -/
def logFileWarning (path reason : String) : String :=
  "Warning: Could not create log file at " ++ Text.literal path ++ ": " ++ reason

/-- Sets up the loggers of a destination, once the creation of its file succeeded or failed for a
reason. A file that cannot be created is passed over; without any logger the level stays. -/
def LogSetup.of (level : LogLevel) (destination : LogDestination) (created : Except String Unit) :
    LogSetup :=
  match destination.path?, created with
  | some path, .error reason =>
    { level := if destination.survives then some level else none
      warning := some (logFileWarning path reason) }
  | _, _ => { level := some level, warning := none }

end ScanWatch
