import ScanWatch.Logging

namespace ScanWatch

structure Options where
  /-- The location to open. -/
  route : String := "/"
  baseUrl : Option String := none
  config : Option String := none
  /-- A file whose query is to be compiled. -/
  compile : Option String := none
  /-- A file whose query is to be run. -/
  submit : Option String := none
  taint : Option String := none
  backend : Bool := false
  pageSize : Option UInt64 := none
  logFile : Option String := none
  verbose : Nat := 0
deriving DecidableEq, Repr

/-- Each repetition lets one more level of log messages through. -/
def Options.logLevel (options : Options) : LogLevel :=
  match options.verbose with
  | 0 => .warn
  | 1 => .info
  | 2 => .debug
  | _ => .trace

/-- Why arguments are refused. Asking for help is one reason. -/
inductive OptionError where
  | unknownArgument
  /-- An option without its value, or with an empty path. -/
  | invalidValue
  /-- A value that is no number. -/
  | notANumber
  /-- A value given to an option that takes none. -/
  | superfluousValue
  /-- An option given twice, or two that exclude each other. -/
  | conflict
  | helpRequested
deriving DecidableEq, Repr

/-- What the environment says for options that are not given. -/
structure Environment where
  baseUrl : Option String := none
  config : Option String := none
deriving DecidableEq, Repr

end ScanWatch
