import ScanWatch.CommandLine.Basic
import ScanWatch.Text.Split

namespace ScanWatch.CommandLine

inductive Valued where
  | baseUrl
  | config
  | compile
  | submit
  | taint
  | pageSize
  | logFile
deriving DecidableEq, Repr

inductive Flag where
  | backend
  | verbose
  | help
deriving DecidableEq, Repr

def valued? : String → Option Valued
  | "base-url" => some .baseUrl
  | "config" => some .config
  | "compile" => some .compile
  | "submit" => some .submit
  | "taint" => some .taint
  | "page-size" => some .pageSize
  | "log-file" => some .logFile
  | _ => none

def flag? : String → Option Flag
  | "backend" => some .backend
  | "verbose" => some .verbose
  | "help" => some .help
  | _ => none

def shortFlag? : Char → Option Flag
  | 'v' => some .verbose
  | 'h' => some .help
  | _ => none

/-- Arguments read so far. An option whose value is awaited, or not yet checked, is pending. -/
structure Progress where
  options : Options := {}
  pending : Option (Valued × Option String) := none
  routeGiven : Bool := false
  /-- All further arguments are locations. -/
  onlyRoutes : Bool := false

/-- A path has to have at least one character. -/
def path? (value : String) : Except OptionError String :=
  if value.isEmpty then .error .invalidValue else .ok value

/-- A number of 64 bits in decimal digits, with an optional plus sign. -/
def number? (value : String) : Except OptionError UInt64 :=
  let digits :=
    match value.toList with
    | '+' :: rest => rest
    | cs => cs
  let number := Nat.ofDigitChars 10 digits 0
  if digits.isEmpty || !digits.all Char.isDigit || UInt64.size ≤ number then .error .notANumber
  else .ok (UInt64.ofNat number)

def fill {α : Type} (place : Option α) (value : Except OptionError α) :
    Except OptionError (Option α) :=
  if place.isSome then .error .conflict else value.map some

def store (options : Options) (option : Valued) (value : String) : Except OptionError Options := do
  match option with
  | .baseUrl => return { options with baseUrl := ← fill options.baseUrl (.ok value) }
  | .config => return { options with config := ← fill options.config (path? value) }
  | .compile => return { options with compile := ← fill options.compile (path? value) }
  | .submit => return { options with submit := ← fill options.submit (path? value) }
  | .taint => return { options with taint := ← fill options.taint (.ok value) }
  | .pageSize => return { options with pageSize := ← fill options.pageSize (number? value) }
  | .logFile => return { options with logFile := ← fill options.logFile (path? value) }

/-- Ends the pending option. -/
def settle (progress : Progress) : Except OptionError Progress :=
  match progress.pending with
  | none => .ok progress
  | some (_, none) => .error .invalidValue
  | some (option, some value) =>
    (store progress.options option value).map fun options =>
      { progress with options, pending := none }

/-- Raises a flag. The level of log messages goes up to 255. -/
def raise (progress : Progress) (flag : Flag) : Except OptionError Progress := do
  let progress ← settle progress
  match flag with
  | .help => throw .helpRequested
  | .backend =>
    if progress.options.backend then throw .conflict
    else return { progress with options := { progress.options with backend := true } }
  | .verbose =>
    let verbose := min 255 (progress.options.verbose + 1)
    return { progress with options := { progress.options with verbose } }

def raiseAll (progress : Progress) : List Char → Except OptionError Progress
  | [] => .ok progress
  | c :: rest =>
    match shortFlag? c with
    | some flag => (raise progress flag).bind fun progress => raiseAll progress rest
    | none => .error .unknownArgument

/-- An option by its long name, with the value attached to it. -/
def long (progress : Progress) (name : String) (attached : Option String) :
    Except OptionError Progress :=
  match valued? name, flag? name, attached with
  | some option, _, some value => do
    let progress ← settle progress
    let options ← store progress.options option value
    return { progress with options }
  | some option, _, none =>
    (settle progress).map fun progress => { progress with pending := some (option, none) }
  | none, some _, some _ => .error .superfluousValue
  | none, some flag, none => raise progress flag
  | none, none, _ => .error .unknownArgument

/-- A location; there is only one. -/
def location (progress : Progress) (argument : String) : Except OptionError Progress :=
  if progress.routeGiven then .error .unknownArgument
  else
    (settle progress).map fun progress =>
      { progress with options := { progress.options with route := argument }, routeGiven := true }

/-- What is neither an option nor its end: the value that is awaited, or a location. -/
def plain (progress : Progress) (argument : String) : Except OptionError Progress :=
  match progress.pending with
  | some (option, none) => .ok { progress with pending := some (option, some argument) }
  | _ => location progress argument

/-- Splits a long option at the first equals sign. -/
def splitAttached (cs : List Char) : String × Option String :=
  let name := cs.takeWhile (· != '=')
  match cs.drop name.length with
  | _ :: value => (String.ofList name, some (String.ofList value))
  | [] => (String.ofList name, none)

def step (progress : Progress) (argument : String) : Except OptionError Progress :=
  if progress.onlyRoutes then location progress argument
  else
    match argument.toList with
    | ['-', '-'] => .ok { progress with onlyRoutes := true }
    | '-' :: '-' :: rest =>
      let (name, attached) := splitAttached rest
      long progress name attached
    | '-' :: first :: rest => raiseAll progress (first :: rest)
    | _ => plain progress argument

/-- Lets the environment stand in for options that are not given. -/
def withEnvironment (options : Options) (environment : Environment) :
    Except OptionError Options := do
  let baseUrl := options.baseUrl.or environment.baseUrl
  match options.config, environment.config with
  | none, some path => return { options with baseUrl, config := some (← path? path) }
  | _, _ => return { options with baseUrl }

/-- Only one of compiling, submitting and looking at the backend may be asked for. -/
def checkGoals (options : Options) : Except OptionError Options :=
  let asked := [options.compile.isSome, options.submit.isSome, options.backend].count true
  if 1 < asked then .error .conflict else .ok options

def parse (arguments : List String) (environment : Environment) : Except OptionError Options := do
  let progress ← arguments.foldlM step {}
  let progress ← settle progress
  let options ← withEnvironment progress.options environment
  checkGoals options

end ScanWatch.CommandLine
