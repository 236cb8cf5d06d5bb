import ScanWatch.Configuration.Basic
import ScanWatch.Engine.Occurrence
import ScanWatch.Errand
import ScanWatch.Report

namespace ScanWatch

structure Host (m : Type → Type) where
  /-- The text of a file, unless it cannot be read or is no text. -/
  readText : String → m (Option String)
  /-- Creates or empties a file; otherwise the reason why that fails. -/
  createFile : String → m (Except String Unit)
  /-- Sends the requests that run and waits for the next occurrence; none when the engine is
  gone. -/
  await : Client → Engine → m (Option Occurrence)
  result : String → m Unit
  remark : String → m Unit
  /-- How often a session may wait. -/
  patience : Nat

/-- Why a run ends before its session begins. -/
inductive RunError where
  | configuration (path : String) (error : ConfigurationError)
  /-- The location is neither the composer nor a job. -/
  | location (text : String)
  /-- A query was to be composed at the location of a job. -/
  | notComposing
  | query (path : String)
  | engine (failure : Failure)
deriving DecidableEq, Repr

namespace RunError

def message : RunError → String
  | configuration path error => error.message path
  | location text => "unrecognised location " ++ Text.literal text
  | notComposing => "--compile and --submit start from the composer; open \x60/\x60 instead"
  | query path => "reading query " ++ path
  | engine _ => "starting engine"

/-- What an engine says of a client that cannot be made. -/
def engineText (failure : Failure) : String :=
  "api client: " ++ failure.text

def causes : RunError → List String
  | engine failure => [engineText failure, failure.text]
  | _ => []

/-- The lines that tell of an error and of what led to it. -/
def lines (error : RunError) : List String :=
  let causes := error.causes.mapIdx fun index cause => "    " ++ index.repr ++ ": " ++ cause
  ("Error: " ++ error.message) ::
    if causes.isEmpty then [] else "" :: "Caused by:" :: causes

end RunError

namespace Program

variable {m : Type → Type} [Monad m] (host : Host m)

/-- The log messages go to the terminal, and to a file if one is named. -/
def destination (options : Options) : LogDestination :=
  match options.logFile with
  | some path => .both path
  | none => .terminal

/-- Creates the log file, if one is named. -/
def openLog (options : Options) : m Unit := do
  let destination := destination options
  let created ←
    match destination.path? with
    | some path => host.createFile path
    | none => pure (.ok ())
  (LogSetup.of options.logLevel destination created).warning.forM host.remark

def loadConfiguration (options : Options) : ExceptT RunError m Configuration := do
  match options.config with
  | none => return default
  | some path =>
    match ← host.readText path with
    | none => throw (.configuration path .unreadable)
    | some text =>
      match Configuration.parse text with
      | .ok configuration => return configuration
      | .error error => throw (.configuration path error)

def readQuery (path : String) : ExceptT RunError m String := do
  match ← host.readText path with
  | some text => return text
  | none => throw (.query path)

/-- What a run is for. A look at the backend wins over all else; queries start from the
composer. -/
def goal (options : Options) (route : Route) : ExceptT RunError m Goal := do
  if options.backend then return .backend
  if route.hash?.isSome && (options.compile.isSome || options.submit.isSome) then
    throw .notComposing
  match options.compile, options.submit with
  | some path, _ => return .compile (← readQuery host path) options.taint
  | none, some path => return .submit (← readQuery host path) options.taint
  | none, none =>
    match route with
    | .compose => return .browse
    | .job _ => return .watch

/-- Does what a message calls for: lines are written, and commands are served. -/
def perform (engine : Engine) (reaction : Reaction) : m Engine := do
  reaction.lines.forM host.remark
  return (engine.issue reaction.commands).serveAll

/-- Follows an errand until it is done, or there is nothing more to wait for. -/
def follow (client : Client) : (patience : Nat) → Errand → Engine → m Errand
  | 0, errand, _ => return errand
  | patience + 1, errand, engine => do
    if errand.isDone then return errand
    match engine.deliver? with
    | some (event, engine) =>
      let (errand, reaction) := errand.tell event.message
      follow client patience errand (← perform host engine reaction)
    | none =>
      match ← host.await client engine with
      | none => return errand
      | some .quiet =>
        let (errand, reaction) := errand.tell .tick
        follow client patience errand (← perform host engine reaction)
      | some occurrence => follow client patience errand (engine.undergo client occurrence)

def carryOut (client : Client) (settings : PollSettings) (route : Route) (goal : Goal) :
    m View := do
  let (errand, reaction) := Errand.start settings route goal
  let engine ← perform host .idle reaction
  let errand ← follow host client host.patience errand engine
  let (errand, reaction) := errand.finish
  reaction.lines.forM host.remark
  return errand.view

def print (report : Report) : m Bool := do
  report.results.forM host.result
  report.remarks.forM host.remark
  return report.success

def run (options : Options) : ExceptT RunError m Bool := do
  ExceptT.lift (openLog host options)
  let configuration := (← loadConfiguration host options).withOptions options
  match Route.parse? options.route with
  | none => throw (.location options.route)
  | some route =>
    let goal ← goal host options route
    match Client.new configuration.client with
    | .error failure => throw (.engine failure)
    | .ok client =>
      let view ← ExceptT.lift (carryOut host client configuration.poll route goal)
      ExceptT.lift (print host (goal.report view))

end Program

end ScanWatch
