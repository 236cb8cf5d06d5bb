import ScanWatch.CommandLine.Reading
import ScanWatch.CommandLine.Usage
import ScanWatch.Program
import ScanWatch.Transport

namespace ScanWatch.Main

/-- A request on its way, and when it was sent. -/
structure Sent where
  request : Request
  since : Nat
  outcome : Task (Except IO.Error Http.Outcome)

/-- Requests on their way, and when each timer is due. -/
structure Waiting where
  sent : List Sent
  deadlines : List Nat

/-- After this many milliseconds without an occurrence the session looks up. -/
def quietAfter : Nat :=
  75

/-- Sends what is not sent yet, and sets the clock for new timers. -/
def Waiting.withNew (waiting : Waiting) (client : Client) (engine : Engine) (now : Nat) :
    IO Waiting := do
  let unsent := waiting.sent.foldl (fun running sent => running.erase sent.request) engine.running
  let sent ← unsent.mapM fun request => do
    let outcome ← IO.asTask (Transport.send client request) Task.Priority.dedicated
    return ⟨request, now, outcome⟩
  let timers := engine.timers.started.drop waiting.deadlines.length
  return ⟨waiting.sent ++ sent, waiting.deadlines ++ timers.map (now + ·.delay.toNat)⟩

/-- What became of a request; one that takes too long has failed. -/
def Sent.outcome? (sent : Sent) (client : Client) (now : Nat) : IO (Option Http.Outcome) := do
  if ← IO.hasFinished sent.outcome then
    match sent.outcome.get with
    | .ok outcome => return some outcome
    | .error _ => return some (.error (Http.unreachable (client.send sent.request)))
  else if sent.since + 1000 * client.settings.requestTimeoutSecs.toNat ≤ now then
    return some (.error { Http.unreachable (client.send sent.request) with timedOut := true })
  else return none

/-- The first request that came to an end, and the requests without it. -/
def firstEnded (client : Client) (now : Nat) :
    List Sent → IO (Option (Occurrence × List Sent))
  | [] => return none
  | sent :: rest => do
    match ← sent.outcome? client now with
    | some outcome => return some (.answered sent.request outcome, rest)
    | none =>
      let ended ← firstEnded client now rest
      return ended.map fun (occurrence, rest) => (occurrence, sent :: rest)

/-- The first live timer whose time has come. -/
def firstDue (engine : Engine) (deadlines : List Nat) (now : Nat) : Option Occurrence :=
  ((engine.timers.started.zip deadlines).findIdx? fun (timer, deadline) =>
    timer.phase = .live && deadline ≤ now).map .expired

/-- Waits for an occurrence, or until nothing happened for a while. -/
partial def wait (client : Client) (engine : Engine) (waiting : Waiting) (start : Nat) :
    IO (Occurrence × Waiting) := do
  let now ← IO.monoMsNow
  match ← firstEnded client now waiting.sent with
  | some (occurrence, sent) => return (occurrence, { waiting with sent })
  | none =>
    match firstDue engine waiting.deadlines now with
    | some occurrence => return (occurrence, waiting)
    | none =>
      if start + quietAfter ≤ now then return (.quiet, waiting)
      IO.sleep 1
      wait client engine waiting start

def readText (path : String) : IO (Option String) := do
  try return some (← IO.FS.readFile path)
  catch _ => return none

/-- The system's words for an error, and its number. -/
def reason : IO.Error → String
  | .noFileOrDirectory _ code details | .inappropriateType _ code details
  | .permissionDenied _ code details | .invalidArgument _ code details =>
    details ++ " (os error " ++ code.toNat.repr ++ ")"
  | error => toString error

def createFile (path : String) : IO (Except String Unit) := do
  try
    IO.FS.writeFile path ""
    return .ok ()
  catch error => return .error (reason error)

/-- The outside of a run. A session may wait longer than anyone will. -/
def host (state : IO.Ref Waiting) : Host IO where
  readText := readText
  createFile := createFile
  await client engine := do
    let now ← IO.monoMsNow
    let waiting ← (← state.get).withNew client engine now
    let (occurrence, waiting) ← wait client engine waiting now
    state.set waiting
    return some occurrence
  result := IO.println
  remark := IO.eprintln
  patience := UInt64.size

/-- Runs the program; its exit code. -/
def run (options : Options) : IO UInt32 := do
  let state ← IO.mkRef ⟨[], []⟩
  let ending ← (Program.run (host state) options).run
  (← state.get).sent.forM fun sent => IO.cancel sent.outcome
  match ending with
  | .ok success => return if success then 0 else 1
  | .error error =>
    error.lines.forM IO.eprintln
    return 1

end ScanWatch.Main

open ScanWatch in
/-- The options of the arguments and the environment are carried out. -/
def main (arguments : List String) : IO UInt32 := do
  let environment : Environment :=
    ⟨← IO.getEnv "SCANVIEW_BASE_URL", ← IO.getEnv "SCANVIEW_CONFIG"⟩
  match CommandLine.parse arguments environment with
  | .ok options => ScanWatch.Main.run options
  | .error .helpRequested =>
    CommandLine.usage.forM IO.println
    return 0
  | .error error =>
    IO.eprintln ("error: " ++ error.message)
    return 2
