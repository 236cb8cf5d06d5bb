import ScanWatch.Message
import ScanWatch.Tracker.View

namespace ScanWatch

inductive Goal where
  /-- List the taints that the composer offers. -/
  | browse
  /-- Follow the job of the location until it is drained. -/
  | watch
  | compile (rawQuery : String) (taint : Option String)
  | submit (rawQuery : String) (taint : Option String)
  | backend
deriving DecidableEq, Repr

namespace Goal

/-- What the user asks for at the start. -/
def request? : Goal → Option Message
  | browse | watch => none
  | compile rawQuery taint => some (.compileRequested rawQuery taint)
  | submit rawQuery taint => some (.submitRequested rawQuery taint)
  | backend => some .backendStatusRequested

end Goal

/-- Nothing more will be polled. -/
def PollStatus.isDrained : PollStatus → Bool
  | finished | stalled _ => true
  | idle | polling => false

/-- Whether a view is what a session was run for. -/
def Goal.isReached (view : View) : Goal → Bool
  | browse => view.datasetsLoaded
  | watch => view.poll.isDrained
  | compile _ _ => view.queryPlan.isSome || view.queryError.isSome
  | submit _ _ => view.poll.isDrained || (view.jobHash.isNone && view.queryError.isSome)
  | backend => view.alive.isSome || view.backendError.isSome

end ScanWatch
