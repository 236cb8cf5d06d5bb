import ScanWatch.Text.Grouping
import ScanWatch.Tracker.View

namespace ScanWatch

def PollStatus.label : PollStatus → String
  | .idle => "idle"
  | .polling => "polling"
  | .finished => "finished"
  | .stalled reason => "stalled (" ++ reason ++ ")"

namespace View

/-- Progress is shown once both the work done and the work estimated are known. -/
def progress (view : View) : String :=
  match view.job with
  | some { workDone := some done, workEstimated := some estimated, .. } =>
    " | progress: " ++ Text.grouped done.toNat ++ " / " ++ Text.grouped estimated.toNat
  | _ => ""

/-- What became of the last query, if anything did. -/
def verdict (view : View) : String :=
  match view.queryError, view.queryPlan with
  | some error, _ => " | error: " ++ error
  | none, some _ => " | compiled"
  | none, none => ""

def composingLine (view : View) : String :=
  "Composing | taints: " ++ view.availableTaints.length.repr ++ view.verdict

def viewingLine (view : View) : String :=
  let hash := (view.jobHash.map JobHash.text).getD "?"
  let status := (view.job.map fun job => job.status.text).getD "loading"
  "Job " ++ hash ++ " [" ++ status ++ "] | matches: " ++ Text.grouped view.matchCount ++
    view.progress ++ " | " ++ view.poll.label

def statusLine (view : View) : String :=
  match view.mode with
  | .composing => view.composingLine
  | .viewing => view.viewingLine

end View

end ScanWatch
