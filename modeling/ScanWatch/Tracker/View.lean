import ScanWatch.Tracker.Basic

namespace ScanWatch

structure View where
  mode : Mode := .composing
  collapsed : Bool := false
  jobHash : Option JobHash := none
  rawQuery : String := ""
  /-- A job is open, but its query text is not known yet. -/
  isLoading : Bool := false
  isLocked : Bool := false
  queryPlan : Option QueryPlan := none
  queryError : Option String := none
  matchCount : Nat := 0
  found : List Match := []
  job : Option JobRecord := none
  availableTaints : List String := []
  datasetsLoaded : Bool := false
  alive : Option Bool := none
  backendRows : List BackendRow := []
  backendError : Option String := none
  poll : PollStatus := .idle
  dirty : Bool := false
deriving BEq, Inhabited

def Tracker.view (tracker : Tracker) : View :=
  { mode := tracker.mode
    collapsed := tracker.collapsed
    jobHash := tracker.jobHash
    rawQuery := tracker.rawQuery
    isLoading := tracker.jobHash.isSome && tracker.rawQuery.isEmpty
    isLocked := tracker.isLocked
    queryPlan := tracker.queryPlan
    queryError := tracker.queryError
    matchCount := tracker.found.length
    found := tracker.found
    job := tracker.job
    availableTaints := ScanWatch.availableTaints tracker.datasets
    datasetsLoaded := tracker.datasetsLoaded
    alive := tracker.backend.map BackendStatus.alive
    backendRows := (tracker.backend.map fun status => status.jobs.map BackendJob.row).getD []
    backendError := tracker.backendError
    poll := tracker.poll
    dirty := tracker.dirty }

end ScanWatch
