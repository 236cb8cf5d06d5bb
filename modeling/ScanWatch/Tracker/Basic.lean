import ScanWatch.Payload.Backend
import ScanWatch.Payload.Dataset
import ScanWatch.Poll

/-! The tracker: the query being composed, or the job being followed with the matches found so
far. -/

namespace ScanWatch

inductive Mode where
  | composing
  | viewing
deriving DecidableEq, Repr, Inhabited

structure Tracker where
  mode : Mode := .composing
  collapsed : Bool := false
  jobHash : Option JobHash := none
  rawQuery : String := ""
  queryPlan : Option QueryPlan := none
  queryError : Option String := none
  found : List Match := []
  job : Option JobRecord := none
  datasets : DatasetMap := .empty
  datasetsLoaded : Bool := false
  backend : Option BackendStatus := none
  backendError : Option String := none
  ticket : Option PollTicket := none
  /-- The epoch of the latest polling loop; it is never reset. -/
  lastEpoch : UInt64 := 0
  poll : PollStatus := .idle
  settings : PollSettings := .default
  /-- Something changed since the last look. -/
  dirty : Bool := false
deriving BEq, Inhabited

namespace Tracker

def fresh : Tracker := {}

/-- A tracker that nothing was told; its pages hold at least one match. -/
def withSettings (settings : PollSettings) : Tracker :=
  { settings := settings.raised }

/-- A query cannot be edited while a job is followed. -/
def isLocked (tracker : Tracker) : Bool :=
  tracker.jobHash.isSome

def isCurrent (tracker : Tracker) (ticket : PollTicket) : Bool :=
  tracker.ticket == some ticket

def setRawQuery (tracker : Tracker) (rawQuery : String) : Tracker :=
  { tracker with rawQuery, dirty := true }

/-- Starts anew at a location; only the settings and the last epoch are kept. -/
def mount (tracker : Tracker) (jobHash : Option JobHash) : Tracker :=
  { mode := if jobHash.isSome then .viewing else .composing
    jobHash
    settings := tracker.settings
    lastEpoch := tracker.lastEpoch
    dirty := true }

def clearResults (tracker : Tracker) : Tracker :=
  { tracker with found := [], job := none }

def setQueryPlan (tracker : Tracker) (plan : QueryPlan) (rawQuery : String) : Tracker :=
  { tracker.clearResults with
    mode := .composing, queryPlan := some plan, queryError := none, rawQuery, dirty := true }

def setQueryError (tracker : Tracker) (error : String) (rawQuery : String) : Tracker :=
  { tracker.clearResults with
    mode := .composing, queryPlan := none, queryError := some error, rawQuery, dirty := true }

def releaseTicket (tracker : Tracker) : Tracker :=
  { tracker with ticket := none }

def enterComposing (tracker : Tracker) : Tracker :=
  { tracker.clearResults with mode := .composing, jobHash := none, poll := .idle, dirty := true }

def nextTicket (tracker : Tracker) (hash : JobHash) : PollTicket :=
  ⟨hash, tracker.lastEpoch + 1⟩

/-- Follows a job from its first match, in a polling loop of its own. -/
def enterViewing (tracker : Tracker) (hash : JobHash) : Tracker :=
  { tracker.clearResults with
    mode := .viewing
    collapsed := true
    queryPlan := none
    queryError := none
    jobHash := some hash
    ticket := some (tracker.nextTicket hash)
    lastEpoch := tracker.lastEpoch + 1
    poll := .polling
    dirty := true }

/-- Lets go of the job; its results stay to be seen. -/
def leave (tracker : Tracker) : Tracker :=
  { tracker with
    jobHash := none
    mode := .composing
    poll := if tracker.poll = .polling then .idle else tracker.poll
    dirty := true }

def applyPage (tracker : Tracker) (page : MatchPage) : Tracker :=
  { tracker with found := tracker.found ++ page.items, job := some page.job, dirty := true }

def finishPolling (tracker : Tracker) : Tracker :=
  { tracker with ticket := none, poll := .finished, dirty := true }

def stallPolling (tracker : Tracker) (reason : String) : Tracker :=
  { tracker with ticket := none, poll := .stalled reason, dirty := true }

def toggleCollapsed (tracker : Tracker) : Tracker :=
  { tracker with collapsed := !tracker.collapsed, dirty := true }

def setDatasets (tracker : Tracker) (datasets : DatasetMap) : Tracker :=
  { tracker with datasets, datasetsLoaded := true, dirty := true }

def setBackendStatus (tracker : Tracker) (status : BackendStatus) : Tracker :=
  { tracker with backend := some status, backendError := none, dirty := true }

def setBackendError (tracker : Tracker) (reason : String) : Tracker :=
  { tracker with backendError := some reason, dirty := true }

/-- Whether a look is due, and the tracker after it. -/
def consumeDirty (tracker : Tracker) : Bool × Tracker :=
  (tracker.dirty, { tracker with dirty := false })

end Tracker

end ScanWatch
