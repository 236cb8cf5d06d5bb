import ScanWatch.Message
import ScanWatch.Request
import ScanWatch.Tracker.Basic

namespace ScanWatch.Tracker

/-- The order to drop the pending timer, when there is a loop that may have one. -/
def cancellation (tracker : Tracker) : List Effect :=
  if tracker.ticket.isSome then [.cancelPoll] else []

def onMounted (tracker : Tracker) (route : Route) : Tracker × List Effect :=
  (tracker.mount route.hash?,
    tracker.cancellation ++
      .ask .datasets :: (route.hash?.toList.map fun hash => .ask (.jobQuery hash)))

def onUnmounted (tracker : Tracker) : Tracker × List Effect :=
  (tracker.releaseTicket.leave, tracker.cancellation)

def withQuery (tracker : Tracker) (rawQuery : Option String) : Tracker :=
  match rawQuery with
  | none => tracker
  | some rawQuery => tracker.setRawQuery rawQuery

/-- Switches to a job, in a new polling loop, or back to the composer. -/
def chooseJob (tracker : Tracker) (hash : Option JobHash) (rawQuery : Option String) :
    Tracker × List Effect :=
  let released := (tracker.withQuery rawQuery).releaseTicket
  match hash with
  | none => (released.enterComposing, .navigate .compose :: tracker.cancellation)
  | some hash =>
    (released.enterViewing hash,
      .navigate (.job hash) :: (tracker.cancellation ++
        [.ask (.page (tracker.nextTicket hash) 0 tracker.settings.pageSize.toNat)]))

/-- The next page of the current loop starts where the matches found so far end. -/
def onPollDue (tracker : Tracker) (ticket : PollTicket) : Tracker × List Effect :=
  if tracker.isCurrent ticket then
    (tracker, [.ask (.page ticket tracker.found.length tracker.settings.pageSize.toNat)])
  else (tracker, [])

def onMatchesLoaded (tracker : Tracker) (ticket : PollTicket) (page : MatchPage) :
    Tracker × List Effect :=
  if tracker.isCurrent ticket then
    match tracker.settings.nextStep page.job.status page.items.length with
    | .again delay => (tracker.applyPage page, [.schedulePoll ticket delay])
    | .stop => ((tracker.applyPage page).finishPolling, [])
  else (tracker, [])

def onMatchesFailed (tracker : Tracker) (ticket : PollTicket) (reason : String) :
    Tracker × List Effect :=
  if tracker.isCurrent ticket then (tracker.stallPolling reason, []) else (tracker, [])

/-- Applies a message. Answers about another job, from another polling loop, or to a query that
can no longer be edited leave the tracker as it is. -/
def update (tracker : Tracker) : Message → Tracker × List Effect
  | .mounted route => tracker.onMounted route
  | .unmounted => tracker.onUnmounted
  | .datasetsLoaded datasets => (tracker.setDatasets datasets, [])
  | .jobQueryLoaded hash rawQuery =>
    if tracker.jobHash = some hash then tracker.chooseJob (some hash) (some rawQuery)
    else (tracker, [])
  | .jobQueryFailed hash _ =>
    if tracker.jobHash = some hash then tracker.chooseJob (some hash) none else (tracker, [])
  | .compileRequested rawQuery taint =>
    if tracker.isLocked then (tracker, [])
    else (tracker.setRawQuery rawQuery, [.ask (.compile rawQuery taint)])
  | .submitRequested rawQuery taint =>
    if tracker.isLocked then (tracker, [])
    else (tracker.setRawQuery rawQuery, [.ask (.submit rawQuery taint)])
  | .queryCompiled plan rawQuery =>
    if tracker.isLocked then (tracker, []) else (tracker.setQueryPlan plan rawQuery, [])
  | .queryFailed error rawQuery =>
    if tracker.isLocked then (tracker, []) else (tracker.setQueryError error rawQuery, [])
  | .querySubmitted hash rawQuery => tracker.chooseJob (some hash) (some rawQuery)
  | .jobChosen hash rawQuery => tracker.chooseJob hash rawQuery
  | .collapseToggled => (tracker.toggleCollapsed, [])
  | .pollDue ticket => tracker.onPollDue ticket
  | .matchesLoaded ticket page => tracker.onMatchesLoaded ticket page
  | .matchesFailed ticket reason => tracker.onMatchesFailed ticket reason
  | .backendStatusRequested => (tracker, [.ask .backendStatus])
  | .backendStatusLoaded status => (tracker.setBackendStatus status, [])
  | .backendStatusFailed reason => (tracker.setBackendError reason, [])
  | .tick => (tracker, [])

end ScanWatch.Tracker
