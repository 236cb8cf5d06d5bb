import ScanWatch.Payload.Backend
import ScanWatch.Payload.Dataset
import ScanWatch.Poll
import ScanWatch.Route

namespace ScanWatch

inductive Message where
  /-- The page was opened at a location. -/
  | mounted (route : Route)
  /-- The page was left. -/
  | unmounted
  | datasetsLoaded (datasets : DatasetMap)
  | jobQueryLoaded (hash : JobHash) (rawQuery : String)
  | jobQueryFailed (hash : JobHash) (reason : String)
  /-- The user asks for the plan of a query. -/
  | compileRequested (rawQuery : String) (taint : Option String)
  /-- The user asks to run a query. -/
  | submitRequested (rawQuery : String) (taint : Option String)
  | queryCompiled (plan : QueryPlan) (rawQuery : String)
  /-- A query was refused, or its request failed. -/
  | queryFailed (error : String) (rawQuery : String)
  | querySubmitted (hash : JobHash) (rawQuery : String)
  /-- Switch to a job, or back to the composer. -/
  | jobChosen (hash : Option JobHash) (rawQuery : Option String)
  /-- The user folds or unfolds the query. -/
  | collapseToggled
  /-- The delay before the next page is over. -/
  | pollDue (ticket : PollTicket)
  | matchesLoaded (ticket : PollTicket) (page : MatchPage)
  | matchesFailed (ticket : PollTicket) (reason : String)
  /-- The user asks what the workers do. -/
  | backendStatusRequested
  | backendStatusLoaded (status : BackendStatus)
  | backendStatusFailed (reason : String)
  /-- Nothing happened for a while. -/
  | tick
deriving BEq

end ScanWatch
