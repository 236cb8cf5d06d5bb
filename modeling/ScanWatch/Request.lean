import ScanWatch.Poll
import ScanWatch.Route

namespace ScanWatch

/-- A question to the service, with what its answer is known by. -/
inductive Request where
  | datasets
  /-- The query text that a job was submitted with. -/
  | jobQuery (hash : JobHash)
  /-- One page of a job's matches. -/
  | page (ticket : PollTicket) (offset limit : Nat)
  /-- The plan of a query. -/
  | compile (rawQuery : String) (taint : Option String)
  /-- The job of a query that is run. -/
  | submit (rawQuery : String) (taint : Option String)
  | backendStatus
deriving DecidableEq, Repr

inductive Effect where
  | navigate (route : Route)
  | ask (request : Request)
  | schedulePoll (ticket : PollTicket) (delay : UInt64)
  | cancelPoll
deriving DecidableEq, Repr

end ScanWatch
