import ScanWatch.Message
import ScanWatch.Service.Answer

namespace ScanWatch

/-- The answer to a request, known by what the request was about, or the end of a delay. -/
inductive Event where
  | datasetsLoaded (result : Except Failure DatasetMap)
  | jobQueryLoaded (hash : JobHash) (result : Except Failure String)
  | matchesLoaded (ticket : PollTicket) (result : Except Failure MatchPage)
  | pollDue (ticket : PollTicket)
  | queryCompiled (rawQuery : String) (result : Except Failure CompileOutcome)
  | querySubmitted (rawQuery : String) (result : Except Failure SubmitOutcome)
  | backendStatusLoaded (result : Except Failure BackendStatus)

/-- The event that reports the answer to a request. -/
def Request.event : (request : Request) → Except Failure request.Answer → Event
  | .datasets, result => .datasetsLoaded result
  | .jobQuery hash, result => .jobQueryLoaded hash result
  | .page ticket _ _, result => .matchesLoaded ticket result
  | .compile rawQuery _, result => .queryCompiled rawQuery result
  | .submit rawQuery _, result => .querySubmitted rawQuery result
  | .backendStatus, result => .backendStatusLoaded result

/-- What a tracker is told. Datasets that cannot be loaded are taken for none; other failures are
told in words. -/
def Event.message : Event → Message
  | .datasetsLoaded (.ok datasets) => .datasetsLoaded datasets
  | .datasetsLoaded (.error _) => .datasetsLoaded .empty
  | .jobQueryLoaded hash (.ok rawQuery) => .jobQueryLoaded hash rawQuery
  | .jobQueryLoaded hash (.error failure) => .jobQueryFailed hash failure.text
  | .matchesLoaded ticket (.ok page) => .matchesLoaded ticket page
  | .matchesLoaded ticket (.error failure) => .matchesFailed ticket failure.text
  | .pollDue ticket => .pollDue ticket
  | .queryCompiled rawQuery (.ok (.plan plan)) => .queryCompiled plan rawQuery
  | .queryCompiled rawQuery (.ok (.rejected error)) => .queryFailed error rawQuery
  | .queryCompiled rawQuery (.error failure) => .queryFailed failure.text rawQuery
  | .querySubmitted rawQuery (.ok (.accepted hash)) => .querySubmitted hash rawQuery
  | .querySubmitted rawQuery (.ok (.rejected error)) => .queryFailed error rawQuery
  | .querySubmitted rawQuery (.error failure) => .queryFailed failure.text rawQuery
  | .backendStatusLoaded (.ok status) => .backendStatusLoaded status
  | .backendStatusLoaded (.error failure) => .backendStatusFailed failure.text

end ScanWatch
