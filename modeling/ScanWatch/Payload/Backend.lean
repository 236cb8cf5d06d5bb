import ScanWatch.Payload.Job

namespace ScanWatch

/-- Progress of a worker's job. -/
structure BackendJob where
  id : String
  connection : String
  request : String
  workDone : UInt64
  workEstimated : UInt64
deriving DecidableEq, Repr, Inhabited

/-- Whether the database answers, and what the workers do. -/
structure BackendStatus where
  alive : Bool
  jobs : List BackendJob
deriving DecidableEq, Repr, Inhabited

/-- One row of the table of workers. -/
structure BackendRow where
  id : String
  connection : String
  request : String
  progress : String
deriving DecidableEq, Repr, Inhabited

namespace BackendJob

def fields : List String :=
  ["id", "connection_id", "request", "work_done", "work_estimated"]

open Payload in
def decode : Decoder BackendJob := Decoder.record fields fun depth members => do
  let id ← members.required "id" (Decoder.text depth)
  let connection ← members.withDefault "connection_id" "" (Decoder.text depth)
  let request ← members.withDefault "request" "" (Decoder.text depth)
  let workDone ← members.withDefault "work_done" 0 (Decoder.count depth)
  let workEstimated ← members.withDefault "work_estimated" 0 (Decoder.count depth)
  return ⟨id, connection, request, workDone, workEstimated⟩

open Payload in
def encode (job : BackendJob) : Json :=
  .object [("id", .string job.id), ("connection_id", .string job.connection),
    ("request", .string job.request), ("work_done", countJson job.workDone),
    ("work_estimated", countJson job.workEstimated)]

/-- Progress is shown as the work done over the work estimated. -/
def row (job : BackendJob) : BackendRow :=
  { id := job.id
    connection := job.connection
    request := job.request
    progress := job.workDone.toNat.repr ++ " / " ++ job.workEstimated.toNat.repr }

end BackendJob

namespace BackendStatus

def fields : List String :=
  ["db_alive", "jobs"]

/-- What a backend that says nothing is taken for. -/
def silent : BackendStatus :=
  ⟨false, []⟩

open Payload in
def decode : Decoder BackendStatus := Decoder.record fields fun depth members => do
  let alive ← members.withDefault "db_alive" false (Decoder.flag depth)
  let jobs ← members.withDefault "jobs" [] (BackendJob.decode.list depth)
  return ⟨alive, jobs⟩

def encode (status : BackendStatus) : Json :=
  .object [("db_alive", .bool status.alive), ("jobs", .array (status.jobs.map BackendJob.encode))]

end BackendStatus

end ScanWatch
