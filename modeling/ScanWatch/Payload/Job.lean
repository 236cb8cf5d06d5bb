import ScanWatch.Payload.Decoder

namespace ScanWatch

/-- Opaque identifier of a submitted job. -/
structure JobHash where
  text : String
deriving DecidableEq, Repr, Inhabited

/-- One result record of a job; its content is never looked at. -/
abbrev Match := Json

/-- What a compiled query is answered with; its content is never looked at. -/
abbrev QueryPlan := Json

/-- Lifecycle stage of a job. The set is open: any other text is kept as it came. -/
inductive JobStatus where
  | queued
  | processing
  | done
  | cancelled
  | failed
  | expired
  | other (text : String)
deriving DecidableEq, Repr, Inhabited

namespace JobStatus

/-- The stages that have a meaning of their own. -/
def known : List JobStatus :=
  [queued, processing, done, cancelled, failed, expired]

def text : JobStatus → String
  | queued => "queued"
  | processing => "processing"
  | done => "done"
  | cancelled => "cancelled"
  | failed => "failed"
  | expired => "expired"
  | other text => text

/-- The stage that a text names, told by exact spelling. -/
def ofText (text : String) : JobStatus :=
  (known.find? (fun status => status.text == text)).getD (other text)

/-- Once the backlog is drained no further matches are expected. -/
def isTerminal : JobStatus → Bool
  | done | cancelled | failed | expired => true
  | queued | processing | other _ => false

/-- A stage with a meaning of its own is not kept as mere text. -/
def Canonical (status : JobStatus) : Prop :=
  ∀ stage ∈ known, status ≠ other stage.text

instance (status : JobStatus) : Decidable status.Canonical :=
  inferInstanceAs (Decidable (∀ stage ∈ known, _))

end JobStatus

/-- Latest state of a job. Members other than status and progress are kept for display. -/
structure JobRecord where
  status : JobStatus
  workDone : Option UInt64
  workEstimated : Option UInt64
  extra : Dictionary Json
deriving BEq, Inhabited

/-- One page of a job's matches, with the job as it was then. -/
structure MatchPage where
  items : List Match
  job : JobRecord
deriving BEq, Inhabited

namespace JobRecord

def ofStatus (status : JobStatus) : JobRecord :=
  ⟨status, none, none, .empty⟩

def fields : List String :=
  ["status", "work_done", "work_estimated"]

open Payload in
def decode : Decoder JobRecord := Decoder.openRecord fun depth members => do
  let status ← members.required "status" (Decoder.text depth)
  let workDone ← members.withDefault "work_done" none (Decoder.count.nullable depth)
  let workEstimated ← members.withDefault "work_estimated" none (Decoder.count.nullable depth)
  let extra ← (members.others fields).dictionary? (Decoder.any depth)
  return ⟨JobStatus.ofText status, workDone, workEstimated, extra⟩

end JobRecord

namespace Payload

def countJson (value : UInt64) : Json :=
  .number (.integer value.toNat)

/-- A member that is left out when there is no value. -/
def optionalMember (name : String) (value : Option UInt64) : List (String × Json) :=
  match value with
  | none => []
  | some value => [(name, countJson value)]

end Payload

namespace JobRecord

open Payload in
def encode (job : JobRecord) : Json :=
  .object (("status", .string job.status.text) ::
    (optionalMember "work_done" job.workDone ++
      (optionalMember "work_estimated" job.workEstimated ++ job.extra.entries)))

end JobRecord

namespace MatchPage

def fields : List String :=
  ["matches", "job"]

open Payload in
def decode : Decoder MatchPage := Decoder.record fields fun depth members => do
  let items ← members.withDefault "matches" [] (Decoder.any.list depth)
  let job ← members.required "job" (JobRecord.decode depth)
  return ⟨items, job⟩

def encode (page : MatchPage) : Json :=
  .object [("matches", .array page.items), ("job", page.job.encode)]

end MatchPage

end ScanWatch
