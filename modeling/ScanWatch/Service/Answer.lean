import ScanWatch.Json.Writer
import ScanWatch.Payload.Backend
import ScanWatch.Payload.Dataset
import ScanWatch.Request
import ScanWatch.Service.Reading

namespace ScanWatch

inductive CompileOutcome where
  | plan (plan : QueryPlan)
  | rejected (error : String)
deriving BEq

inductive SubmitOutcome where
  | accepted (hash : JobHash)
  | rejected (error : String)
deriving DecidableEq, Repr

abbrev Request.Answer : Request → Type
  | .datasets => DatasetMap
  | .jobQuery _ => String
  | .page _ _ _ => MatchPage
  | .compile _ _ => CompileOutcome
  | .submit _ _ => SubmitOutcome
  | .backendStatus => BackendStatus

namespace Service

open Payload

def jobQueryBody : Decoder String := Decoder.record ["raw_yara"] fun depth members =>
  members.required "raw_yara" (Decoder.text depth)

def datasetsBody : Decoder DatasetMap := Decoder.record ["datasets"] fun depth members =>
  members.withDefault "datasets" .empty (DatasetMap.decode depth)

def submitBody : Decoder JobHash := Decoder.record ["query_hash"] fun depth members =>
  (members.required "query_hash" (Decoder.text depth)).map JobHash.mk

structure Rejection where
  detail : Option String
  error : Option String
deriving DecidableEq, Repr

/-- An array has to give both fields. -/
def rejectionBody : Decoder Rejection := fun depth tree =>
  let decode := Decoder.record ["detail", "error"] fun depth members => do
    let detail ← members.withDefault "detail" none (Decoder.text.nullable depth)
    let error ← members.withDefault "error" none (Decoder.text.nullable depth)
    return ⟨detail, error⟩
  match tree with
  | .array items => if items.length = 2 then decode depth tree else none
  | _ => decode depth tree

/-- The reason of a rejection: its detail, else its error, else its status. -/
def rejectionText (status : Nat) (body : List UInt8) : String :=
  let rejection := (rejectionBody.ofBytes? body).getD ⟨none, none⟩
  (rejection.detail.or rejection.error).getD (Http.statusText status)

def received (outcome : Http.Outcome) : Except Failure Http.Response :=
  outcome.mapError .ofTransport

def decoded {α : Type} (decode : Decoder α) (body : List UInt8) : Except Failure α :=
  match decode.ofBytes? body with
  | some value => .ok value
  | none => .error .malformed

/-- The verdict on the response to a look-up. Only a success is read. -/
def readLookup {α : Type} (maxBytes : Nat) (decode : Decoder α) (outcome : Http.Outcome) :
    Except Failure α := do
  let response ← received outcome
  if Http.isSuccess response.status then
    let body ← response.read maxBytes
    decoded decode body
  else throw (.ofStatus response.status)

/-- The verdict on the response to a query. A server error is not read; any other status but a
success rejects the query. -/
def readQuery {α : Type} (maxBytes : Nat) (accept : List UInt8 → Except Failure α)
    (reject : String → α) (outcome : Http.Outcome) : Except Failure α := do
  let response ← received outcome
  if Http.isServerError response.status then throw (.ofStatus response.status)
  else
    let body ← response.read maxBytes
    if Http.isSuccess response.status then accept body
    else return reject (rejectionText response.status body)

def read (maxBytes : Nat) : (request : Request) → Http.Outcome → Except Failure request.Answer
  | .datasets => readLookup maxBytes datasetsBody
  | .jobQuery _ => readLookup maxBytes jobQueryBody
  | .page _ _ _ => readLookup maxBytes MatchPage.decode
  | .compile _ _ =>
    readQuery maxBytes (fun body => (decoded Decoder.any body).map .plan) .rejected
  | .submit _ _ =>
    readQuery maxBytes (fun body => (decoded submitBody body).map .accepted) .rejected
  | .backendStatus => readLookup maxBytes BackendStatus.decode

end Service

end ScanWatch
