import Mathlib
import ScanWatch.Proofs.Service.Reading
import ScanWatch.Service.Client

namespace ScanWatch

def Request.isQuery : Request → Bool
  | .compile _ _ | .submit _ _ => true
  | .datasets | .jobQuery _ | .page _ _ _ | .backendStatus => false

/-- The kind of failure that a result reports. -/
def FailureKind.of? {α : Type} : Except Failure α → Option FailureKind
  | .error failure => some failure.kind
  | .ok _ => none

namespace Service

open Payload

def content? : (request : Request) → List UInt8 → Option request.Answer
  | .datasets => datasetsBody.ofBytes?
  | .jobQuery _ => jobQueryBody.ofBytes?
  | .page _ _ _ => MatchPage.decode.ofBytes?
  | .compile _ _ => fun content => (Decoder.any.ofBytes? content).map .plan
  | .submit _ _ => fun content => (submitBody.ofBytes? content).map .accepted
  | .backendStatus => BackendStatus.decode.ofBytes?

/-- The answer that tells of a rejection; only queries have one. -/
def rejected? (reason : String) : (request : Request) → Option request.Answer
  | .compile _ _ => some (.rejected reason)
  | .submit _ _ => some (.rejected reason)
  | .datasets | .jobQuery _ | .page _ _ _ | .backendStatus => none

/-- Whether a status makes a request fail before the body is read. -/
def fails (request : Request) (status : Nat) : Bool :=
  if request.isQuery then Http.isServerError status else !Http.isSuccess status

/-- The reason of a rejection: the detail that the body gives, else its error; where it gives
neither or cannot be read, the status in words. -/
inductive Reason (status : Nat) (content : List UInt8) : String → Prop where
  | detail {detail : String} {error : Option String}
      (read : rejectionBody.ofBytes? content = some ⟨some detail, error⟩) :
      Reason status content detail
  | error {error : String} (read : rejectionBody.ofBytes? content = some ⟨none, some error⟩) :
      Reason status content error
  | silent (read : rejectionBody.ofBytes? content = some ⟨none, none⟩) :
      Reason status content (Http.statusText status)
  | unreadable (unread : rejectionBody.ofBytes? content = none) :
      Reason status content (Http.statusText status)

private theorem reason_iff {status : Nat} {content : List UInt8} {reason : String} :
    Reason status content reason ↔ reason = rejectionText status content := by
  constructor
  · intro reason
    cases reason with
    | detail read | error read | silent read | unreadable read => simp [rejectionText, read]
  · rintro rfl
    unfold rejectionText
    rcases read : rejectionBody.ofBytes? content with _ | ⟨_ | detail, _ | error⟩
    · exact .unreadable read
    · exact .silent read
    · exact .error read
    · exact .detail read
    · exact .detail read

/-- What may become of a request, given the status of the response and the bytes of its body. -/
inductive Verdict (maxBytes : Nat) (request : Request) (status : Nat) (content : List UInt8) :
    Except Failure request.Answer → Prop where
  | failed (failed : fails request status = true) :
      Verdict maxBytes request status content (.error (.ofStatus status))
  | tooLarge (reads : fails request status = false) (exceeds : maxBytes < content.length)
      (actual : Nat) :
      Verdict maxBytes request status content (.error (.tooLarge maxBytes actual))
  | malformed (reads : fails request status = false) (fits : content.length ≤ maxBytes)
      (success : Http.isSuccess status = true) (unread : content? request content = none) :
      Verdict maxBytes request status content (.error .malformed)
  | answered (reads : fails request status = false) (fits : content.length ≤ maxBytes)
      (success : Http.isSuccess status = true) {answer : request.Answer}
      (read : content? request content = some answer) :
      Verdict maxBytes request status content (.ok answer)
  | rejected (reads : fails request status = false) (fits : content.length ≤ maxBytes)
      (refused : Http.isSuccess status = false) {answer : request.Answer}
      (told : rejected? (rejectionText status content) request = some answer) :
      Verdict maxBytes request status content (.ok answer)

variable {maxBytes : Nat} {request : Request} {response : Http.Response} {content : List UInt8}

private theorem Verdict.of_success (reads : fails request response.status = false)
    (fits : content.length ≤ maxBytes) (success : Http.isSuccess response.status = true)
    {result : Except Failure request.Answer}
    (answered : ∀ answer, content? request content = some answer → result = .ok answer)
    (malformed : content? request content = none → result = .error .malformed) :
    Verdict maxBytes request response.status content result := by
  cases read : content? request content with
  | some answer =>
    rw [answered answer read]
    exact .answered reads fits success read
  | none =>
    rw [malformed read]
    exact .malformed reads fits success read

private theorem decoded_of_some {α : Type} {decode : Decoder α} {value : α}
    (read : decode.ofBytes? content = some value) : decoded decode content = .ok value := by
  rw [decoded, read]

private theorem decoded_of_none {α : Type} {decode : Decoder α}
    (unread : decode.ofBytes? content = none) :
    decoded decode content = .error .malformed := by
  rw [decoded, unread]

theorem readLookup_ok {α : Type} (maxBytes : Nat) (decode : Decoder α) (response : Http.Response) :
    readLookup maxBytes decode (.ok response) =
      if Http.isSuccess response.status then response.read maxBytes >>= decoded decode
      else .error (.ofStatus response.status) := rfl

private theorem readQuery_ok {α : Type} (maxBytes : Nat) (accept : List UInt8 → Except Failure α)
    (reject : String → α) (response : Http.Response) :
    readQuery maxBytes accept reject (.ok response) =
      if Http.isServerError response.status then .error (.ofStatus response.status)
      else response.read maxBytes >>= fun body =>
        if Http.isSuccess response.status then accept body
        else .ok (reject (rejectionText response.status body)) := rfl

private theorem Verdict.of_lookup (carries : response.Carries content)
    (lookup : request.isQuery = false)
    {decode : Decoder request.Answer} (body : content? request = decode.ofBytes?) :
    Verdict maxBytes request response.status content
      (readLookup maxBytes decode (.ok response)) := by
  have status : fails request response.status = !Http.isSuccess response.status := by
    simp [fails, lookup]
  rw [readLookup_ok]
  split
  · next success =>
    have reads : fails request response.status = false := by rw [status, success]; rfl
    by_cases fits : content.length ≤ maxBytes
    · rw [carries.read_within fits]
      refine .of_success reads fits success (fun answer read => ?_) fun unread => ?_
      · exact decoded_of_some (body ▸ read)
      · exact decoded_of_none (body ▸ unread)
    · obtain ⟨actual, stopped⟩ := carries.read_beyond (Nat.lt_of_not_le fits)
      rw [stopped]
      exact .tooLarge reads (Nat.lt_of_not_le fits) actual
  · next refused => exact .failed (by rw [status, Bool.not_eq_true _ |>.mp refused]; rfl)

private theorem Verdict.of_query (carries : response.Carries content)
    (query : request.isQuery = true)
    {accept : List UInt8 → Except Failure request.Answer} {reject : String → request.Answer}
    (answered : ∀ answer, content? request content = some answer → accept content = .ok answer)
    (malformed : content? request content = none → accept content = .error .malformed)
    (rejected : ∀ reason, rejected? reason request = some (reject reason)) :
    Verdict maxBytes request response.status content
      (readQuery maxBytes accept reject (.ok response)) := by
  have status : fails request response.status = Http.isServerError response.status := by
    simp [fails, query]
  rw [readQuery_ok]
  split
  · next failed => exact .failed (status.trans failed)
  · next served =>
    have reads : fails request response.status = false :=
      status.trans (Bool.not_eq_true _ |>.mp served)
    by_cases fits : content.length ≤ maxBytes
    · rw [carries.read_within fits]
      change Verdict _ _ _ _ (ite _ _ _)
      split
      · next success => exact .of_success reads fits success answered malformed
      · next refused =>
        exact .rejected reads fits (Bool.not_eq_true _ |>.mp refused) (rejected _)
    · obtain ⟨actual, stopped⟩ := carries.read_beyond (Nat.lt_of_not_le fits)
      rw [stopped]
      exact .tooLarge reads (Nat.lt_of_not_le fits) actual

/-- What the client makes of a response is the verdict. -/
theorem answer_verdict (client : Client) (request : Request) (carries : response.Carries content) :
    Verdict client.maxBytes request response.status content
      (client.answer request (.ok response)) := by
  cases request with
  | datasets | jobQuery | page | backendStatus => exact .of_lookup carries rfl rfl
  | compile rawQuery taint | submit rawQuery taint =>
    refine .of_query carries rfl (fun answer read => ?_) (fun unread => ?_) fun reason => rfl
    · obtain ⟨value, found, rfl⟩ := Option.map_eq_some_iff.mp read
      rw [decoded_of_some found]
      rfl
    · rw [decoded_of_none (Option.map_eq_none_iff.mp unread)]
      rfl

/-- The rule for look-ups: any status but a success fails, whatever the body is; then a body beyond
the limit; then one that is not what was asked for. -/
structure LookupRule (maxBytes : Nat) (request : Request) (status : Nat) (content : List UInt8)
    (result : Except Failure request.Answer) : Prop where
  failed : ∀ code, FailureKind.of? result = some (.httpStatus code) ↔
    Http.isSuccess status = false ∧ code = status
  tooLarge : (∃ limit actual, FailureKind.of? result = some (.tooLarge limit actual)) ↔
    Http.isSuccess status = true ∧ maxBytes < content.length
  malformed : FailureKind.of? result = some .decode ↔
    Http.isSuccess status = true ∧ content.length ≤ maxBytes ∧ content? request content = none
  answer : ∀ answer, result = .ok answer ↔
    Http.isSuccess status = true ∧ content.length ≤ maxBytes ∧
      content? request content = some answer

/-- The rule for queries: a server error fails, whatever the body is; then a body beyond the limit;
then a success whose body is not what was asked for. Any other status rejects the query. -/
structure QueryRule (maxBytes : Nat) (request : Request) (status : Nat) (content : List UInt8)
    (result : Except Failure request.Answer) : Prop where
  failed : ∀ code, FailureKind.of? result = some (.httpStatus code) ↔
    Http.isServerError status = true ∧ code = status
  tooLarge : (∃ limit actual, FailureKind.of? result = some (.tooLarge limit actual)) ↔
    Http.isServerError status = false ∧ maxBytes < content.length
  malformed : FailureKind.of? result = some .decode ↔
    Http.isSuccess status = true ∧ content.length ≤ maxBytes ∧ content? request content = none
  answer : ∀ answer, result = .ok answer ↔
    Http.isServerError status = false ∧ content.length ≤ maxBytes ∧
      (Http.isSuccess status = true ∧ content? request content = some answer ∨
        Http.isSuccess status = false ∧ ∃ reason, Reason status content reason ∧
          rejected? reason request = some answer)

private theorem isServerError_of_isSuccess {status : Nat} (success : Http.isSuccess status = true) :
    Http.isServerError status = false := by
  simp only [Http.isSuccess, Bool.and_eq_true, decide_eq_true_eq] at success
  simp only [Http.isServerError, Bool.and_eq_false_iff, decide_eq_false_iff_not]
  omega

private theorem rejected?_of_lookup (lookup : request.isQuery = false) (reason : String) :
    rejected? reason request = none := by
  cases request with
  | compile | submit => cases lookup
  | datasets | jobQuery | page | backendStatus => rfl

namespace Verdict

variable {status : Nat} {result : Except Failure request.Answer}

private theorem lookupRule (verdict : Verdict maxBytes request status content result)
    (lookup : request.isQuery = false) : LookupRule maxBytes request status content result := by
  have policy : fails request status = !Http.isSuccess status := by simp [fails, lookup]
  cases verdict with
  | failed failed =>
    have refused : Http.isSuccess status = false := by simpa [policy] using failed
    constructor <;> simp [FailureKind.of?, Failure.ofStatus, refused, eq_comm]
  | tooLarge reads exceeds actual =>
    have success : Http.isSuccess status = true := by simpa [policy] using reads
    constructor <;>
      simp [FailureKind.of?, Failure.tooLarge, success, exceeds, Nat.not_le.mpr exceeds]
  | malformed reads fits success unread =>
    constructor <;>
      simp [FailureKind.of?, Failure.malformed, success, fits, Nat.not_lt.mpr fits, unread]
  | answered reads fits success read =>
    constructor <;> simp [FailureKind.of?, success, fits, Nat.not_lt.mpr fits, read]
  | rejected reads fits refused told =>
    rw [rejected?_of_lookup lookup] at told
    cases told

private theorem queryRule (verdict : Verdict maxBytes request status content result)
    (query : request.isQuery = true) : QueryRule maxBytes request status content result := by
  have policy : fails request status = Http.isServerError status := by simp [fails, query]
  cases verdict with
  | failed failed =>
    have broken : Http.isServerError status = true := policy.symm.trans failed
    have refused : Http.isSuccess status = false := by
      rw [Bool.eq_false_iff]
      intro success
      rw [isServerError_of_isSuccess success] at broken
      cases broken
    constructor <;> simp [FailureKind.of?, Failure.ofStatus, broken, refused, eq_comm]
  | tooLarge reads exceeds actual =>
    have served : Http.isServerError status = false := policy.symm.trans reads
    constructor <;>
      simp [FailureKind.of?, Failure.tooLarge, served, exceeds, Nat.not_le.mpr exceeds]
  | malformed reads fits success unread =>
    have served := isServerError_of_isSuccess success
    constructor <;>
      simp [FailureKind.of?, Failure.malformed, success, served, fits, Nat.not_lt.mpr fits, unread]
  | answered reads fits success read =>
    have served := isServerError_of_isSuccess success
    constructor <;> simp [FailureKind.of?, success, served, fits, Nat.not_lt.mpr fits, read]
  | rejected reads fits refused told =>
    have served : Http.isServerError status = false := policy.symm.trans reads
    constructor <;>
      simp [FailureKind.of?, refused, served, fits, Nat.not_lt.mpr fits, reason_iff, told]

private theorem transported (verdict : Verdict maxBytes request status content result) :
    FailureKind.of? result ≠ some .network ∧ FailureKind.of? result ≠ some .timeout ∧
      FailureKind.of? result ≠ some .invalidUrl := by
  cases verdict <;>
    simp [FailureKind.of?, Failure.ofStatus, Failure.tooLarge, Failure.malformed]

end Verdict

/-- Every response that comes to its end is judged by its status, then by the length of its body,
then by its content, as the rules for look-ups and for queries say. -/
theorem verdict_on_response (client : Client) (request : Request)
    (carries : response.Carries content) :
    (request.isQuery = false → LookupRule client.maxBytes request response.status content
      (client.answer request (.ok response))) ∧
    (request.isQuery = true → QueryRule client.maxBytes request response.status content
      (client.answer request (.ok response))) ∧
    FailureKind.of? (client.answer request (.ok response)) ≠ some .network ∧
      FailureKind.of? (client.answer request (.ok response)) ≠ some .timeout ∧
      FailureKind.of? (client.answer request (.ok response)) ≠ some .invalidUrl := by
  have verdict := answer_verdict client request carries
  exact ⟨verdict.lookupRule, verdict.queryRule, verdict.transported⟩

/-- A client that reads at most twenty bytes. -/
def shortClient : Client :=
  ⟨{ scheme := "http", host := some "a" }, { ClientSettings.default with maxBytes := 20 }⟩

def refusal : Http.Response :=
  ⟨404, some 15,
    .chunk (Text.bytes "\x7b\"detail\"") (.chunk (Text.bytes ":\"no\"\x7d") .finished)⟩

theorem verdict_on_refusal :
    refusal.Carries (Text.bytes "\x7b\"detail\":\"no\"\x7d") ∧
      LookupRule 20 .datasets 404 (Text.bytes "\x7b\"detail\":\"no\"\x7d")
        (shortClient.answer .datasets (.ok refusal)) ∧
      QueryRule 20 (.submit "" none) 404 (Text.bytes "\x7b\"detail\":\"no\"\x7d")
        (shortClient.answer (.submit "" none) (.ok refusal)) ∧
      shortClient.answer (.submit "" none) (.ok refusal) = .ok (.rejected "no") ∧
      FailureKind.of? (shortClient.answer .datasets (.ok refusal)) = some (.httpStatus 404) := by
  have carries : refusal.Carries (Text.bytes "\x7b\"detail\":\"no\"\x7d") := by
    refine ⟨by decide, fun length declared => ?_⟩
    obtain rfl : 15 = length := Option.some.inj declared
    decide
  exact ⟨carries, (verdict_on_response shortClient .datasets carries).1 rfl,
    (verdict_on_response shortClient (.submit "" none) carries).2.1 rfl, by cbv, by cbv⟩

end Service

end ScanWatch
