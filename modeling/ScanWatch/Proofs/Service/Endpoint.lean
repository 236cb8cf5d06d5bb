import Mathlib
import ScanWatch.Proofs.Url.Below
import ScanWatch.Service.Client

namespace ScanWatch

open Url

/-- The endpoint that a question about a job goes to, and the job. -/
def Request.endpoint? : Request → Option (String × JobHash)
  | .jobQuery hash => some ("job", hash)
  | .page ticket _ _ => some ("matches", ticket.hash)
  | _ => none

variable {settings : ClientSettings} {client : Client} {request : Request}
  {endpoint : String} {hash : JobHash}

private theorem Request.of_endpoint (asked : request.endpoint? = some (endpoint, hash)) :
    request = .jobQuery hash ∧ endpoint = "job" ∨
      ∃ epoch offset limit, request = .page ⟨hash, epoch⟩ offset limit ∧ endpoint = "matches" := by
  cases request with
  | jobQuery job =>
    obtain ⟨rfl, rfl⟩ := Prod.mk.inj (Option.some.inj asked)
    exact .inl ⟨rfl, rfl⟩
  | page ticket offset limit =>
    obtain ⟨rfl, rfl⟩ := Prod.mk.inj (Option.some.inj asked)
    exact .inr ⟨ticket.epoch, offset, limit, rfl, rfl⟩
  | datasets => cases asked
  | compile rawQuery taint => cases asked
  | submit rawQuery taint => cases asked
  | backendStatus => cases asked

private theorem Request.literal (asked : request.endpoint? = some (endpoint, hash)) :
    Literal endpoint := by
  rcases Request.of_endpoint asked with ⟨-, rfl⟩ | ⟨-, -, -, -, rfl⟩
  · exact ⟨by decide, by decide, by decide, by decide⟩
  · exact ⟨by decide, by decide, by decide, by decide⟩

namespace Client

private theorem send_endpoint (client : Client)
    (asked : request.endpoint? = some (endpoint, hash)) :
    ∃ query, (client.send request).url = { client.base.below [endpoint, hash.text] with query } := by
  rcases Request.of_endpoint asked with ⟨rfl, rfl⟩ | ⟨epoch, offset, limit, rfl, rfl⟩
  · exact ⟨_, rfl⟩
  · exact ⟨_, rfl⟩

private theorem base_plain (accepted : new settings = .ok client) : Plain client.base.segments := by
  unfold new at accepted
  cases parsed : Url.parse settings.baseUrl with
  | error error =>
    rw [parsed] at accepted
    cases accepted
  | ok base =>
    rw [parsed] at accepted
    obtain rfl := Except.ok.inj accepted
    exact Url.parse_plain parsed

private theorem inside_iff (accepted : new settings = .ok client)
    (asked : request.endpoint? = some (endpoint, hash)) (clean : Clean hash.text) :
    Inside client.base (endpointRoot client.base.path.toList) endpoint hash.text
      (client.send request).url ↔ ¬IsDots hash.text := by
  obtain ⟨query, sent⟩ := client.send_endpoint asked
  rw [sent, inside_withQuery_iff]
  exact inside_below_iff (base_plain accepted) (Request.literal asked) clean

private theorem query_page (client : Client) (ticket : PollTicket) (offset limit : Nat) :
    (client.send (.page ticket offset limit)).url.query =
      some (client.base.ownQuery ++ "offset=" ++ offset.repr ++ "&limit=" ++ limit.repr) := by
  change (client.pageUrl ticket.hash offset limit).query = _
  rw [pageUrl, query_withParameter, ownQuery_withParameter]
  change some (client.base.ownQuery ++ _ ++ _ ++ _ ++ _ ++ _ ++ _ ++ _) = _
  simp [← String.toList_inj]

/-- A question about a job goes to one segment of its endpoint, below the base path, that stands for
the hash. Only the hashes `.` and `..` have no such segment. Two jobs with segments never share an
address, and a page's address ends its query with where the page starts and how long it is. -/
theorem hash_in_endpoint (accepted : new settings = .ok client) :
    (∀ request endpoint hash, request.endpoint? = some (endpoint, hash) → Clean hash.text →
      (Inside client.base (endpointRoot client.base.path.toList) endpoint hash.text
        (client.send request).url ↔ ¬IsDots hash.text)) ∧
    (∀ request other endpoint elsewhere hash otherHash,
      request.endpoint? = some (endpoint, hash) → other.endpoint? = some (elsewhere, otherHash) →
      Clean hash.text → Clean otherHash.text → ¬IsDots hash.text → ¬IsDots otherHash.text →
      hash ≠ otherHash → (client.send request).url.text ≠ (client.send other).url.text) ∧
    (∀ hash, (client.send (.jobQuery hash)).url.query = client.base.query) ∧
    ∀ ticket offset limit, (client.send (.page ticket offset limit)).url.query =
      some (client.base.ownQuery ++ "offset=" ++ offset.repr ++ "&limit=" ++ limit.repr) := by
  refine ⟨?inside, ?apart, fun _ => rfl, client.query_page⟩
  case inside =>
    intro request endpoint hash asked clean
    exact inside_iff accepted asked clean
  case apart =>
    intro request other endpoint elsewhere hash otherHash asked askedToo clean cleanToo named
      namedToo different same
    have inside := (inside_iff accepted asked clean).mpr named
    have too := (inside_iff accepted askedToo cleanToo).mpr namedToo
    have texts := inside.unique (Request.literal asked) (Request.literal askedToo) too same
    exact different (congrArg JobHash.mk texts)

def onLoopback (path : String) : ClientSettings :=
  { ClientSettings.default with baseUrl := "http://[::1]" ++ path }

theorem hash_in_endpoint_slashed :
    ∃ client, new (onLoopback "/api/?k=1") = .ok client ∧
      Inside client.base "/api".toList "matches" "a/b"
        (client.send (.page ⟨⟨"a/b"⟩, 0⟩ 0 50)).url := by
  have accepted : new (onLoopback "/api/?k=1") = .ok
      ⟨{ scheme := "http", host := some "[::1]", segments := ["api", ""], query := some "k=1" },
        onLoopback "/api/?k=1"⟩ := by
    cbv
  obtain ⟨inside, -⟩ := hash_in_endpoint accepted
  exact ⟨_, accepted, (inside _ "matches" ⟨"a/b"⟩ rfl (by decide)).mpr (by decide)⟩

/-- Of a base path of two slashes nothing is kept, as a segment is never put behind a bare slash. -/
theorem bare_slashes_are_dropped :
    ∃ client, new (onLoopback "//") = .ok client ∧ client.base.scheme = "http" ∧
      client.base.path = "//" ∧ Clean "abc" ∧ ¬IsDots "abc" ∧
      (client.send (.jobQuery ⟨"abc"⟩)).url.path = "/job/abc" ∧
      ¬Inside client.base (lessSlash client.base.path.toList) "job" "abc"
        (client.send (.jobQuery ⟨"abc"⟩)).url := by
  have accepted : new (onLoopback "//") = .ok
      ⟨{ scheme := "http", host := some "[::1]", segments := ["", ""] }, onLoopback "//"⟩ := by
    cbv
  refine ⟨_, accepted, rfl, rfl, by decide, by decide, rfl, ?_⟩
  intro inside
  obtain ⟨segment, -, path⟩ := inside.path
  cases path

end Client

end ScanWatch
