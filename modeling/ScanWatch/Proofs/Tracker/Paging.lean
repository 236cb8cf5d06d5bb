import ScanWatch.Engine.Event
import ScanWatch.Proofs.Service.Verdict
import ScanWatch.Proofs.Tracker.Step

namespace ScanWatch

/-- What a tracker is told of a request, from what became of it. -/
def Client.told (client : Client) (request : Request) (outcome : Http.Outcome) : Message :=
  (request.event (client.answer request outcome)).message

/-- A response that brings a page: a success of at most so many bytes, declared or sent, that comes
to its end and is a page. -/
structure Http.Response.Brings (response : Http.Response) (maxBytes : Nat) (page : MatchPage) :
    Prop where
  success : Http.isSuccess response.status = true
  declared : ∀ length, response.declaredLength = some length → length ≤ maxBytes
  whole : ∃ content, response.body.content? = some content ∧ content.length ≤ maxBytes ∧
    MatchPage.decode.ofBytes? content = some page

namespace Service

private theorem decoded_eq_ok_iff {α : Type} {decode : Payload.Decoder α} {content : List UInt8}
    {value : α} : decoded decode content = .ok value ↔ decode.ofBytes? content = some value := by
  unfold decoded
  split
  · next read => simp [read]
  · next unread => simp [unread]

/-- The client has a page exactly if there was a response that brings it. -/
theorem answer_page_iff {client : Client} {ticket : PollTicket} {offset limit : Nat}
    {outcome : Http.Outcome} {page : MatchPage} :
    client.answer (.page ticket offset limit) outcome = .ok page ↔
      ∃ response, outcome = .ok response ∧ response.Brings client.maxBytes page := by
  change readLookup client.maxBytes MatchPage.decode outcome = .ok page ↔ _
  cases outcome with
  | error failure =>
    constructor
    · intro answered
      cases answered
    · rintro ⟨response, received, _⟩
      cases received
  | ok response =>
    rw [readLookup_ok]
    constructor
    · intro answered
      split at answered
      · next success =>
        cases read : response.read client.maxBytes with
        | error failure =>
          rw [read] at answered
          cases answered
        | ok content =>
          rw [read] at answered
          obtain ⟨declared, whole, within⟩ := Http.Response.read_eq_ok_iff.mp read
          exact ⟨response, rfl, success, declared, content, whole, within,
            decoded_eq_ok_iff.mp answered⟩
      · cases answered
    · rintro ⟨_, received, success, declared, content, whole, within, decodes⟩
      obtain rfl := Except.ok.inj received
      have read := Http.Response.read_eq_ok_iff.mpr ⟨declared, whole, within⟩
      rw [if_pos success, read]
      exact decoded_eq_ok_iff.mpr decodes

end Service

namespace Tracker

/-- What taking over a page makes of a tracker, with the effects: all matches are added in order,
and the job is replaced. Either the loop goes on, or the job is drained and the loop ended. -/
inductive Takes (tracker : Tracker) (ticket : PollTicket) (page : MatchPage) :
    Tracker × List Effect → Prop where
  | continued (pending : ¬(page.job.status.isTerminal = true ∧ page.items = [])) :
      Takes tracker ticket page
        ({ tracker with
            found := tracker.found ++ page.items, job := some page.job, dirty := true },
          [.schedulePoll ticket (tracker.settings.delayAfter page.items.length)])
  | finished (terminal : page.job.status.isTerminal = true) (empty : page.items = []) :
      Takes tracker ticket page
        ({ tracker with
            found := tracker.found ++ page.items, job := some page.job, dirty := true
            ticket := none, poll := .finished },
          [])

variable {tracker : Tracker} {ticket : PollTicket}

private theorem takes_page (current : tracker.ticket = some ticket) (page : MatchPage) :
    tracker.Takes ticket page (tracker.update (.matchesLoaded ticket page)) := by
  by_cases drained : page.job.status.isTerminal = true ∧ page.items = []
  · rw [update_drained current drained.1 drained.2]
    exact .finished drained.1 drained.2
  · rw [update_pending current drained]
    exact .continued drained

private theorem stalls (current : tracker.ticket = some ticket) (reason : String) :
    tracker.update (.matchesFailed ticket reason) = (tracker.stallPolling reason, []) :=
  if_pos ((isCurrent_iff ..).mpr current)

/-- Whatever becomes of the request for a page of the current loop: if a response brings a page, all
of it is taken over; otherwise nothing is, and the loop is ended with the kind of the failure and
its message as the reason. -/
theorem page_whole_or_not_at_all (client : Client) (current : tracker.ticket = some ticket)
    (offset limit : Nat) (outcome : Http.Outcome) :
    (∃ response page, outcome = .ok response ∧ response.Brings client.maxBytes page ∧
        tracker.Takes ticket page
          (tracker.update (client.told (.page ticket offset limit) outcome))) ∨
      (∀ response page, outcome = .ok response → ¬response.Brings client.maxBytes page) ∧
        ∃ failure, client.answer (.page ticket offset limit) outcome = .error failure ∧
          tracker.update (client.told (.page ticket offset limit) outcome) =
            ({ tracker with
                ticket := none, dirty := true
                poll := .stalled (failure.kind.text ++ ": " ++ failure.message) }, []) := by
  cases answered : client.answer (.page ticket offset limit) outcome with
  | ok page =>
    obtain ⟨response, received, brings⟩ := Service.answer_page_iff.mp answered
    have told : client.told (.page ticket offset limit) outcome = .matchesLoaded ticket page := by
      rw [Client.told, answered]
      rfl
    rw [told]
    exact .inl ⟨response, page, received, brings, takes_page current page⟩
  | error failure =>
    have told : client.told (.page ticket offset limit) outcome =
        .matchesFailed ticket failure.text := by
      rw [Client.told, answered]
      rfl
    rw [told]
    refine .inr ⟨?_, failure, rfl, stalls current failure.text⟩
    intro response page received brings
    have brought : client.answer (.page ticket offset limit) outcome = .ok page :=
      Service.answer_page_iff.mpr ⟨response, received, brings⟩
    rw [answered] at brought
    cases brought

def followingTracker : Tracker :=
  fresh.after [.tell (.querySubmitted ⟨"a"⟩ "rule"),
    .tell (.matchesLoaded ⟨⟨"a"⟩, 1⟩ ⟨[.null], .ofStatus .processing⟩)]

def pageClient : Client :=
  ⟨{ scheme := "http", host := some "a" }, .default⟩

def piecemeal : Http.Response :=
  ⟨200, none,
    .chunk (Text.bytes "\x7b\"matches\":[true],\"job\":\x7b\"sta")
      (.chunk (Text.bytes "tus\":\"done\"\x7d\x7d") .finished)⟩

def brokenOff : Http.Response :=
  ⟨200, none,
    .chunk (Text.bytes "\x7b\"matches\":[true],\"job\":\x7b\"sta") (.broken ⟨false, "reset"⟩)⟩

theorem page_whole_or_not_at_all_piecemeal :
    followingTracker.ticket = some ⟨⟨"a"⟩, 1⟩ ∧
      (∃ page, piecemeal.Brings pageClient.maxBytes page ∧
        followingTracker.Takes ⟨⟨"a"⟩, 1⟩ page (followingTracker.update
          (pageClient.told (.page ⟨⟨"a"⟩, 1⟩ 1 50) (.ok piecemeal)))) ∧
      followingTracker.update (pageClient.told (.page ⟨⟨"a"⟩, 1⟩ 1 50) (.ok brokenOff)) =
        ({ followingTracker with
            ticket := none, dirty := true, poll := .stalled "network error: reset" }, []) := by
  have current : followingTracker.ticket = some ⟨⟨"a"⟩, 1⟩ := rfl
  refine ⟨current, ?_, ?_⟩
  · have brings : piecemeal.Brings pageClient.maxBytes ⟨[.bool true], .ofStatus .done⟩ :=
      ⟨rfl, nofun, _, rfl, by decide, by cbv⟩
    rcases page_whole_or_not_at_all pageClient current 1 50 (.ok piecemeal) with
      ⟨response, page, received, brought, takes⟩ | ⟨unbrought, _⟩
    · obtain rfl := Except.ok.inj received
      exact ⟨page, brought, takes⟩
    · exact absurd brings (unbrought _ _ rfl)
  · rcases page_whole_or_not_at_all pageClient current 1 50 (.ok brokenOff) with
      ⟨response, page, received, brought, _⟩ | ⟨_, failure, answered, stalled⟩
    · obtain rfl := Except.ok.inj received
      obtain ⟨content, whole, _⟩ := brought.whole
      cases whole
    · obtain rfl : Failure.mk .network "reset" = failure := Except.error.inj answered
      exact stalled

end Tracker

end ScanWatch
