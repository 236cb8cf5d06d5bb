import Mathlib.Data.List.Induction
import ScanWatch.Proofs.Session.Turn

namespace ScanWatch

def Effect.destination? : Effect → Option Route
  | .navigate route => some route
  | .ask _ | .schedulePoll _ _ | .cancelPoll => none

private theorem Effect.foldl_moves (effects : List Effect) (location : Route) :
    effects.foldl Effect.moves location =
      (effects.filterMap Effect.destination?).getLast?.getD location := by
  induction effects generalizing location with
  | nil => rfl
  | cons effect rest ih =>
    rw [List.foldl_cons, ih]
    cases effect with
    | navigate route => simp [Effect.moves, Effect.destination?, List.getLast?_cons]
    | ask | schedulePoll | cancelPoll => rfl

namespace Tracker

variable {tracker : Tracker} {message : Message} {hash : JobHash}

/-- A job is open, and polling it has at least begun. -/
def Shows (tracker : Tracker) (hash : JobHash) : Prop :=
  tracker.jobHash = some hash ∧ tracker.poll ≠ .idle

/-- Where a message leads. -/
def destination? (tracker : Tracker) : Message → Option Route
  | .jobChosen none _ => some .compose
  | message => (tracker.opening? message).map .job

private theorem cancellation_destination (tracker : Tracker) :
    tracker.cancellation.filterMap Effect.destination? = [] := by
  unfold cancellation
  split <;> rfl

private theorem chooseJob_destination (tracker : Tracker) (hash : Option JobHash)
    (rawQuery : Option String) :
    (tracker.chooseJob hash rawQuery).2.filterMap Effect.destination? =
      [(hash.map Route.job).getD .compose] := by
  have quiet := tracker.cancellation_destination
  cases hash <;> simp [chooseJob, Effect.destination?, quiet]

private theorem update_destination (tracker : Tracker) (message : Message) :
    (tracker.update message).2.filterMap Effect.destination? =
      (tracker.destination? message).toList := by
  cases message with
  | mounted route =>
    have quiet := tracker.cancellation_destination
    cases route <;>
      simp [update, onMounted, destination?, opening?, Route.hash?, Effect.destination?, quiet]
  | unmounted => exact tracker.cancellation_destination
  | jobQueryLoaded other rawQuery | jobQueryFailed other reason =>
    simp only [update, destination?, opening?]
    split
    · exact tracker.chooseJob_destination _ _
    · rfl
  | querySubmitted other rawQuery => exact tracker.chooseJob_destination _ _
  | jobChosen chosen rawQuery =>
    cases chosen <;> exact tracker.chooseJob_destination _ _
  | compileRequested | submitRequested | queryCompiled | queryFailed =>
    simp only [update]
    split <;> rfl
  | pollDue ticket =>
    simp only [update, onPollDue]
    split <;> rfl
  | matchesLoaded ticket page =>
    simp only [update, onMatchesLoaded]
    split
    · split <;> rfl
    · rfl
  | matchesFailed ticket reason =>
    simp only [update, onMatchesFailed]
    split <;> rfl
  | datasetsLoaded | collapseToggled | backendStatusRequested | backendStatusLoaded
  | backendStatusFailed | tick => rfl

/-- A job that is shown was shown before, or is just opened. -/
theorem LoopStep.shows {next : Tracker} {effects : List Effect}
    (step : tracker.LoopStep message next effects) (coherent : tracker.Coherent)
    (shows : next.Shows hash) :
    tracker.opening? message = some hash ∨
      tracker.opening? message = none ∧ tracker.Shows hash := by
  obtain ⟨job, busy⟩ := shows
  have polling (ticket : PollTicket) (current : tracker.ticket = some ticket) :
      tracker.poll ≠ .idle := by
    rw [coherent.polling.mpr (by simp [current])]
    exact PollStatus.noConfusion
  cases step with
  | kept stale unopened same quiet =>
    exact .inr ⟨unopened, same.jobHash.symm.trans job, same.poll ▸ busy⟩
  | closed free unopened ticket lastEpoch settings ended quiet cancels =>
    rcases ended with idle | ⟨left, _⟩
    · exact absurd idle busy
    · rw [left] at job
      cases job
  | opened opened free opening ticket lastEpoch settings jobHash poll found =>
    exact .inl (opening.trans (jobHash.symm.trans job))
  | asked current | continued current | finished current | stalled _ current =>
    exact .inr ⟨rfl, job, polling _ current⟩

/-- A job that is shown was shown before, unless the message leads to it. -/
theorem Coherent.shows (coherent : tracker.Coherent)
    (shows : (tracker.update message).1.Shows hash) :
    tracker.destination? message = some (.job hash) ∨
      tracker.destination? message = none ∧ tracker.Shows hash := by
  have opens : tracker.destination? message = (tracker.opening? message).map .job := by
    cases message with
    | jobChosen chosen rawQuery =>
      cases chosen with
      | none => cases shows.1
      | some chosen => rfl
    | _ => rfl
  rw [opens]
  refine ((update_step tracker message).shows coherent shows).imp ?_ ?_
  · exact fun opening => by rw [opening]; rfl
  · exact And.imp_left fun unopened => by rw [unopened]; rfl

private theorem destination_of_unopened (unopened : tracker.opening? message = none) :
    tracker.destination? message = none ∨ tracker.destination? message = some .compose := by
  cases message with
  | jobChosen chosen rawQuery =>
    cases chosen with
    | none => exact .inr rfl
    | some chosen => cases unopened
  | _ => exact .inl (congrArg (Option.map Route.job) unopened)

end Tracker

namespace Session

/-- The places that a session is led to as it is told messages. -/
def destinations (session : Session) (messages : List Message) : List Route :=
  (session.tracker.effects (acts messages)).filterMap Effect.destination?

private theorem destinations_append_singleton (session : Session) (messages : List Message)
    (message : Message) :
    session.destinations (messages ++ [message]) = session.destinations messages ++
      ((session.after messages).tracker.destination? message).toList := by
  have split : acts (messages ++ [message]) = acts messages ++ [.tell message, .look] := by
    simp [acts]
  rw [destinations, split, Tracker.effects_append, ← tracker_after, Tracker.effects_told,
    List.filterMap_append, Tracker.update_destination]
  rfl

private theorem location_dispatch (session : Session) (message : Message) :
    (session.dispatch message).session.location =
      (session.tracker.destination? message).getD session.location := by
  have moved : (session.dispatch message).session.location =
      (session.tracker.update message).2.foldl Effect.moves session.location := rfl
  rw [moved, Effect.foldl_moves, Tracker.update_destination]
  cases session.tracker.destination? message <;> rfl

/-- The session points to where it was led last. -/
theorem location_after (session : Session) (messages : List Message) :
    (session.after messages).location =
      (session.destinations messages).getLast?.getD session.location := by
  induction messages using List.reverseRecOn with
  | nil => rfl
  | append_singleton messages message ih =>
    rw [after_append, destinations_append_singleton]
    refine ((session.after messages).location_dispatch message).trans ?_
    cases (session.after messages).tracker.destination? message with
    | none => simpa using ih
    | some route => simp

/-- A job that is shown is where the session was led last. -/
theorem destinations_of_shows (settings : PollSettings) (messages : List Message) {hash : JobHash}
    (shows : ((new settings).after messages).tracker.Shows hash) :
    ((new settings).destinations messages).getLast? = some (.job hash) := by
  induction messages using List.reverseRecOn with
  | nil => cases shows.1
  | append_singleton messages message ih =>
    rw [after_append] at shows
    rw [destinations_append_singleton]
    rcases (coherent_after settings messages).shows shows with led | ⟨unled, before⟩
    · simp [led]
    · simpa [unled] using ih before

private theorem location_of_unopened {session : Session} {messages : List Message}
    (unopened : session.tracker.opened (acts messages) = 0)
    (composing : session.location = .compose) : (session.after messages).location = .compose := by
  induction messages generalizing session with
  | nil => exact composing
  | cons message rest ih =>
    obtain ⟨first, others⟩ := Nat.add_eq_zero_iff.mp unopened
    have closed : session.tracker.opening? message = none := by
      simpa [Tracker.opens] using first
    refine ih (Nat.add_eq_zero_iff.mp others).2 ?_
    rw [location_dispatch, composing]
    rcases Tracker.destination_of_unopened closed with nowhere | composer
    · rw [nowhere]
      rfl
    · rw [composer]
      rfl

/-- A job that is polled, drained or stalled is where the session points, and where it was led
last. Once the composer is chosen, the session points there until a polling loop is opened. -/
theorem location_agrees (settings : PollSettings) (messages : List Message) :
    (∀ hash, ((new settings).after messages).tracker.Shows hash →
      ((new settings).after messages).location = .job hash ∧
        ((new settings).destinations messages).getLast? = some (.job hash)) ∧
    ∀ before rawQuery later, messages = before ++ .jobChosen none rawQuery :: later →
      ((new settings).after (before ++ [.jobChosen none rawQuery])).tracker.opened
        (acts later) = 0 →
      ((new settings).after messages).location = .compose := by
  constructor
  · intro hash shows
    have led := destinations_of_shows settings messages shows
    refine ⟨?_, led⟩
    rw [location_after, led]
    rfl
  · rintro before rawQuery later rfl unopened
    rw [after_append] at unopened
    rw [after_append, after_cons]
    exact location_of_unopened unopened (location_dispatch ..)

/-- A job is left for the composer, and its page is opened once more. -/
def returning : List Message :=
  [.querySubmitted ⟨"a"⟩ "rule", .jobChosen none none, .mounted (.job ⟨"a"⟩)]

def failing : List Message :=
  returning ++ [.jobQueryLoaded ⟨"a"⟩ "rule", .matchesFailed ⟨⟨"a"⟩, 2⟩ "network error"]

theorem location_agrees_returning :
    ((new .default).after returning).tracker.jobHash = some ⟨"a"⟩ ∧
      ((new .default).after returning).location = .compose ∧
      ((new .default).after failing).tracker.Shows ⟨"a"⟩ ∧
      ((new .default).after failing).location = .job ⟨"a"⟩ ∧
      ((new .default).destinations failing).getLast? = some (.job ⟨"a"⟩) := by
  have shows : ((new .default).after failing).tracker.Shows ⟨"a"⟩ := ⟨rfl, PollStatus.noConfusion⟩
  have unopened : ((new .default).after [.querySubmitted ⟨"a"⟩ "rule",
      .jobChosen none none]).tracker.opened (acts [.mounted (.job ⟨"a"⟩)]) = 0 := rfl
  have composing := (location_agrees .default returning).2 [.querySubmitted ⟨"a"⟩ "rule"] none _ rfl
    unopened
  exact ⟨rfl, composing, shows, (location_agrees .default failing).1 _ shows⟩

end Session

end ScanWatch
