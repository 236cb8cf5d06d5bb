import ScanWatch.Engine.Event
import ScanWatch.Goal
import ScanWatch.Proofs.Tracker.Step

namespace ScanWatch

/-- Whether a message only reports what the engine was asked for. -/
def Message.isReport : Message → Bool
  | .datasetsLoaded _ | .jobQueryLoaded _ _ | .jobQueryFailed _ _ | .queryCompiled _ _
  | .queryFailed _ _ | .querySubmitted _ _ | .pollDue _ | .matchesLoaded _ _ | .matchesFailed _ _
  | .backendStatusLoaded _ | .backendStatusFailed _ => true
  | .mounted _ | .unmounted | .compileRequested _ _ | .submitRequested _ _ | .jobChosen _ _
  | .collapseToggled | .backendStatusRequested | .tick => false

theorem Event.message_isReport (event : Event) : event.message.isReport = true := by
  unfold message
  split <;> rfl

theorem Event.eq_querySubmitted {event : Event} {hash : JobHash} {rawQuery : String}
    (told : event.message = .querySubmitted hash rawQuery) :
    event = .querySubmitted rawQuery (.ok (.accepted hash)) := by
  unfold message at told
  split at told <;> cases told
  rfl

namespace Tracker

variable {tracker : Tracker}

theorem chooseJob_some (tracker : Tracker) (hash : JobHash) (rawQuery : Option String) :
    (tracker.chooseJob (some hash) rawQuery).1.jobHash = some hash ∧
      (tracker.chooseJob (some hash) rawQuery).1.ticket.isSome ∧
      ∀ request, .ask request ∈ (tracker.chooseJob (some hash) rawQuery).2 →
        ∃ ticket offset limit, request = .page ticket offset limit := by
  refine ⟨rfl, rfl, fun request asked => ?_⟩
  simp only [chooseJob, List.mem_cons, List.mem_append, mem_cancellation, reduceCtorEq, and_false,
    false_or, Effect.ask.injEq, List.not_mem_nil, or_false] at asked
  exact ⟨_, _, _, asked⟩

/-- What a report does to the parts of a tracker that an errand depends on. -/
structure ReportStep (tracker : Tracker) (message : Message) (next : Tracker)
    (effects : List Effect) : Prop where
  /-- Only pages are asked for. -/
  asks : ∀ request, .ask request ∈ effects → ∃ ticket offset limit,
    request = .page ticket offset limit
  /-- The job is only changed by the answer to a submission. -/
  jobHash : next.jobHash = tracker.jobHash ∨
    ∃ hash rawQuery, message = .querySubmitted hash rawQuery
  /-- A loop goes on, or there is nothing more to poll. -/
  follows : tracker.ticket.isSome → next.ticket.isSome ∨ next.poll.isDrained = true

private theorem ReportStep.dropped (tracker : Tracker) (message : Message) :
    tracker.ReportStep message tracker [] :=
  ⟨fun _ asked => absurd asked List.not_mem_nil, .inl rfl, .inl⟩

theorem update_report (tracker : Tracker) {message : Message} (report : message.isReport = true) :
    tracker.ReportStep message (tracker.update message).1 (tracker.update message).2 := by
  cases message with
  | datasetsLoaded | backendStatusLoaded | backendStatusFailed =>
    exact ⟨fun _ asked => absurd asked List.not_mem_nil, .inl rfl, .inl⟩
  | jobQueryLoaded hash rawQuery | jobQueryFailed hash reason =>
    simp only [update]
    split
    · next same =>
      obtain ⟨jobHash, opened, asks⟩ := tracker.chooseJob_some hash _
      exact ⟨asks, .inl (jobHash.trans same.symm), fun _ => .inl opened⟩
    · exact .dropped tracker _
  | queryCompiled plan rawQuery | queryFailed error rawQuery =>
    simp only [update]
    split
    · exact .dropped tracker _
    · exact ⟨fun _ asked => absurd asked List.not_mem_nil, .inl rfl, .inl⟩
  | querySubmitted hash rawQuery =>
    obtain ⟨_, opened, asks⟩ := tracker.chooseJob_some hash (some rawQuery)
    exact ⟨asks, .inr ⟨hash, rawQuery, rfl⟩, fun _ => .inl opened⟩
  | pollDue ticket =>
    simp only [update, onPollDue]
    split
    · refine ⟨fun request asked => ?_, .inl rfl, .inl⟩
      cases List.mem_singleton.mp asked
      exact ⟨_, _, _, rfl⟩
    · exact .dropped tracker _
  | matchesLoaded ticket page =>
    simp only [update, onMatchesLoaded]
    split
    · split
      · refine ⟨fun request asked => ?_, .inl rfl, .inl⟩
        cases List.mem_singleton.mp asked
      · exact ⟨fun _ asked => absurd asked List.not_mem_nil, .inl rfl, fun _ => .inr rfl⟩
    · exact .dropped tracker _
  | matchesFailed ticket reason =>
    simp only [update, onMatchesFailed]
    split
    · exact ⟨fun _ asked => absurd asked List.not_mem_nil, .inl rfl, fun _ => .inr rfl⟩
    · exact .dropped tracker _
  | _ => cases report

end Tracker

end ScanWatch
