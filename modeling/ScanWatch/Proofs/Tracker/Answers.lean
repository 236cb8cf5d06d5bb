import ScanWatch.Goal
import ScanWatch.Proofs.Tracker.Coherence

namespace ScanWatch.Tracker

variable {tracker next : Tracker} {message : Message}

/-- What is shown stays, or is dropped. -/
structure NothingNew (next tracker : Tracker) : Prop where
  datasets : next.datasetsLoaded = true → tracker.datasetsLoaded = true
  plan : next.queryPlan = tracker.queryPlan ∨ next.queryPlan = none
  error : next.queryError = tracker.queryError ∨ next.queryError = none
  status : next.backend = tracker.backend ∨ next.backend = none
  failure : next.backendError = tracker.backendError ∨ next.backendError = none

/-- What a message does to the answers that a tracker shows: the tracker after it. -/
inductive AnswerStep (tracker : Tracker) : Message → Tracker → Prop where
  | nothing {message : Message} {next : Tracker} (old : next.NothingNew tracker) :
      AnswerStep tracker message next
  | datasets (datasets : DatasetMap) :
      AnswerStep tracker (.datasetsLoaded datasets) (tracker.setDatasets datasets)
  | plan (unlocked : tracker.jobHash = none) (plan : QueryPlan) (rawQuery : String) :
      AnswerStep tracker (.queryCompiled plan rawQuery) (tracker.setQueryPlan plan rawQuery)
  | refusal (unlocked : tracker.jobHash = none) (error rawQuery : String) :
      AnswerStep tracker (.queryFailed error rawQuery) (tracker.setQueryError error rawQuery)
  | status (status : BackendStatus) :
      AnswerStep tracker (.backendStatusLoaded status) (tracker.setBackendStatus status)
  | failure (reason : String) :
      AnswerStep tracker (.backendStatusFailed reason) (tracker.setBackendError reason)

private theorem chooseJob_nothingNew (tracker : Tracker) (hash : Option JobHash)
    (rawQuery : Option String) : (tracker.chooseJob hash rawQuery).1.NothingNew tracker := by
  cases rawQuery with
  | none | some rawQuery =>
    cases hash with
    | none => exact ⟨id, .inl rfl, .inl rfl, .inl rfl, .inl rfl⟩
    | some hash => exact ⟨id, .inr rfl, .inr rfl, .inl rfl, .inl rfl⟩

theorem update_answers (tracker : Tracker) (message : Message) :
    tracker.AnswerStep message (tracker.update message).1 := by
  have same : ∀ {next : Tracker}, next.datasetsLoaded = tracker.datasetsLoaded →
      next.queryPlan = tracker.queryPlan → next.queryError = tracker.queryError →
      next.backend = tracker.backend → next.backendError = tracker.backendError →
      tracker.AnswerStep message next := fun datasets plan error status failure =>
    .nothing ⟨fun loaded => datasets ▸ loaded, .inl plan, .inl error, .inl status, .inl failure⟩
  cases message with
  | mounted route => exact .nothing ⟨nofun, .inr rfl, .inr rfl, .inr rfl, .inr rfl⟩
  | datasetsLoaded datasets => exact .datasets datasets
  | backendStatusLoaded status => exact .status status
  | backendStatusFailed reason => exact .failure reason
  | querySubmitted hash rawQuery | jobChosen hash rawQuery =>
    exact .nothing (tracker.chooseJob_nothingNew _ _)
  | jobQueryLoaded hash rawQuery | jobQueryFailed hash reason =>
    simp only [update]
    split
    · exact .nothing (tracker.chooseJob_nothingNew _ _)
    · exact same rfl rfl rfl rfl rfl
  | queryCompiled plan rawQuery =>
    simp only [update]
    split
    · exact same rfl rfl rfl rfl rfl
    · next unlocked => exact .plan (by simpa [isLocked] using unlocked) plan rawQuery
  | queryFailed error rawQuery =>
    simp only [update]
    split
    · exact same rfl rfl rfl rfl rfl
    · next unlocked => exact .refusal (by simpa [isLocked] using unlocked) error rawQuery
  | compileRequested | submitRequested =>
    simp only [update]
    split <;> exact same rfl rfl rfl rfl rfl
  | pollDue ticket =>
    simp only [update, onPollDue]
    split <;> exact same rfl rfl rfl rfl rfl
  | matchesLoaded ticket page =>
    simp only [update, onMatchesLoaded]
    split
    · split <;> exact same rfl rfl rfl rfl rfl
    · exact same rfl rfl rfl rfl rfl
  | matchesFailed ticket reason =>
    simp only [update, onMatchesFailed]
    split <;> exact same rfl rfl rfl rfl rfl
  | unmounted | collapseToggled | backendStatusRequested | tick =>
    exact same rfl rfl rfl rfl rfl

theorem AnswerStep.datasets_come (step : tracker.AnswerStep message next)
    (before : tracker.datasetsLoaded = false) (after : next.datasetsLoaded = true) :
    ∃ datasets, message = .datasetsLoaded datasets ∧ next.datasets = datasets := by
  cases step with
  | nothing old => exact absurd (old.datasets after) (by simp [before])
  | datasets datasets => exact ⟨datasets, rfl, rfl⟩
  | plan | refusal | status | failure => exact absurd (before.symm.trans after) (by decide)

/-- The outcome of a query is shown from the moment on at which it comes, while no job is open. -/
theorem AnswerStep.query_comes (step : tracker.AnswerStep message next)
    (noPlan : tracker.queryPlan = none) (noError : tracker.queryError = none)
    (after : next.queryPlan.isSome ∨ next.queryError.isSome) :
    tracker.jobHash = none ∧
      ((∃ plan rawQuery, message = .queryCompiled plan rawQuery ∧
          next = tracker.setQueryPlan plan rawQuery) ∨
        ∃ error rawQuery, message = .queryFailed error rawQuery ∧
          next = tracker.setQueryError error rawQuery) := by
  cases step with
  | nothing old =>
    have plan : next.queryPlan = none := old.plan.elim (·.trans noPlan) id
    have error : next.queryError = none := old.error.elim (·.trans noError) id
    simp [plan, error] at after
  | plan unlocked plan rawQuery => exact ⟨unlocked, .inl ⟨plan, rawQuery, rfl, rfl⟩⟩
  | refusal unlocked error rawQuery => exact ⟨unlocked, .inr ⟨error, rawQuery, rfl, rfl⟩⟩
  | datasets | status | failure =>
    simp [setDatasets, setBackendStatus, setBackendError, noPlan, noError] at after

theorem AnswerStep.backend_comes (step : tracker.AnswerStep message next)
    (noStatus : tracker.backend = none) (noFailure : tracker.backendError = none)
    (after : next.backend.isSome ∨ next.backendError.isSome) :
    (∃ status, message = .backendStatusLoaded status ∧
        next = tracker.setBackendStatus status) ∨
      ∃ reason, message = .backendStatusFailed reason ∧ next = tracker.setBackendError reason := by
  cases step with
  | nothing old =>
    have status : next.backend = none := old.status.elim (·.trans noStatus) id
    have failure : next.backendError = none := old.failure.elim (·.trans noFailure) id
    simp [status, failure] at after
  | status status => exact .inl ⟨status, rfl, rfl⟩
  | failure reason => exact .inr ⟨reason, rfl, rfl⟩
  | datasets | plan | refusal =>
    simp [setDatasets, setQueryPlan, setQueryError, clearResults, noStatus, noFailure] at after

theorem LoopStep.drained {effects : List Effect} (step : tracker.LoopStep message next effects)
    (before : tracker.poll.isDrained = false) (after : next.poll.isDrained = true) :
    ∃ ticket, tracker.ticket = some ticket ∧
      ((∃ page, message = .matchesLoaded ticket page ∧
          next = (tracker.applyPage page).finishPolling) ∨
        ∃ reason, message = .matchesFailed ticket reason ∧ next = tracker.stallPolling reason) := by
  cases step with
  | kept stale unopened same => simp [same.poll, before] at after
  | closed free unopened ticket lastEpoch settings ended =>
    rcases ended with idle | ⟨_, same⟩
    · simp [idle, PollStatus.isDrained] at after
    · simp [same, before] at after
  | opened hash free opening ticket lastEpoch settings jobHash poll =>
    simp [poll, PollStatus.isDrained] at after
  | asked | continued => exact absurd (before.symm.trans after) (by decide)
  | @finished ticket page current => exact ⟨ticket, current, .inl ⟨page, rfl, rfl⟩⟩
  | @stalled ticket reason current => exact ⟨ticket, current, .inr ⟨reason, rfl, rfl⟩⟩

end ScanWatch.Tracker
