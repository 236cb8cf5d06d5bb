import ScanWatch.Proofs.Tracker.Step

namespace ScanWatch.Tracker

/-- What a tracker with a job but without a polling loop shows: nothing yet, a failure, or the
drained job. -/
inductive Resting (tracker : Tracker) : Prop where
  | idle (poll : tracker.poll = .idle) (found : tracker.found = []) (job : tracker.job = none)
  | stalled (reason : String) (poll : tracker.poll = .stalled reason)
  | finished (poll : tracker.poll = .finished) (job : JobRecord) (known : tracker.job = some job)
      (terminal : job.status.isTerminal = true)

/-- The fields that depend on one another agree. -/
structure Coherent (tracker : Tracker) : Prop where
  viewing : tracker.mode = .viewing ↔ tracker.jobHash.isSome
  outcome : tracker.queryPlan = none ∨ tracker.queryError = none
  locked : tracker.jobHash.isSome → tracker.queryPlan = none ∧ tracker.queryError = none
  polling : tracker.poll = .polling ↔ tracker.ticket.isSome
  current : ∀ ticket, tracker.ticket = some ticket →
    tracker.jobHash = some ticket.hash ∧ ticket.epoch = tracker.lastEpoch
  evidence : tracker.found ≠ [] → tracker.job.isSome
  resting : tracker.jobHash.isSome → tracker.ticket = none → tracker.Resting

namespace Coherent

variable {tracker : Tracker}

private theorem congr {other : Tracker} (coherent : tracker.Coherent)
    (mode : other.mode = tracker.mode) (jobHash : other.jobHash = tracker.jobHash)
    (queryPlan : other.queryPlan = tracker.queryPlan)
    (queryError : other.queryError = tracker.queryError)
    (found : other.found = tracker.found) (job : other.job = tracker.job)
    (ticket : other.ticket = tracker.ticket) (lastEpoch : other.lastEpoch = tracker.lastEpoch)
    (poll : other.poll = tracker.poll) : other.Coherent := by
  cases other
  subst mode jobHash queryPlan queryError found job ticket lastEpoch poll
  refine ⟨coherent.viewing, coherent.outcome, coherent.locked, coherent.polling,
    coherent.current, coherent.evidence, fun open_ released => ?_⟩
  cases coherent.resting open_ released with
  | idle poll found job => exact .idle poll found job
  | stalled reason poll => exact .stalled reason poll
  | finished poll job known terminal => exact .finished poll job known terminal

private theorem blank (settings : PollSettings) : ({ settings } : Tracker).Coherent where
  viewing := by simp
  outcome := .inl rfl
  locked _ := ⟨rfl, rfl⟩
  polling := by simp
  current ticket held := by cases held
  evidence nonempty := absurd rfl nonempty
  resting open_ := by cases open_

private theorem mount (tracker : Tracker) (jobHash : Option JobHash) :
    (tracker.mount jobHash).Coherent where
  viewing := by cases jobHash <;> simp [Tracker.mount]
  outcome := .inl rfl
  locked _ := ⟨rfl, rfl⟩
  polling := by simp [Tracker.mount]
  current ticket held := by simp [Tracker.mount] at held
  evidence nonempty := absurd rfl nonempty
  resting _ _ := .idle rfl rfl rfl

private theorem enterComposing (outcome : tracker.queryPlan = none ∨ tracker.queryError = none) :
    tracker.releaseTicket.enterComposing.Coherent where
  viewing := by simp [Tracker.enterComposing]
  outcome := outcome
  locked open_ := by cases open_
  polling := by simp [Tracker.enterComposing, Tracker.releaseTicket, clearResults]
  current ticket held := by cases held
  evidence nonempty := absurd rfl nonempty
  resting open_ := by cases open_

private theorem enterViewing (tracker : Tracker) (hash : JobHash) :
    (tracker.enterViewing hash).Coherent where
  viewing := by simp [Tracker.enterViewing]
  outcome := .inl rfl
  locked _ := ⟨rfl, rfl⟩
  polling := by simp [Tracker.enterViewing]
  current ticket held := by
    cases held
    exact ⟨rfl, rfl⟩
  evidence nonempty := absurd rfl nonempty
  resting _ released := by cases released

private theorem leave (coherent : tracker.Coherent) : tracker.releaseTicket.leave.Coherent where
  viewing := by simp [Tracker.leave]
  outcome := coherent.outcome
  locked open_ := by cases open_
  polling := by
    by_cases polling : tracker.poll = .polling <;>
      simp [Tracker.leave, Tracker.releaseTicket, polling]
  current ticket held := by cases held
  evidence := coherent.evidence
  resting open_ := by cases open_

private theorem setOutcome (coherent : tracker.Coherent) (unlocked : tracker.jobHash = none)
    (queryPlan : Option QueryPlan) (queryError : Option String) (rawQuery : String)
    (single : queryPlan = none ∨ queryError = none) :
    { tracker.clearResults with
      mode := .composing, queryPlan, queryError, rawQuery, dirty := true }.Coherent where
  viewing := by simp [clearResults, unlocked]
  outcome := single
  locked open_ := by simp [clearResults, unlocked] at open_
  polling := coherent.polling
  current ticket held := coherent.current ticket held
  evidence nonempty := absurd rfl nonempty
  resting open_ := by simp [clearResults, unlocked] at open_

private theorem applyPage (coherent : tracker.Coherent) (live : tracker.ticket.isSome)
    (page : MatchPage) : (tracker.applyPage page).Coherent where
  viewing := coherent.viewing
  outcome := coherent.outcome
  locked := coherent.locked
  polling := coherent.polling
  current := coherent.current
  evidence _ := rfl
  resting _ released := by
    rw [show tracker.ticket = none from released] at live
    cases live

private theorem finishPolling (coherent : tracker.Coherent) {job : JobRecord}
    (known : tracker.job = some job) (terminal : job.status.isTerminal = true) :
    tracker.finishPolling.Coherent where
  viewing := coherent.viewing
  outcome := coherent.outcome
  locked := coherent.locked
  polling := by simp [Tracker.finishPolling]
  current ticket held := by cases held
  evidence := coherent.evidence
  resting _ _ := .finished rfl job known terminal

private theorem stallPolling (coherent : tracker.Coherent) (reason : String) :
    (tracker.stallPolling reason).Coherent where
  viewing := coherent.viewing
  outcome := coherent.outcome
  locked := coherent.locked
  polling := by simp [Tracker.stallPolling]
  current ticket held := by cases held
  evidence := coherent.evidence
  resting _ _ := .stalled reason rfl

private theorem chooseJob (coherent : tracker.Coherent) (hash : Option JobHash)
    (rawQuery : Option String) : (tracker.chooseJob hash rawQuery).1.Coherent := by
  cases hash with
  | none =>
    apply enterComposing
    cases rawQuery <;> exact coherent.outcome
  | some hash => exact enterViewing _ hash

private theorem onMatchesLoaded (coherent : tracker.Coherent) (ticket : PollTicket)
    (page : MatchPage) :
    (tracker.onMatchesLoaded ticket page).1.Coherent := by
  unfold Tracker.onMatchesLoaded
  split
  · next current =>
    have live : tracker.ticket.isSome := by simp [beq_iff_eq.mp current]
    have applied := coherent.applyPage live page
    split
    · exact applied
    · next stop =>
      exact applied.finishPolling rfl ((PollSettings.nextStep_eq_stop ..).mp stop).1
  · exact coherent

private theorem onMatchesFailed (coherent : tracker.Coherent) (ticket : PollTicket)
    (reason : String) :
    (tracker.onMatchesFailed ticket reason).1.Coherent := by
  unfold Tracker.onMatchesFailed
  split
  · exact coherent.stallPolling reason
  · exact coherent

private theorem setRawQuery (coherent : tracker.Coherent) (rawQuery : String) :
    (tracker.setRawQuery rawQuery).Coherent :=
  coherent.congr rfl rfl rfl rfl rfl rfl rfl rfl rfl

private theorem update (coherent : tracker.Coherent) (message : Message) :
    (tracker.update message).1.Coherent := by
  cases message with
  | mounted route => exact mount tracker route.hash?
  | unmounted => exact coherent.leave
  | datasetsLoaded datasets => exact coherent.congr rfl rfl rfl rfl rfl rfl rfl rfl rfl
  | jobQueryLoaded hash rawQuery | jobQueryFailed hash reason =>
    simp only [Tracker.update]
    split
    · exact coherent.chooseJob _ _
    · exact coherent
  | compileRequested rawQuery taint | submitRequested rawQuery taint =>
    simp only [Tracker.update]
    split
    · exact coherent
    · exact coherent.setRawQuery rawQuery
  | queryCompiled plan rawQuery =>
    simp only [Tracker.update]
    split
    · exact coherent
    · next unlocked =>
      exact coherent.setOutcome (by simpa [isLocked] using unlocked) _ none rawQuery (.inr rfl)
  | queryFailed error rawQuery =>
    simp only [Tracker.update]
    split
    · exact coherent
    · next unlocked =>
      exact coherent.setOutcome (by simpa [isLocked] using unlocked) none _ rawQuery (.inl rfl)
  | querySubmitted hash rawQuery => exact coherent.chooseJob _ _
  | jobChosen hash rawQuery => exact coherent.chooseJob _ _
  | collapseToggled => exact coherent.congr rfl rfl rfl rfl rfl rfl rfl rfl rfl
  | pollDue ticket =>
    simp only [Tracker.update, onPollDue]
    split <;> exact coherent
  | matchesLoaded ticket page => exact coherent.onMatchesLoaded ticket page
  | matchesFailed ticket reason => exact coherent.onMatchesFailed ticket reason
  | backendStatusRequested | tick => exact coherent
  | backendStatusLoaded status | backendStatusFailed reason =>
    exact coherent.congr rfl rfl rfl rfl rfl rfl rfl rfl rfl

private theorem act (coherent : tracker.Coherent) (act : Act) : (tracker.act act).Coherent := by
  cases act with
  | tell message => exact coherent.update message
  | look => exact coherent.congr rfl rfl rfl rfl rfl rfl rfl rfl rfl

theorem after (coherent : tracker.Coherent) (run : List Act) : (tracker.after run).Coherent := by
  induction run generalizing tracker with
  | nil => exact coherent
  | cons act rest ih => exact ih (coherent.act act)

end Coherent

theorem Initial.coherent {start : Tracker} (initial : Initial start) : start.Coherent := by
  cases initial with
  | fresh => exact .blank .default
  | withSettings settings => exact .blank settings.raised

theorem Initial.pageSize {start : Tracker} (initial : Initial start) :
    1 ≤ start.settings.pageSize := by
  cases initial with
  | fresh => decide
  | withSettings settings => exact settings.pageSize_raised

/-- In every run, stale and forged messages included, the fields of the tracker agree, and the
settings stay the ones it began with. -/
theorem coherent_after_run {start : Tracker} (initial : Initial start) (run : List Act) :
    (start.after run).Coherent ∧ (start.after run).settings = start.settings ∧
      1 ≤ (start.after run).settings.pageSize := by
  have kept := settings_after start run
  exact ⟨initial.coherent.after run, kept, kept ▸ initial.pageSize⟩

/-- A job is opened, drained with a forged page in between, and looked at. -/
def drainingRun : List Act :=
  [.tell (.mounted (.job ⟨"a"⟩)), .tell (.jobQueryLoaded ⟨"a"⟩ "rule"), .look,
    .tell (.matchesLoaded ⟨⟨"a"⟩, 1⟩ ⟨[.null], .ofStatus .done⟩),
    .tell (.matchesLoaded ⟨⟨"a"⟩, 7⟩ ⟨[.bool true], .ofStatus .queued⟩), .look,
    .tell (.matchesLoaded ⟨⟨"a"⟩, 1⟩ ⟨[], .ofStatus .done⟩)]

theorem coherent_after_drainingRun :
    Initial (.withSettings ⟨0, 5, 9⟩) ∧
      ((withSettings ⟨0, 5, 9⟩).after drainingRun).poll = .finished ∧
      ((withSettings ⟨0, 5, 9⟩).after drainingRun).Coherent ∧
      ((withSettings ⟨0, 5, 9⟩).after drainingRun).settings = ⟨1, 5, 9⟩ ∧
      1 ≤ ((withSettings ⟨0, 5, 9⟩).after drainingRun).settings.pageSize :=
  ⟨.withSettings _, rfl, coherent_after_run (.withSettings ⟨0, 5, 9⟩) drainingRun⟩

end ScanWatch.Tracker
