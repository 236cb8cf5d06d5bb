import ScanWatch.Proofs.Tracker.Run

namespace ScanWatch

def Message.ticket? : Message → Option PollTicket
  | .pollDue ticket | .matchesLoaded ticket _ | .matchesFailed ticket _ => some ticket
  | _ => none

def Request.ticket? : Request → Option PollTicket
  | .page ticket _ _ => some ticket
  | _ => none

def Effect.asked? : Effect → Option Request
  | .ask request => some request
  | .navigate _ | .schedulePoll _ _ | .cancelPoll => none

def Effect.ticket? : Effect → Option PollTicket
  | .ask request => request.ticket?
  | .schedulePoll ticket _ => some ticket
  | _ => none

namespace Tracker

/-- The first page of a loop that is about to be opened. -/
def firstPage (tracker : Tracker) (hash : JobHash) : Effect :=
  .ask (.page (tracker.nextTicket hash) 0 tracker.settings.pageSize.toNat)

/-- The part of a tracker that its polling loop lives in is as it was; without a job the matches
may be dropped. -/
structure SameLoop (next tracker : Tracker) : Prop where
  ticket : next.ticket = tracker.ticket
  lastEpoch : next.lastEpoch = tracker.lastEpoch
  settings : next.settings = tracker.settings
  jobHash : next.jobHash = tracker.jobHash
  poll : next.poll = tracker.poll
  found : next.found = tracker.found ∨ tracker.jobHash = none

/-- What a message does to the polling loop: the tracker after it, and the effects. -/
inductive LoopStep (tracker : Tracker) : Message → Tracker → List Effect → Prop where
  /-- The loop is not concerned. -/
  | kept {message : Message} {next : Tracker} {effects : List Effect}
      (stale : message.ticket? = none ∨ message.ticket? ≠ tracker.ticket)
      (unopened : tracker.opening? message = none) (same : next.SameLoop tracker)
      (quiet : ∀ effect ∈ effects, effect.ticket? = none ∧ effect ≠ .cancelPoll) :
      LoopStep tracker message next effects
  /-- The loop is given up. -/
  | closed {message : Message} {next : Tracker} {effects : List Effect}
      (free : message.ticket? = none) (unopened : tracker.opening? message = none)
      (ticket : next.ticket = none) (lastEpoch : next.lastEpoch = tracker.lastEpoch)
      (settings : next.settings = tracker.settings)
      (ended : next.poll = .idle ∨ next.jobHash = none ∧ next.poll = tracker.poll)
      (quiet : ∀ effect ∈ effects, effect.ticket? = none)
      (cancels : .cancelPoll ∈ effects ↔ tracker.ticket.isSome) :
      LoopStep tracker message next effects
  /-- A new loop takes the place of the old one. -/
  | opened {message : Message} {next : Tracker} (hash : JobHash)
      (free : message.ticket? = none) (opening : tracker.opening? message = some hash)
      (ticket : next.ticket = some (tracker.nextTicket hash))
      (lastEpoch : next.lastEpoch = tracker.lastEpoch + 1)
      (settings : next.settings = tracker.settings) (jobHash : next.jobHash = some hash)
      (poll : next.poll = .polling) (found : next.found = []) :
      LoopStep tracker message next
        (.navigate (.job hash) :: (tracker.cancellation ++ [tracker.firstPage hash]))
  /-- The next page is asked for. -/
  | asked {ticket : PollTicket} (current : tracker.ticket = some ticket) :
      LoopStep tracker (.pollDue ticket) tracker
        [.ask (.page ticket tracker.found.length tracker.settings.pageSize.toNat)]
  /-- A page is taken over, and the next one is waited for. -/
  | continued {ticket : PollTicket} {page : MatchPage} {delay : UInt64}
      (current : tracker.ticket = some ticket)
      (again : tracker.settings.nextStep page.job.status page.items.length = .again delay) :
      LoopStep tracker (.matchesLoaded ticket page) (tracker.applyPage page)
        [.schedulePoll ticket delay]
  /-- The job is drained. -/
  | finished {ticket : PollTicket} {page : MatchPage}
      (current : tracker.ticket = some ticket)
      (terminal : page.job.status.isTerminal = true) (empty : page.items = []) :
      LoopStep tracker (.matchesLoaded ticket page) (tracker.applyPage page).finishPolling []
  /-- A page could not be had. -/
  | stalled {ticket : PollTicket} (reason : String) (current : tracker.ticket = some ticket) :
      LoopStep tracker (.matchesFailed ticket reason) (tracker.stallPolling reason) []

variable {tracker : Tracker}

theorem isCurrent_iff (tracker : Tracker) (ticket : PollTicket) :
    tracker.isCurrent ticket = true ↔ tracker.ticket = some ticket :=
  beq_iff_eq

theorem update_due {ticket : PollTicket} (current : tracker.ticket = some ticket) :
    tracker.update (.pollDue ticket) =
      (tracker, [.ask (.page ticket tracker.found.length tracker.settings.pageSize.toNat)]) :=
  if_pos ((isCurrent_iff ..).mpr current)

theorem update_pending {ticket : PollTicket} {page : MatchPage}
    (current : tracker.ticket = some ticket)
    (pending : ¬(page.job.status.isTerminal = true ∧ page.items = [])) :
    tracker.update (.matchesLoaded ticket page) =
      (tracker.applyPage page,
        [.schedulePoll ticket (tracker.settings.delayAfter page.items.length)]) := by
  have held : tracker.isCurrent ticket = true := (isCurrent_iff ..).mpr current
  have again : tracker.settings.nextStep page.job.status page.items.length =
      .again (tracker.settings.delayAfter page.items.length) := by
    apply PollSettings.nextStep_of_pending
    rintro ⟨terminal, empty⟩
    exact pending ⟨terminal, List.length_eq_zero_iff.mp empty⟩
  simp only [update, onMatchesLoaded, held, ↓reduceIte]
  rw [again]

theorem update_drained {ticket : PollTicket} {page : MatchPage}
    (current : tracker.ticket = some ticket) (terminal : page.job.status.isTerminal = true)
    (empty : page.items = []) :
    tracker.update (.matchesLoaded ticket page) = ((tracker.applyPage page).finishPolling, []) := by
  have held : tracker.isCurrent ticket = true := (isCurrent_iff ..).mpr current
  have stop : tracker.settings.nextStep page.job.status page.items.length = .stop :=
    (PollSettings.nextStep_eq_stop ..).mpr ⟨terminal, List.length_eq_zero_iff.mpr empty⟩
  simp only [update, onMatchesLoaded, held, ↓reduceIte]
  rw [stop]

private theorem SameLoop.refl (tracker : Tracker) : tracker.SameLoop tracker :=
  ⟨rfl, rfl, rfl, rfl, rfl, .inl rfl⟩

private theorem LoopStep.dropped {message : Message}
    (stale : message.ticket? = none ∨ message.ticket? ≠ tracker.ticket)
    (unopened : tracker.opening? message = none) : tracker.LoopStep message tracker [] :=
  .kept stale unopened (.refl tracker) (by simp)

private theorem LoopStep.stale {message : Message} {ticket : PollTicket}
    (speaks : message.ticket? = some ticket) (unopened : tracker.opening? message = none)
    (other : ¬tracker.isCurrent ticket = true) : tracker.LoopStep message tracker [] := by
  refine .dropped (.inr fun same => other ?_) unopened
  rw [isCurrent_iff, ← same, speaks]

theorem mem_cancellation (tracker : Tracker) (effect : Effect) :
    effect ∈ tracker.cancellation ↔ tracker.ticket.isSome ∧ effect = .cancelPoll := by
  unfold cancellation
  split <;> simp_all

private theorem onMounted_step (tracker : Tracker) (route : Route) :
    tracker.LoopStep (.mounted route) (tracker.onMounted route).1 (tracker.onMounted route).2 := by
  refine .closed rfl rfl rfl rfl rfl (.inl rfl) ?_ ?_
  · intro effect member
    rcases List.mem_append.mp member with cancelled | asked
    · rw [((mem_cancellation ..).mp cancelled).2]
      rfl
    · cases route <;> simp [Route.hash?] at asked
      · rw [asked]
        rfl
      · rcases asked with rfl | rfl <;> rfl
  · cases route <;> simp [onMounted, Route.hash?, mem_cancellation]

private theorem onUnmounted_step (tracker : Tracker) :
    tracker.LoopStep .unmounted tracker.onUnmounted.1 tracker.onUnmounted.2 := by
  refine .closed rfl rfl rfl rfl rfl ?_ ?_ ?_
  · by_cases polling : tracker.poll = .polling <;>
      simp [onUnmounted, leave, releaseTicket, polling]
  · intro effect member
    rw [((mem_cancellation ..).mp member).2]
    rfl
  · simp [onUnmounted, mem_cancellation]

private theorem chooseJob_step (tracker : Tracker) (message : Message) (hash : Option JobHash)
    (rawQuery : Option String) (free : message.ticket? = none)
    (opening : tracker.opening? message = hash) :
    tracker.LoopStep message (tracker.chooseJob hash rawQuery).1
      (tracker.chooseJob hash rawQuery).2 := by
  have query : (tracker.withQuery rawQuery).lastEpoch = tracker.lastEpoch ∧
      (tracker.withQuery rawQuery).settings = tracker.settings := by
    cases rawQuery <;> exact ⟨rfl, rfl⟩
  cases hash with
  | none =>
    refine .closed free opening rfl query.1 query.2 (.inl rfl) ?_ ?_
    · intro effect member
      rcases List.mem_cons.mp member with rfl | cancelled
      · rfl
      · rw [((mem_cancellation ..).mp cancelled).2]
        rfl
    · simp [chooseJob, mem_cancellation]
  | some hash =>
    refine .opened hash free opening ?_ ?_ query.2 rfl rfl rfl
    · exact congrArg (fun epoch => some (PollTicket.mk hash (epoch + 1))) query.1
    · exact congrArg (· + 1) query.1

private theorem onMatchesLoaded_step (tracker : Tracker) (ticket : PollTicket) (page : MatchPage) :
    tracker.LoopStep (.matchesLoaded ticket page) (tracker.onMatchesLoaded ticket page).1
      (tracker.onMatchesLoaded ticket page).2 := by
  unfold onMatchesLoaded
  split
  · next current =>
    have held := (isCurrent_iff ..).mp current
    split
    · next again => exact .continued held again
    · next stop =>
      obtain ⟨terminal, empty⟩ := (PollSettings.nextStep_eq_stop ..).mp stop
      exact .finished held terminal (List.length_eq_zero_iff.mp empty)
  · next other => exact .stale rfl rfl other

/-- Every update is one of the steps of a polling loop. -/
theorem update_step (tracker : Tracker) (message : Message) :
    tracker.LoopStep message (tracker.update message).1 (tracker.update message).2 := by
  cases message with
  | mounted route => exact onMounted_step tracker route
  | unmounted => exact onUnmounted_step tracker
  | jobQueryLoaded hash rawQuery | jobQueryFailed hash reason =>
    simp only [update]
    split
    · next same => exact chooseJob_step _ _ _ _ rfl (by simp [opening?, same])
    · next other => exact .dropped (.inl rfl) (by simp [opening?, other])
  | querySubmitted hash rawQuery => exact chooseJob_step _ _ _ _ rfl rfl
  | jobChosen hash rawQuery => exact chooseJob_step _ _ _ _ rfl rfl
  | compileRequested rawQuery taint | submitRequested rawQuery taint =>
    simp only [update]
    split
    · exact .dropped (.inl rfl) rfl
    · exact .kept (.inl rfl) rfl ⟨rfl, rfl, rfl, rfl, rfl, .inl rfl⟩
        (by simp [Effect.ticket?, Request.ticket?])
  | queryCompiled plan rawQuery | queryFailed error rawQuery =>
    simp only [update]
    split
    · exact .dropped (.inl rfl) rfl
    · next unlocked =>
      exact .kept (.inl rfl) rfl
        ⟨rfl, rfl, rfl, rfl, rfl, .inr (by simpa [isLocked] using unlocked)⟩ (by simp)
  | datasetsLoaded | collapseToggled | backendStatusLoaded | backendStatusFailed =>
    exact .kept (.inl rfl) rfl ⟨rfl, rfl, rfl, rfl, rfl, .inl rfl⟩ (by simp [update])
  | backendStatusRequested =>
    exact .kept (.inl rfl) rfl (.refl tracker) (by simp [update, Effect.ticket?, Request.ticket?])
  | tick => exact .dropped (.inl rfl) rfl
  | pollDue ticket =>
    simp only [update, onPollDue]
    split
    · next current => exact .asked ((isCurrent_iff ..).mp current)
    · next other => exact .stale rfl rfl other
  | matchesLoaded ticket page => exact onMatchesLoaded_step tracker ticket page
  | matchesFailed ticket reason =>
    simp only [update, onMatchesFailed]
    split
    · next current => exact .stalled reason ((isCurrent_iff ..).mp current)
    · next other => exact .stale rfl rfl other

private theorem LoopStep.settings {message : Message} {next : Tracker} {effects : List Effect}
    (step : tracker.LoopStep message next effects) : next.settings = tracker.settings := by
  cases step with
  | kept stale unopened same quiet => exact same.settings
  | closed free unopened ticket lastEpoch settings ended quiet cancels => exact settings
  | opened hash free opening ticket lastEpoch settings jobHash poll found => exact settings
  | asked | continued | finished | stalled => rfl

theorem settings_after (tracker : Tracker) (run : List Act) :
    (tracker.after run).settings = tracker.settings := by
  induction run generalizing tracker with
  | nil => rfl
  | cons act rest ih =>
    refine (ih (tracker.act act)).trans ?_
    cases act with
    | tell message => exact (update_step tracker message).settings
    | look => rfl

end Tracker

end ScanWatch
