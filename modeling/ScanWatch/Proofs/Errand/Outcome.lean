import ScanWatch.Proofs.Errand.Answers
import ScanWatch.Proofs.Errand.Ending
import ScanWatch.Proofs.Json.Line
import ScanWatch.Proofs.Json.Spread
import ScanWatch.Proofs.Payload.Dataset
import ScanWatch.Proofs.Tracker.Answers
import ScanWatch.Proofs.Tracker.Receipts
import ScanWatch.Report

/-! What the report on an errand tells of it. An errand that is done ended with one message, and
this message alone decides between success and failure. -/

namespace ScanWatch

namespace Goal

/-- How a message has reached a goal, by what the tracker after it shows. -/
inductive Concluded (next : Tracker) : Goal → Message → Prop where
  | datasets {datasets : DatasetMap} (shown : next.datasets = datasets) :
      Concluded next .browse (.datasetsLoaded datasets)
  | plan {rawQuery : String} {taint : Option String} {plan : QueryPlan} {typed : String}
      (shown : next.queryPlan = some plan) :
      Concluded next (.compile rawQuery taint) (.queryCompiled plan typed)
  | noPlan {rawQuery : String} {taint : Option String} {error typed : String}
      (absent : next.queryPlan = none) (shown : next.queryError = some error) :
      Concluded next (.compile rawQuery taint) (.queryFailed error typed)
  | noJob {rawQuery : String} {taint : Option String} {error typed : String}
      (absent : next.jobHash = none) (shown : next.queryError = some error)
      (empty : next.found = []) (pending : next.poll.isDrained = false) :
      Concluded next (.submit rawQuery taint) (.queryFailed error typed)
  | finished {goal : Goal} {ticket : PollTicket} {page : MatchPage}
      (following : goal.isFollowing = true) (job : next.jobHash = some ticket.hash)
      (shown : next.poll = .finished) : Concluded next goal (.matchesLoaded ticket page)
  | stalled {goal : Goal} {ticket : PollTicket} {reason : String}
      (following : goal.isFollowing = true) (job : next.jobHash = some ticket.hash)
      (shown : next.poll = .stalled reason) : Concluded next goal (.matchesFailed ticket reason)
  | status {status : BackendStatus} (shown : next.backend = some status)
      (noFailure : next.backendError = none) :
      Concluded next .backend (.backendStatusLoaded status)
  | failure {reason : String} (shown : next.backendError = some reason) :
      Concluded next .backend (.backendStatusFailed reason)

end Goal

namespace Tracker

variable {tracker next : Tracker} {message : Message}

private theorem Coherent.concluded_of_drained (coherent : tracker.Coherent) {effects : List Effect}
    (step : tracker.LoopStep message next effects) {goal : Goal}
    (following : goal.isFollowing = true) (before : tracker.poll.isDrained = false)
    (after : next.poll.isDrained = true) : goal.Concluded next message := by
  obtain ⟨ticket, current, ⟨page, rfl, rfl⟩ | ⟨reason, rfl, rfl⟩⟩ := step.drained before after
  · exact .finished following (coherent.current ticket current).1 rfl
  · exact .stalled following (coherent.current ticket current).1 rfl

private theorem Coherent.refused (coherent : tracker.Coherent)
    (step : tracker.AnswerStep message next)
    (unreached : ¬(tracker.jobHash = none ∧ tracker.queryError.isSome))
    (free : next.jobHash = none) (after : next.queryError.isSome) :
    ∃ error typed, message = .queryFailed error typed ∧
      next = tracker.setQueryError error typed := by
  have noError : tracker.queryError = none := by
    cases open_ : tracker.jobHash with
    | none => simpa [open_] using unreached
    | some hash => exact (coherent.locked (by simp [open_])).2
  cases step with
  | nothing old =>
    rw [old.error.elim (·.trans noError) id] at after
    cases after
  | refusal unlocked error typed => exact ⟨error, typed, rfl, rfl⟩
  | plan => cases after
  | datasets | status | failure =>
    simp [setDatasets, setBackendStatus, setBackendError, noError] at after

/-- A goal that is reached was reached by one of the messages that conclude it. -/
theorem Coherent.concluded (coherent : tracker.Coherent) {goal : Goal}
    (before : goal.isReached tracker.view = false)
    (after : goal.isReached (tracker.update message).1.view = true) :
    goal.Concluded (tracker.update message).1 message := by
  have answers := tracker.update_answers message
  have loop := tracker.update_step message
  generalize (tracker.update message).2 = effects at loop
  generalize (tracker.update message).1 = next at after answers loop
  cases goal with
  | browse =>
    obtain ⟨datasets, rfl, shown⟩ := answers.datasets_come before after
    exact .datasets shown
  | watch => exact coherent.concluded_of_drained loop rfl before after
  | compile rawQuery taint =>
    simp only [Goal.isReached, view, Bool.or_eq_false_iff, Option.isSome_eq_false_iff,
      Option.isNone_iff_eq_none, Bool.or_eq_true] at before after
    have comes := answers.query_comes before.1 before.2 after
    obtain ⟨unlocked, ⟨plan, typed, rfl, rfl⟩ | ⟨error, typed, rfl, rfl⟩⟩ := comes
    · exact .plan rfl
    · exact .noPlan rfl rfl
  | submit rawQuery taint =>
    simp only [Goal.isReached, view, Bool.or_eq_false_iff, Bool.or_eq_true, Bool.and_eq_true,
      Option.isNone_iff_eq_none] at before after
    rcases after with drained | ⟨free, failed⟩
    · exact coherent.concluded_of_drained loop rfl before.1 drained
    · obtain ⟨error, typed, rfl, rfl⟩ :=
        coherent.refused answers (by simpa using before.2) free failed
      exact .noJob free rfl rfl before.1
  | backend =>
    simp only [Goal.isReached, view, Option.isSome_map, Bool.or_eq_false_iff,
      Option.isSome_eq_false_iff, Option.isNone_iff_eq_none, Bool.or_eq_true] at before after
    obtain ⟨status, rfl, rfl⟩ | ⟨reason, rfl, rfl⟩ :=
      answers.backend_comes before.1 before.2 after
    · exact .status rfl rfl
    · exact .failure rfl

end Tracker

/-- Exactly the distinct taints of the datasets that came are listed, in ascending order. -/
structure BrowseRule (last : Message) (report : Report) : Prop where
  success : report.success = true
  remarks : report.remarks = []
  ordered : report.results.Pairwise Text.Before
  taints : ∃ datasets, last = .datasetsLoaded datasets ∧
    ∀ taint, taint ∈ report.results ↔ ∃ dataset ∈ datasets.values, taint ∈ dataset.taints

/-- Either a plan was the answer, and nothing is printed but a text that the plan can be read back
from, or an error was, and nothing but the error is printed. -/
structure CompileRule (last : Message) (report : Report) : Prop where
  success : report.success = true ↔ ∃ plan typed, last = .queryCompiled plan typed
  plan : ∀ plan typed, last = .queryCompiled plan typed → report = ⟨[plan.spread], [], true⟩
  read : ∀ plan typed, last = .queryCompiled plan typed → plan.Readable →
    ∀ text ∈ report.results, Json.parse? text = some plan
  error : report.success = false → ∃ error typed, last = .queryFailed error typed ∧
    report.results = [] ∧ report.remarks = ["error: " ++ error]

/-- The matches of the job are printed, one line for each, from which it can be read back, whether or
not polling came to an early end; a submission that was refused has none. -/
structure FollowRule (last : Message) (poll : PollStatus) (accepted : List Match)
    (report : Report) : Prop where
  success : report.success = true ↔ poll = .finished
  results : report.results = accepted.map Json.compact
  lines : ∀ line ∈ report.results, '\n' ∉ line.toList
  read : (∀ item ∈ accepted, item.Readable) → report.results.mapM Json.parse? = some accepted
  refusal : ∀ error typed, last = .queryFailed error typed →
    report.results = [] ∧ report.remarks = ["error: " ++ error] ∧ report.success = false

/-- Either the backend told what it does, or there was an error. -/
structure BackendRule (last : Message) (report : Report) : Prop where
  success : report.success = true ↔ ∃ status, last = .backendStatusLoaded status
  error : report.success = false → ∃ reason, last = .backendStatusFailed reason ∧
    report.results = [] ∧ report.remarks = ["error: " ++ reason]

def Goal.Rule (last : Message) (poll : PollStatus) (accepted : List Match) (report : Report) :
    Goal → Prop
  | browse => BrowseRule last report
  | compile _ _ => CompileRule last report
  | watch | submit _ _ => FollowRule last poll accepted report
  | backend => BackendRule last report

namespace Report

variable {view : View} {hash : JobHash}

private theorem ofJob_of_job (job : view.jobHash = some hash) : ofJob view = ofMatches view := by
  simp [ofJob, job]

private theorem ofJob_results (job : view.jobHash = some hash) :
    (ofJob view).results = view.found.map Json.compact := by
  rw [ofJob_of_job job, ofMatches]
  split <;> rfl

private theorem ofJob_success (job : view.jobHash = some hash)
    (drained : view.poll.isDrained = true) :
    (ofJob view).success = true ↔ view.poll = .finished := by
  rw [ofJob_of_job job, ofMatches]
  cases shown : view.poll with
  | finished => exact iff_of_true rfl rfl
  | stalled reason => exact iff_of_false nofun nofun
  | idle | polling => simp [shown, PollStatus.isDrained] at drained

end Report

theorem Goal.report_of_isFollowing {goal : Goal} (following : goal.isFollowing = true)
    (view : View) : goal.report view = .ofJob view := by
  cases goal with
  | watch | submit => rfl
  | browse | compile | backend => cases following

private theorem Goal.report_consumeDirty (goal : Goal) (tracker : Tracker) :
    goal.report tracker.consumeDirty.2.view = goal.report tracker.view := by
  cases goal <;> rfl

namespace Goal.Concluded

variable {next : Tracker} {last : Message}

private theorem browseRule (concluded : Goal.browse.Concluded next last) :
    BrowseRule last (Goal.browse.report next.view) := by
  cases concluded with
  | datasets shown =>
    refine ⟨rfl, rfl, availableTaints_ordered _, _, rfl, fun taint => ?_⟩
    rw [← shown]
    exact mem_availableTaints
  | finished following | stalled following => cases following

private theorem compileRule {rawQuery : String} {taint : Option String}
    (concluded : (Goal.compile rawQuery taint).Concluded next last) :
    CompileRule last ((Goal.compile rawQuery taint).report next.view) := by
  cases concluded with
  | @plan _ _ plan typed shown =>
    have printed : (Goal.compile rawQuery taint).report next.view = ⟨[plan.spread], [], true⟩ := by
      simp [Goal.report, Report.ofPlan, Tracker.view, shown]
    rw [printed]
    refine ⟨iff_of_true rfl ⟨plan, typed, rfl⟩, ?_, ?_, nofun⟩
    · rintro plan typed ⟨⟩
      rfl
    · rintro plan typed ⟨⟩ readable text member
      rw [List.mem_singleton.mp member]
      exact readable.parse?_spread
  | @noPlan _ _ error typed absent shown =>
    have printed : (Goal.compile rawQuery taint).report next.view = .failure error := by
      simp [Goal.report, Report.ofPlan, Tracker.view, absent, shown]
    rw [printed]
    exact ⟨iff_of_false nofun nofun, nofun, nofun, fun _ => ⟨error, typed, rfl, rfl, rfl⟩⟩
  | finished following | stalled following => cases following

private theorem followRule_of_drained {goal : Goal} (following : goal.isFollowing = true)
    {hash : JobHash} (job : next.jobHash = some hash) (drained : next.poll.isDrained = true)
    (answered : ∀ error typed, last ≠ .queryFailed error typed) :
    FollowRule last next.poll next.found (goal.report next.view) := by
  rw [report_of_isFollowing following]
  have printed : (Report.ofJob next.view).results = next.found.map Json.compact :=
    Report.ofJob_results job
  refine ⟨Report.ofJob_success job drained, printed, fun line listed => ?_, fun readable => ?_, ?_⟩
  · rw [printed] at listed
    obtain ⟨found, _, rfl⟩ := List.mem_map.mp listed
    exact found.compact_single_line
  · rw [printed]
    exact Json.mapM_parse?_compact readable
  · intro error typed refused
    exact absurd refused (answered error typed)

private theorem followRule {goal : Goal} (following : goal.isFollowing = true)
    (concluded : goal.Concluded next last) :
    FollowRule last next.poll next.found (goal.report next.view) := by
  cases concluded with
  | finished _ job shown =>
    exact followRule_of_drained following job (by rw [shown]; rfl) (by simp)
  | stalled _ job shown =>
    exact followRule_of_drained following job (by rw [shown]; rfl) (by simp)
  | @noJob rawQuery taint error typed absent shown empty pending =>
    have printed : (Goal.submit rawQuery taint).report next.view = .failure error := by
      simp [Goal.report, Report.ofJob, Tracker.view, absent, shown]
    rw [printed, empty]
    refine ⟨iff_of_false nofun fun finished => ?_, rfl, nofun, fun _ => rfl, ?_⟩
    · simp [finished, PollStatus.isDrained] at pending
    · rintro error typed ⟨⟩
      exact ⟨rfl, rfl, rfl⟩
  | datasets | plan | noPlan | status | failure => cases following

private theorem backendRule (concluded : Goal.backend.Concluded next last) :
    BackendRule last (Goal.backend.report next.view) := by
  cases concluded with
  | @status status shown noFailure =>
    have succeeds : (Goal.backend.report next.view).success = true := by
      simp [Goal.report, Report.ofBackend, Tracker.view, noFailure]
    exact ⟨iff_of_true succeeds ⟨status, rfl⟩, fun fails => by simp [succeeds] at fails⟩
  | @failure reason shown =>
    have printed : Goal.backend.report next.view = .failure reason := by
      simp [Goal.report, Report.ofBackend, Tracker.view, shown]
    rw [printed]
    exact ⟨iff_of_false nofun nofun, fun _ => ⟨reason, rfl, rfl, rfl⟩⟩
  | finished following | stalled following => cases following

private theorem rule {goal : Goal} (concluded : goal.Concluded next last) :
    goal.Rule last next.poll next.found (goal.report next.view) := by
  cases goal with
  | browse => exact concluded.browseRule
  | compile => exact concluded.compileRule
  | watch | submit => exact concluded.followRule rfl
  | backend => exact concluded.backendRule

end Goal.Concluded

namespace Tracker

/-- The matches of the pages that were accepted since the results were last dropped, in the order of
their arrival. -/
inductive Accumulated (start : Tracker) : List Act → List Match → Prop where
  | since {before later : List Act} {opened : Option PollTicket}
      (afresh : start.Afresh before opened)
      (undisturbed : (start.after before).Undisturbed later) :
      Accumulated start (before ++ later)
        (((start.after before).receipts later).flatMap fun receipt => receipt.page.items)

private theorem Initial.accumulated {start : Tracker} (initial : Initial start) (run : List Act) :
    start.Accumulated run (start.after run).found := by
  obtain ⟨before, later, opened, rfl, afresh, undisturbed⟩ := exists_afresh start run
  have found := undisturbed.results.1
  rw [(afresh.blank initial).1, List.nil_append, ← after_append] at found
  rw [found]
  exact .since afresh undisturbed

end Tracker

namespace Errand

variable (settings : PollSettings) (route : Route) (goal : Goal)

/-- An errand ended with a message that reached its goal, and the report on it keeps to the rule for
the goal. -/
structure Outcome (before : List Message) (last : Message) (view : View) : Prop where
  pending : goal.isReached
    ((Session.new settings).after (opening route goal ++ before)).tracker.view = false
  seen : view =
    ((Session.new settings).after (opening route goal ++ (before ++ [last]))).tracker.view
  report : ∃ accepted, (Tracker.withSettings settings).Accumulated
      (Session.acts (opening route goal ++ (before ++ [last]))) accepted ∧
    goal.Rule last view.poll accepted (goal.report view)

private theorem start_pending : (start settings route goal).1.isDone = false := by
  cases goal <;> cases route <;> rfl

private theorem reachedAfter_start (messages : List Message) :
    (start settings route goal).1.reachedAfter messages = goal.isReached
      ((Session.new settings).after (opening route goal ++ messages)).tracker.view := by
  rw [start_told, Session.after_append]
  rfl

theorem isDone_run (messages : List Message) :
    (run settings route goal messages).1.isDone =
      goal.isReached (run settings route goal messages).1.view := by
  have started := upToDate_start settings route goal
  obtain ⟨told, _, _, _, same⟩ := started.follow_shortest messages
  have kept : (run settings route goal messages).1.goal = goal := by
    change ((start settings route goal).1.follow messages).1.goal = goal
    rw [same, started.tellAll, start_told]
  rw [Errand.isDone, kept]

private theorem exists_last (messages : List Message)
    (done : (run settings route goal messages).1.isDone = true) :
    ∃ before last, before ++ [last] <+: messages ∧
      (start settings route goal).1.reachedAfter before = false ∧
      (start settings route goal).1.reachedAfter (before ++ [last]) = true ∧
      (run settings route goal messages).1.view =
        ((Session.new settings).after (opening route goal ++ (before ++ [last]))).tracker.view := by
  have started := upToDate_start settings route goal
  obtain ⟨told, begins, unreached, _, same⟩ := started.follow_shortest messages
  have seen : (run settings route goal messages).1.view =
      ((Session.new settings).after (opening route goal ++ told)).tracker.view := by
    rw [view_run, same, started.tellAll, start_told, Session.after_append]
  have reached : (start settings route goal).1.reachedAfter told = true := by
    rw [reachedAfter_start, ← seen, ← isDone_run]
    exact done
  rcases List.eq_nil_or_concat' told with rfl | ⟨before, last, rfl⟩
  · have pending := started.isDone.symm.trans (start_pending settings route goal)
    exact absurd (pending.symm.trans reached) (by decide)
  · refine ⟨before, last, begins, ?_, reached, seen⟩
    exact unreached before (List.prefix_append ..) (by simp)

/-- The report on an errand that is done tells its outcome: it names what the last message brought,
and is a success just when this is what the goal was. -/
theorem report_tells_outcome (messages : List Message)
    (done : (run settings route goal messages).1.isDone = true) :
    ∃ before last, before ++ [last] <+: messages ∧
      Outcome settings route goal before last (run settings route goal messages).1.view := by
  obtain ⟨before, last, begins, pending, reached, seen⟩ :=
    exists_last settings route goal messages done
  rw [reachedAfter_start] at pending reached
  have coherent := Session.coherent_after settings (opening route goal ++ before)
  refine ⟨before, last, begins, pending, seen, ?_⟩
  have accumulated := (Tracker.Initial.withSettings settings).accumulated
    (Session.acts (opening route goal ++ (before ++ [last])))
  change (Tracker.withSettings settings).Accumulated _
    ((Session.new settings).tracker.after _).found at accumulated
  rw [← Session.tracker_after] at accumulated
  refine ⟨_, accumulated, ?_⟩
  rw [← List.append_assoc, Session.after_append] at reached seen ⊢
  generalize (Session.new settings).after (opening route goal ++ before) = session at *
  have looked : (session.after [last]).tracker = (session.tracker.update last).1.consumeDirty.2 :=
    rfl
  have concluded := coherent.concluded pending reached
  rw [seen, looked, Goal.report_consumeDirty]
  exact concluded.rule

/-- A query is accepted, and the second page of its job cannot be had. -/
def stalledAnswers : List Message :=
  [.querySubmitted ⟨"a"⟩ "rule",
    .matchesLoaded ⟨⟨"a"⟩, 1⟩ ⟨[.null, .bool true], .ofStatus .processing⟩,
    .pollDue ⟨⟨"a"⟩, 1⟩, .matchesFailed ⟨⟨"a"⟩, 1⟩ "timeout", .tick]

/-- A query is refused. -/
def refusedAnswers : List Message :=
  [.tick, .queryFailed "no such rule" "rule"]

theorem report_tells_outcome_unsuccessful :
    ((run .default .compose (.submit "rule" none) stalledAnswers).1.isDone = true ∧
      (Goal.submit "rule" none).report
          (run .default .compose (.submit "rule" none) stalledAnswers).1.view =
        ⟨["null", "true"], ["location: /query/a", "error: polling stopped early: timeout"],
          false⟩ ∧
      ∃ before last, before ++ [last] <+: stalledAnswers ∧
        Outcome .default .compose (.submit "rule" none) before last
          (run .default .compose (.submit "rule" none) stalledAnswers).1.view) ∧
    (run .default .compose (.compile "rule" none) refusedAnswers).1.isDone = true ∧
      (Goal.compile "rule" none).report
          (run .default .compose (.compile "rule" none) refusedAnswers).1.view =
        ⟨[], ["error: no such rule"], false⟩ ∧
      ∃ before last, before ++ [last] <+: refusedAnswers ∧
        Outcome .default .compose (.compile "rule" none) before last
          (run .default .compose (.compile "rule" none) refusedAnswers).1.view :=
  ⟨⟨rfl, by decide, report_tells_outcome _ _ _ _ rfl⟩, rfl, by decide,
    report_tells_outcome _ _ _ _ rfl⟩

end Errand

end ScanWatch
