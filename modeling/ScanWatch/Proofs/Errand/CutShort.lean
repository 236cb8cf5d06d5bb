import ScanWatch.Proofs.Errand.Outcome

namespace ScanWatch

namespace Report

variable {view : View}

private theorem ofPlan_short (noPlan : view.queryPlan = none) (noError : view.queryError = none) :
    ofPlan view = ⟨[], [], false⟩ := by
  simp [ofPlan, noPlan, noError]

/-- Matches are a success as long as polling has not stalled. -/
theorem ofMatches_success (pending : view.poll.isDrained = false) :
    (ofMatches view).success = true := by
  unfold ofMatches
  split
  · next reason stalled => simp [stalled, PollStatus.isDrained] at pending
  · rfl

private theorem ofJob_short (pending : view.poll.isDrained = false) :
    (ofJob view).success = false ↔ view.jobHash = none ∧ view.queryError.isSome := by
  have success := ofMatches_success pending
  cases job : view.jobHash with
  | some hash => simp [ofJob, job, success]
  | none => cases error : view.queryError <;> simp [ofJob, job, error, success, failure]

private theorem ofBackend_short (noStatus : view.alive = none)
    (noFailure : view.backendError = none) :
    ofBackend view = ⟨["database: down", BackendTable.render view.backendRows], [], true⟩ := by
  simp [ofBackend, noStatus, noFailure]

end Report

namespace Goal

variable {goal : Goal} {view : View}

private theorem report_short (short : goal.isReached view = false) :
    (goal.report view).success = false ↔
      (∃ rawQuery taint, goal = .compile rawQuery taint) ∨
        goal = .watch ∧ view.jobHash = none ∧ view.queryError.isSome := by
  cases goal with
  | browse => simp [report]
  | watch => simpa [report] using Report.ofJob_short short
  | compile rawQuery taint =>
    simp only [isReached, Bool.or_eq_false_iff, Option.isSome_eq_false_iff,
      Option.isNone_iff_eq_none] at short
    simp [report, Report.ofPlan_short short.1 short.2]
  | submit rawQuery taint =>
    -- An error without a job would have been the end of a submission.
    simp only [isReached, Bool.or_eq_false_iff] at short
    have followed : ¬(view.jobHash = none ∧ view.queryError.isSome) := by
      simpa using short.2
    simpa [report, followed] using Report.ofJob_short short.1
  | backend =>
    simp only [isReached, Bool.or_eq_false_iff, Option.isSome_eq_false_iff,
      Option.isNone_iff_eq_none] at short
    simp [report, Report.ofBackend_short short.1 short.2]

end Goal

namespace Errand

/-- An errand that is cut short is reported as a success, unless a plan was asked for, or the job
that was to be followed is gone and an error is shown instead. -/
theorem report_cut_short (settings : PollSettings) (route : Route) (goal : Goal)
    (messages : List Message) (short : (run settings route goal messages).1.isDone = false) :
    (goal.report (run settings route goal messages).1.view).success = false ↔
      (∃ rawQuery taint, goal = .compile rawQuery taint) ∨
        goal = .watch ∧ (run settings route goal messages).1.view.jobHash = none ∧
          (run settings route goal messages).1.view.queryError.isSome :=
  Goal.report_short ((isDone_run settings route goal messages).symm.trans short)

example : (Goal.backend.report (run .default .compose .backend []).1.view).results.head? =
    some "database: down" := by decide

end Errand

end ScanWatch
