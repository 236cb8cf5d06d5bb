import ScanWatch.Errand
import ScanWatch.Proofs.Program.Goal
import ScanWatch.Proofs.Tracker.Report

namespace ScanWatch

namespace Goal

/-- The request whose answer a goal waits for first. -/
def question? (route : Route) : Goal → Option Request
  | browse => some .datasets
  | watch => route.hash?.map .jobQuery
  | compile rawQuery taint => some (.compile rawQuery taint)
  | submit rawQuery taint => some (.submit rawQuery taint)
  | backend => some .backendStatus

/-- What the engine may be asked for on the way to a goal: of all submissions only its own. -/
def Allows (goal : Goal) (route : Route) (request : Request) : Prop :=
  goal.question? route = some request ∨ ∀ rawQuery taint, request ≠ .submit rawQuery taint

def isFollowing : Goal → Bool
  | watch | submit _ _ => true
  | browse | compile _ _ | backend => false

theorem isReached_of_isDrained {goal : Goal} (following : goal.isFollowing = true) {view : View}
    (drained : view.poll.isDrained = true) : goal.isReached view = true := by
  cases goal with
  | watch | submit => simp [isReached, drained]
  | browse | compile | backend => cases following

end Goal

/-- Whether an event reports that a request failed or that a query was refused. -/
def Event.isRefusal : Event → Bool
  | .datasetsLoaded (.error _) | .jobQueryLoaded _ (.error _) | .matchesLoaded _ (.error _)
  | .queryCompiled _ (.error _) | .queryCompiled _ (.ok (.rejected _))
  | .querySubmitted _ (.error _) | .querySubmitted _ (.ok (.rejected _))
  | .backendStatusLoaded (.error _) => true
  | _ => false

namespace Tracker

variable {tracker : Tracker}

private theorem isLocked_of_composing (composing : tracker.jobHash = none) :
    tracker.isLocked = false := by
  rw [isLocked, composing]
  rfl

private theorem view_queryCompiled (composing : tracker.jobHash = none) (plan : QueryPlan)
    (rawQuery : String) :
    (tracker.update (.queryCompiled plan rawQuery)).1.consumeDirty.2.view.queryPlan =
      some plan := by
  simp only [update, isLocked_of_composing composing, Bool.false_eq_true, ↓reduceIte]
  rfl

private theorem view_queryFailed (composing : tracker.jobHash = none) (error rawQuery : String) :
    (tracker.update (.queryFailed error rawQuery)).1.consumeDirty.2.view.queryError = some error ∧
      (tracker.update (.queryFailed error rawQuery)).1.consumeDirty.2.view.jobHash = none := by
  simp only [update, isLocked_of_composing composing, Bool.false_eq_true, ↓reduceIte]
  exact ⟨rfl, composing⟩

end Tracker

/-- Once the answer that a goal waits for has come, the goal is reached, or a job is followed; after
a refusal only the job that is watched. -/
theorem Goal.Fits.answered {route : Route} {goal : Goal} (fits : goal.Fits route)
    {tracker : Tracker} (jobHash : tracker.jobHash = route.hash?) {request : Request}
    (question : goal.question? route = some request) (result : Except Failure request.Answer) :
    goal.isReached (tracker.update (request.event result).message).1.consumeDirty.2.view = true ∨
      (tracker.update (request.event result).message).1.ticket.isSome ∧ goal.isFollowing = true ∧
        ((request.event result).isRefusal = true → goal = .watch) := by
  cases fits with
  | backend route =>
    cases question
    left
    cases result with
    | error failure => exact Bool.or_true _
    | ok status => rfl
  | browse =>
    cases question
    left
    cases result <;> rfl
  | compile rawQuery taint =>
    cases question
    left
    rcases result with failure | plan | error
    · simp [Request.event, Event.message, isReached, Tracker.view_queryFailed jobHash]
    · simp [Request.event, Event.message, isReached, Tracker.view_queryCompiled jobHash]
    · simp [Request.event, Event.message, isReached, Tracker.view_queryFailed jobHash]
  | submit rawQuery taint =>
    cases question
    rcases result with failure | hash | error
    · left
      simp [Request.event, Event.message, isReached, Tracker.view_queryFailed jobHash]
    · exact .inr ⟨rfl, rfl, nofun⟩
    · left
      simp [Request.event, Event.message, isReached, Tracker.view_queryFailed jobHash]
  | watch hash =>
    cases question
    have viewed : tracker.jobHash = some hash := jobHash
    right
    cases result <;> simp [Request.event, Event.message, Tracker.update, viewed, isFollowing,
      (tracker.chooseJob_some hash _).2.1]

end ScanWatch
