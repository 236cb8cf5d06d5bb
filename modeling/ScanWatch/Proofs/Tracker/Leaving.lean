import ScanWatch.Proofs.Tracker.Report

/-! Answers that come after the page was left. A tracker without a job lets all of them go by but
one kind: a submission that was accepted opens its job all the same. -/

namespace ScanWatch

def Event.isAcceptance : Event → Bool
  | .querySubmitted _ (.ok (.accepted _)) => true
  | _ => false

private theorem Event.message_of_isAcceptance {event : Event}
    (acceptance : event.isAcceptance = true) :
    ∃ hash rawQuery, event.message = .querySubmitted hash rawQuery := by
  unfold isAcceptance at acceptance
  split at acceptance
  · exact ⟨_, _, rfl⟩
  · cases acceptance

namespace Tracker

/-- No job is open, and no polling loop. -/
structure Away (tracker : Tracker) : Prop where
  jobHash : tracker.jobHash = none
  ticket : tracker.ticket = none

/-- The tracker after answers of the engine, and all effects on the way. -/
def hear (tracker : Tracker) : List Event → Tracker × List Effect
  | [] => (tracker, [])
  | answer :: rest =>
    let (next, effects) := tracker.update answer.message
    let (last, others) := next.hear rest
    (last, effects ++ others)

variable {tracker : Tracker}

private theorem hear_cons (tracker : Tracker) (answer : Event) (rest : List Event) :
    tracker.hear (answer :: rest) =
      (((tracker.update answer.message).1.hear rest).1,
        (tracker.update answer.message).2 ++ ((tracker.update answer.message).1.hear rest).2) := rfl

private theorem away_unmounted (tracker : Tracker) : (tracker.update .unmounted).1.Away :=
  ⟨rfl, rfl⟩

namespace Away

private theorem update (away : tracker.Away) {message : Message} (report : message.isReport = true)
    (other : ∀ hash rawQuery, message ≠ .querySubmitted hash rawQuery) :
    (tracker.update message).2 = [] ∧ (tracker.update message).1.Away := by
  cases message with
  | datasetsLoaded | backendStatusLoaded | backendStatusFailed =>
    exact ⟨rfl, away.jobHash, away.ticket⟩
  | queryCompiled | queryFailed =>
    have unlocked : tracker.isLocked = false := by simp [isLocked, away.jobHash]
    simp only [Tracker.update, unlocked, Bool.false_eq_true, ↓reduceIte]
    exact ⟨trivial, away.jobHash, away.ticket⟩
  | jobQueryLoaded | jobQueryFailed =>
    simp only [Tracker.update, away.jobHash, reduceCtorEq, ↓reduceIte]
    exact ⟨trivial, away⟩
  | pollDue ticket | matchesLoaded ticket | matchesFailed ticket =>
    have stale : tracker.isCurrent ticket = false := by simp [isCurrent, away.ticket]
    simp only [Tracker.update, onPollDue, onMatchesLoaded, onMatchesFailed, stale,
      Bool.false_eq_true, ↓reduceIte]
    exact ⟨trivial, away⟩
  | querySubmitted hash rawQuery => exact absurd rfl (other hash rawQuery)
  | _ => cases report

private theorem hear (away : tracker.Away) {answers : List Event}
    (others : ∀ answer ∈ answers, answer.isAcceptance = false) :
    (tracker.hear answers).2 = [] ∧ (tracker.hear answers).1.Away := by
  induction answers generalizing tracker with
  | nil => exact ⟨rfl, away⟩
  | cons answer rest ih =>
    obtain ⟨other, later⟩ := List.forall_mem_cons.mp others
    obtain ⟨effects, stays⟩ := away.update answer.message_isReport fun hash rawQuery told => by
      rw [Event.eq_querySubmitted told] at other
      cases other
    rw [hear_cons, effects, List.nil_append]
    exact ih stays later

end Away

private theorem hear_acceptance (tracker : Tracker) {answers : List Event} {answer : Event}
    (member : answer ∈ answers) (acceptance : answer.isAcceptance = true) :
    (tracker.hear answers).2 ≠ [] := by
  induction answers generalizing tracker with
  | nil => cases member
  | cons first rest ih =>
    rw [hear_cons]
    intro nothing
    obtain ⟨now, after⟩ := List.append_eq_nil_iff.mp nothing
    rcases List.mem_cons.mp member with rfl | later
    · obtain ⟨hash, rawQuery, told⟩ := Event.message_of_isAcceptance acceptance
      rw [told] at now
      cases now
    · exact ih _ later after

/-- Whatever the tracker was, once the page is left, the answers still on their way have no effect
and open neither a job nor a loop exactly if none of them accepts a submission. -/
theorem final_after_leaving_iff (tracker : Tracker) (answers : List Event) :
    ((tracker.update .unmounted).1.hear answers).2 = [] ∧
        ((tracker.update .unmounted).1.hear answers).1.Away ↔
      ∀ answer ∈ answers, answer.isAcceptance = false := by
  constructor
  · intro final answer member
    rw [Bool.eq_false_iff]
    exact fun acceptance => hear_acceptance _ member acceptance final.1
  · exact (away_unmounted tracker).hear

def leftTracker : Tracker :=
  (withSettings .default).after
    [.tell (.mounted .compose), .tell (.submitRequested "rule" none), .tell .unmounted]

def lateAcceptance : Event :=
  .querySubmitted "rule" (.ok (.accepted ⟨"abc123"⟩))

/-- A late acceptance opens its job, and a polling loop that nobody will cancel. -/
theorem late_acceptance_opens :
    Initial (.withSettings .default) ∧ leftTracker.Away ∧
      (leftTracker.hear [lateAcceptance]).2 =
        [.navigate (.job ⟨"abc123"⟩), .ask (.page ⟨⟨"abc123"⟩, 1⟩ 0 50)] ∧
      (leftTracker.hear [lateAcceptance]).1.jobHash = some ⟨"abc123"⟩ ∧
      (leftTracker.hear [lateAcceptance]).1.ticket = some ⟨⟨"abc123"⟩, 1⟩ ∧
      ¬((leftTracker.hear [lateAcceptance]).2 = [] ∧ (leftTracker.hear [lateAcceptance]).1.Away) :=
  ⟨.withSettings _, ⟨rfl, rfl⟩, rfl, rfl, rfl, fun final => nomatch final.1⟩

end Tracker

end ScanWatch
