import ScanWatch.Proofs.Tracker.Step

namespace ScanWatch.Tracker

variable {tracker : Tracker} {message : Message}

/-- The effects other than cancellations. -/
def uncancelled (effects : List Effect) : List Effect :=
  effects.filter (· ≠ .cancelPoll)

private theorem uncancelled_append (first last : List Effect) :
    uncancelled (first ++ last) = uncancelled first ++ uncancelled last :=
  List.filter_append ..

private theorem uncancelled_eq_self {effects : List Effect} (spared : .cancelPoll ∉ effects) :
    uncancelled effects = effects := by
  rw [uncancelled, List.filter_eq_self]
  intro effect member
  simpa using fun same : effect = .cancelPoll => spared (same ▸ member)

private theorem uncancelled_cancellation (tracker : Tracker) :
    uncancelled tracker.cancellation = [] := by
  rw [uncancelled, List.filter_eq_nil_iff]
  intro effect member
  simp [((mem_cancellation ..).mp member).2]

private theorem cancellation_of_released (released : tracker.ticket = none) :
    tracker.cancellation = [] := by
  simp [cancellation, released]

/-- The first time a message cancels exactly if there is a loop. Told once more it changes nothing,
and has the same effects without the cancellation. -/
structure Settles (tracker : Tracker) (message : Message) : Prop where
  cancels : .cancelPoll ∈ (tracker.update message).2 ↔ tracker.ticket.isSome
  state : ((tracker.update message).1.update message).1 = (tracker.update message).1
  effects : ((tracker.update message).1.update message).2 = uncancelled (tracker.update message).2
  spares : .cancelPoll ∉ ((tracker.update message).1.update message).2

private theorem settles_of_reset (reset : Tracker → Tracker) (before after : List Effect)
    (update : ∀ tracker : Tracker,
      tracker.update message = (reset tracker, before ++ (tracker.cancellation ++ after)))
    (released : ∀ tracker, (reset tracker).ticket = none)
    (again : ∀ tracker, reset (reset tracker) = reset tracker)
    (first : .cancelPoll ∉ before) (last : .cancelPoll ∉ after) (tracker : Tracker) :
    tracker.Settles message := by
  have quiet : ((reset tracker).update message).2 = before ++ after := by
    rw [update, cancellation_of_released (released tracker), List.nil_append]
  have spared : .cancelPoll ∉ before ++ after := by
    simp [first, last]
  have kept : uncancelled (tracker.update message).2 = before ++ after := by
    rw [update, uncancelled_append, uncancelled_append, uncancelled_cancellation,
      uncancelled_eq_self first, uncancelled_eq_self last, List.nil_append]
  refine ⟨?_, ?_, ?_, ?_⟩
  · simp [update, first, last, mem_cancellation]
  · simp only [update, again]
  · rw [kept, ← quiet, update tracker]
  · rw [update tracker, quiet]
    exact spared

/-- However often a message that settles is told, the state is that after the first time, and the
effects are those of the first time and, for every further time, the same without the
cancellation. -/
theorem Settles.repeated (settles : tracker.Settles message) (times : Nat) :
    tracker.after (List.replicate (times + 1) (.tell message)) = (tracker.update message).1 ∧
      tracker.effects (List.replicate (times + 1) (.tell message)) =
        (tracker.update message).2 ++
          (List.replicate times (uncancelled (tracker.update message).2)).flatten := by
  have settled : ∀ times, (tracker.update message).1.after (List.replicate times (.tell message)) =
        (tracker.update message).1 ∧
      (tracker.update message).1.effects (List.replicate times (.tell message)) =
        (List.replicate times (uncancelled (tracker.update message).2)).flatten := by
    intro times
    induction times with
    | zero => exact ⟨rfl, rfl⟩
    | succ times ih =>
      have next : (tracker.update message).1.act (.tell message) = (tracker.update message).1 :=
        settles.state
      rw [List.replicate_succ, List.replicate_succ, List.flatten_cons]
      constructor
      · calc (tracker.update message).1.after (.tell message :: List.replicate times (.tell message))
          _ = ((tracker.update message).1.act (.tell message)).after
                (List.replicate times (.tell message)) := rfl
          _ = (tracker.update message).1 := by rw [next, ih.1]
      · rw [Tracker.effects, next, ih.2]
        exact congrArg (· ++ _) settles.effects
  exact ⟨(settled times).1, congrArg _ (settled times).2⟩

private theorem leave_leave (tracker : Tracker) :
    tracker.releaseTicket.leave.releaseTicket.leave = tracker.releaseTicket.leave := by
  by_cases polling : tracker.poll = .polling <;> simp [leave, releaseTicket, polling]

private theorem enterComposing_enterComposing (tracker : Tracker) (rawQuery : Option String) :
    ((tracker.withQuery rawQuery).releaseTicket.enterComposing.withQuery
        rawQuery).releaseTicket.enterComposing =
      (tracker.withQuery rawQuery).releaseTicket.enterComposing := by
  cases rawQuery <;> rfl

/-- Choosing the composer, leaving the page and opening it settle every tracker: the second time
changes nothing, and cancels no timer. -/
theorem letting_go_settles (tracker : Tracker) (rawQuery : Option String) (route : Route) :
    tracker.Settles (.jobChosen none rawQuery) ∧ tracker.Settles .unmounted ∧
      tracker.Settles (.mounted route) := by
  refine ⟨?_, ?_, ?_⟩
  · refine settles_of_reset
      (fun tracker => (tracker.withQuery rawQuery).releaseTicket.enterComposing)
      [.navigate .compose] [] (fun tracker => ?_) (fun _ => rfl)
      (fun tracker => tracker.enterComposing_enterComposing rawQuery) (by simp) (by simp) tracker
    simp [update, chooseJob]
  · refine settles_of_reset (fun tracker => tracker.releaseTicket.leave) [] []
      (fun tracker => ?_) (fun _ => rfl) leave_leave (by simp) (by simp) tracker
    simp [update, onUnmounted]
  · refine settles_of_reset (fun tracker => tracker.mount route.hash?) []
      (.ask .datasets :: route.hash?.toList.map fun hash => .ask (.jobQuery hash))
      (fun _ => rfl) (fun _ => rfl) (fun _ => rfl) (by simp) ?_ tracker
    cases route <;> simp [Route.hash?]

end ScanWatch.Tracker
