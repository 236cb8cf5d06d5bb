import ScanWatch.Engine.Timers

namespace ScanWatch.Timers

inductive Act where
  | schedule (ticket : PollTicket) (delay : UInt64)
  | cancel
  | fire (index : Nat)
deriving DecidableEq

namespace Act

/-- Whether an act was ordered; a timer fires by itself. -/
def isOrder : Act → Bool
  | schedule _ _ | cancel => true
  | fire _ => false

def ticket? : Act → Option PollTicket
  | schedule ticket _ => some ticket
  | cancel | fire _ => none

end Act

def act (timers : Timers) : Act → Timers
  | .schedule ticket delay => timers.schedule ticket delay
  | .cancel => timers.cancel
  | .fire index => ((timers.fire? index).map Prod.snd).getD timers

def after (timers : Timers) (acts : List Act) : Timers :=
  acts.foldl act timers

def tickets (timers : Timers) : List PollTicket :=
  timers.started.map Timer.ticket

/-- The loops whose timers have fired, in the order of their start. -/
def fired (timers : Timers) : List PollTicket :=
  (timers.started.filter fun timer => timer.phase = .fired).map Timer.ticket

theorem after_append (timers : Timers) (first last : List Act) :
    timers.after (first ++ last) = (timers.after first).after last :=
  List.foldl_append

/-- A timer fires for the loop that it was started for, and only once. -/
theorem fired_sublist (timers : Timers) : timers.fired.Sublist timers.tickets :=
  List.filter_sublist.map _

private theorem started_cancel (timers : Timers) :
    timers.cancel.started = timers.started ∨
      ∃ before timer later, timers.started = before ++ timer :: later ∧
        timers.cancel.started = before ++ ended timer :: later := by
  unfold cancel
  split
  · exact .inl rfl
  · next index _ =>
    by_cases inside : index < timers.started.length
    · obtain ⟨before, timer, later, same, _, changed⟩ := List.exists_of_modify ended inside
      exact .inr ⟨before, timer, later, same, changed⟩
    · exact .inl (List.modify_eq_self (Nat.not_lt.mp inside))

private theorem started_fire {timers next : Timers} {index : Nat} {ticket : PollTicket}
    (fires : timers.fire? index = some (ticket, next)) :
    ∃ before timer later, timers.started = before ++ timer :: later ∧ timer.phase = .live ∧
      timer.ticket = ticket ∧
        next.started = before ++ { timer with phase := .fired } :: later := by
  unfold fire? at fires
  split at fires
  · next timer found =>
    split at fires
    · next live =>
      obtain ⟨rfl, rfl⟩ := Prod.mk.inj (Option.some.inj fires)
      obtain ⟨inside, rfl⟩ := List.getElem?_eq_some_iff.mp found
      refine ⟨timers.started.take index, timers.started[index], timers.started.drop (index + 1),
        ?_, live, rfl, ?_⟩
      · rw [List.getElem_cons_drop, List.take_append_drop]
      · exact List.set_eq_take_append_cons_drop.trans (if_pos inside)
    · cases fires
  · cases fires

private theorem ended_ticket (timer : Timer) : (ended timer).ticket = timer.ticket := by
  unfold ended
  split <;> rfl

private theorem ended_fired (timer : Timer) :
    (ended timer).phase = .fired ↔ timer.phase = .fired := by
  unfold ended
  split
  · next live => simp [live]
  · rfl

theorem tickets_cancel (timers : Timers) : timers.cancel.tickets = timers.tickets := by
  unfold tickets
  rcases timers.started_cancel with same | ⟨before, timer, later, same, changed⟩
  · rw [same]
  · simp [same, changed, ended_ticket]

theorem fired_cancel (timers : Timers) : timers.cancel.fired = timers.fired := by
  unfold fired
  rcases timers.started_cancel with same | ⟨before, timer, later, same, changed⟩
  · rw [same]
  · simp only [same, changed, List.filter_append, List.filter_cons, ended_fired]
    split <;> simp [ended_ticket]

private theorem tickets_schedule (timers : Timers) (ticket : PollTicket) (delay : UInt64) :
    (timers.schedule ticket delay).tickets = timers.tickets ++ [ticket] := by
  rw [← tickets_cancel timers]
  exact List.map_append

theorem fired_schedule (timers : Timers) (ticket : PollTicket) (delay : UInt64) :
    (timers.schedule ticket delay).fired = timers.fired := by
  rw [← fired_cancel timers]
  simp [fired, schedule]

private theorem tickets_fire {timers next : Timers} {index : Nat} {ticket : PollTicket}
    (fires : timers.fire? index = some (ticket, next)) : next.tickets = timers.tickets := by
  obtain ⟨before, timer, later, same, _, _, changed⟩ := started_fire fires
  simp [tickets, same, changed]

theorem fired_fire {timers next : Timers} {index : Nat} {ticket : PollTicket}
    (fires : timers.fire? index = some (ticket, next)) :
    next.fired.Perm (ticket :: timers.fired) := by
  obtain ⟨before, timer, later, same, live, rfl, changed⟩ := started_fire fires
  simp [fired, same, changed, live, List.perm_middle]

private theorem tickets_act (timers : Timers) (act : Act) :
    (timers.act act).tickets = timers.tickets ++ act.ticket?.toList := by
  cases act with
  | schedule ticket delay => exact timers.tickets_schedule ticket delay
  | cancel => exact timers.tickets_cancel.trans (List.append_nil _).symm
  | fire index =>
    refine Eq.trans ?_ (List.append_nil _).symm
    cases fires : timers.fire? index with
    | none => simp [Timers.act, fires]
    | some outcome => simpa [Timers.act, fires] using tickets_fire fires

/-- Timers are started as they are ordered. -/
theorem tickets_after (timers : Timers) (acts : List Act) :
    (timers.after acts).tickets = timers.tickets ++ acts.filterMap Act.ticket? := by
  induction acts generalizing timers with
  | nil => exact (List.append_nil _).symm
  | cons act rest ih =>
    refine (ih (timers.act act)).trans ?_
    rw [tickets_act, List.append_assoc]
    cases act <;> rfl

end ScanWatch.Timers
