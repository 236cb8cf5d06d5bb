import ScanWatch.Proofs.Engine.Activity
import ScanWatch.Proofs.Engine.Awaiting

namespace ScanWatch.Engine

variable {engine : Engine} {request : Request} {ticket : PollTicket} {activity : Activity}

/-- A request that runs may end at any time, with any answer, and its event is queued. -/
theorem exists_step_of_running (running : request ∈ engine.running)
    (result : Except Failure request.Answer) :
    ∃ next, engine.Step next ∧ next.events = engine.events ++ [request.event result] :=
  ⟨engine.complete request result, .complete running result, rfl⟩

/-- A live timer may fire at any time, and the end of its delay is queued. -/
theorem exists_step_of_live {timer : Timer} (member : timer ∈ engine.timers.live) :
    ∃ next, engine.Step next ∧ next.events = engine.events ++ [.pollDue timer.ticket] := by
  obtain ⟨index, found, live⟩ := Timers.mem_live.mp member
  refine ⟨engine.expire index, .expire found live, ?_⟩
  simp [expire, Timers.fire?, found, live]

/-- Something can be done at once: an event is there to be delivered, or a command to be served, or
some event can be brought about. -/
def Advances (engine : Engine) (expected : Event → Prop) : Prop :=
  (∃ event ∈ engine.events, expected event) ∨ engine.commands ≠ [] ∨
    ∃ next event, engine.Step next ∧ expected event ∧ next.events = engine.events ++ [event]

variable {expected : Event → Prop}

private theorem advances_of_command {command : Command} (queued : command ∈ engine.commands) :
    engine.Advances expected :=
  .inr (.inl (List.ne_nil_of_mem queued))

private theorem advances_of_running (running : request ∈ engine.running)
    (answers : ∀ result, expected (request.event result)) : engine.Advances expected := by
  have result : Except Failure request.Answer := .error ⟨.timeout, ""⟩
  obtain ⟨next, moves, events⟩ := exists_step_of_running running result
  exact .inr (.inr ⟨next, _, moves, answers result, events⟩)

theorem Awaits.advances (awaited : engine.Awaits request) :
    engine.Advances fun event => ∃ result, event = request.event result := by
  rcases awaited with asked | running | ⟨result, queued⟩
  · exact advances_of_command asked
  · exact advances_of_running running fun result => ⟨result, rfl⟩
  · exact .inl ⟨_, queued, result, rfl⟩

private theorem ticket?_event (loops : request.ticket? = some ticket)
    (result : Except Failure request.Answer) : (request.event result).ticket? = some ticket := by
  cases request with
  | page => exact loops
  | datasets | jobQuery | compile | submit | backendStatus => cases loops

/-- Whatever is outstanding for a polling loop, it lets the loop go on. -/
theorem advances_of_amount (outstanding : 0 < engine.amount ticket activity) :
    engine.Advances fun event => event.ticket? = some ticket := by
  cases activity with
  | asking =>
    rcases Nat.add_pos_iff_pos_or_pos.mp outstanding with commanded | running
    · obtain ⟨command, queued, _⟩ := List.countP_pos_iff.mp commanded
      exact advances_of_command queued
    · obtain ⟨request, running, own⟩ := List.countP_pos_iff.mp running
      exact advances_of_running running (ticket?_event (beq_iff_eq.mp own))
  | answering =>
    obtain ⟨event, queued, answers⟩ := List.countP_pos_iff.mp outstanding
    refine .inl ⟨event, queued, ?_⟩
    cases event with
    | matchesLoaded other result => exact congrArg some (beq_iff_eq.mp answers)
    | pollDue | datasetsLoaded | jobQueryLoaded | queryCompiled | querySubmitted
    | backendStatusLoaded => cases answers
  | scheduling =>
    obtain ⟨command, queued, _⟩ := List.countP_pos_iff.mp outstanding
    exact advances_of_command queued
  | waiting =>
    obtain ⟨timer, live, own⟩ := List.countP_pos_iff.mp outstanding
    obtain ⟨next, moves, events⟩ := exists_step_of_live live
    have own : timer.ticket = ticket := beq_iff_eq.mp own
    exact .inr (.inr ⟨next, .pollDue timer.ticket, moves, congrArg some own, events⟩)
  | waking =>
    obtain ⟨event, queued, wakes⟩ := List.countP_pos_iff.mp outstanding
    refine .inl ⟨event, queued, ?_⟩
    cases event with
    | pollDue other => exact congrArg some (beq_iff_eq.mp wakes)
    | matchesLoaded | datasetsLoaded | jobQueryLoaded | queryCompiled | querySubmitted
    | backendStatusLoaded => cases wakes

end ScanWatch.Engine
