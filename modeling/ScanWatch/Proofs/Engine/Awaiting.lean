import ScanWatch.Engine.Basic

namespace ScanWatch

namespace Engine

/-- A request is to be made or runs, or its answer is to be delivered. -/
def Awaits (engine : Engine) (request : Request) : Prop :=
  .ask request ∈ engine.commands ∨ request ∈ engine.running ∨
    ∃ result, request.event result ∈ engine.events

/-- The engine deals with nothing but certain requests, and with timers. -/
structure Within (engine : Engine) (allowed : Request → Prop) : Prop where
  commands : ∀ request, .ask request ∈ engine.commands → allowed request
  running : ∀ request ∈ engine.running, allowed request
  events : ∀ event ∈ engine.events,
    (∃ ticket, event = .pollDue ticket) ∨ ∃ request result, allowed request ∧
      event = request.event result

variable {engine rest : Engine} {request : Request} {event : Event} {allowed : Request → Prop}

private theorem Awaits.serve (awaited : engine.Awaits request) : engine.serve.Awaits request := by
  unfold Engine.serve
  split
  · exact awaited
  · next first rest queued =>
    rcases awaited with asked | running | answered
    · rw [queued] at asked
      rcases List.mem_cons.mp asked with same | later
      · cases same
        exact .inr (.inl (List.mem_append_right _ (List.mem_singleton_self _)))
      · exact .inl later
    · exact .inr (.inl (List.mem_append_left _ running))
    · exact .inr (.inr answered)
  all_goals
    next queued =>
    refine awaited.imp_left fun asked => ?_
    rw [queued] at asked
    exact (List.mem_cons.mp asked).resolve_left nofun

private theorem Awaits.complete (awaited : engine.Awaits request) (other : Request)
    (result : Except Failure other.Answer) : (engine.complete other result).Awaits request := by
  rcases awaited with asked | running | ⟨answer, queued⟩
  · exact .inl asked
  · by_cases same : request = other
    · subst same
      exact .inr (.inr ⟨result, List.mem_append_right _ (List.mem_singleton_self _)⟩)
    · exact .inr (.inl ((List.mem_erase_of_ne same).mpr running))
  · exact .inr (.inr ⟨answer, List.mem_append_left _ queued⟩)

private theorem Awaits.expire (awaited : engine.Awaits request) (index : Nat) :
    (engine.expire index).Awaits request := by
  unfold Engine.expire
  split
  · rcases awaited with asked | running | ⟨answer, queued⟩
    · exact .inl asked
    · exact .inr (.inl running)
    · exact .inr (.inr ⟨answer, List.mem_append_left _ queued⟩)
  · exact awaited

theorem Awaits.step (awaited : engine.Awaits request) (moves : engine.Step rest) :
    rest.Awaits request := by
  cases moves with
  | serve pending => exact awaited.serve
  | complete running result => exact awaited.complete _ result
  | expire found live => exact awaited.expire _

theorem Awaits.issue (awaited : engine.Awaits request) (commands : List Command) :
    (engine.issue commands).Awaits request :=
  awaited.imp_left (List.mem_append_left _)

theorem awaits_of_asked {commands : List Command} (asked : .ask request ∈ commands) :
    (engine.issue commands).Awaits request :=
  .inl (List.mem_append_right _ asked)

theorem Awaits.deliver (awaited : engine.Awaits request)
    (delivered : engine.deliver? = some (event, rest)) :
    (∃ result, event = request.event result) ∨ rest.Awaits request := by
  obtain ⟨events, queued, rfl⟩ := deliver?_eq_some delivered
  rcases awaited with asked | running | ⟨answer, present⟩
  · exact .inr (.inl asked)
  · exact .inr (.inr (.inl running))
  · rw [queued] at present
    rcases List.mem_cons.mp present with same | later
    · exact .inl ⟨answer, same.symm⟩
    · exact .inr (.inr (.inr ⟨answer, later⟩))

private theorem Within.serve (within : engine.Within allowed) : engine.serve.Within allowed := by
  unfold Engine.serve
  split
  · exact within
  · next first rest queued =>
    have known : ∀ request, .ask request ∈ Command.ask first :: rest → allowed request :=
      queued ▸ within.commands
    refine ⟨fun request asked => known request (List.mem_cons_of_mem _ asked),
      fun request member => ?_, within.events⟩
    rcases List.mem_append.mp member with old | new
    · exact within.running request old
    · rw [List.mem_singleton.mp new]
      exact known first (List.mem_cons_self ..)
  all_goals
    next queued =>
    refine ⟨fun request asked => within.commands request ?_, within.running, within.events⟩
    rw [queued]
    exact List.mem_cons_of_mem _ asked

private theorem Within.complete (within : engine.Within allowed)
    (running : request ∈ engine.running) (result : Except Failure request.Answer) :
    (engine.complete request result).Within allowed := by
  refine ⟨within.commands, fun other member => within.running other (List.mem_of_mem_erase member),
    fun event member => ?_⟩
  rcases List.mem_append.mp member with old | new
  · exact within.events event old
  · exact .inr ⟨request, result, within.running request running, List.mem_singleton.mp new⟩

private theorem Within.expire (within : engine.Within allowed) (index : Nat) :
    (engine.expire index).Within allowed := by
  unfold Engine.expire
  split
  · refine ⟨within.commands, within.running, fun event member => ?_⟩
    rcases List.mem_append.mp member with old | new
    · exact within.events event old
    · exact .inl ⟨_, List.mem_singleton.mp new⟩
  · exact within

theorem Within.step (within : engine.Within allowed) (moves : engine.Step rest) :
    rest.Within allowed := by
  cases moves with
  | serve pending => exact within.serve
  | complete running result => exact within.complete running result
  | expire found live => exact within.expire _

theorem Within.issue (within : engine.Within allowed) {commands : List Command}
    (asked : ∀ request, .ask request ∈ commands → allowed request) :
    (engine.issue commands).Within allowed where
  commands request member := (List.mem_append.mp member).elim (within.commands request)
    (asked request)
  running := within.running
  events := within.events

theorem Within.deliver (within : engine.Within allowed)
    (delivered : engine.deliver? = some (event, rest)) :
    rest.Within allowed ∧ ((∃ ticket, event = .pollDue ticket) ∨
      ∃ request result, allowed request ∧ event = request.event result) := by
  obtain ⟨events, queued, rfl⟩ := deliver?_eq_some delivered
  have known := within.events
  rw [queued] at known
  exact ⟨⟨within.commands, within.running, fun other member =>
    known other (List.mem_cons_of_mem _ member)⟩, known event (List.mem_cons_self ..)⟩

theorem within_idle (allowed : Request → Prop) : Engine.idle.Within allowed :=
  ⟨fun _ member => (List.not_mem_nil member).elim, fun _ member => (List.not_mem_nil member).elim,
    fun _ member => (List.not_mem_nil member).elim⟩

end Engine

end ScanWatch
