import Mathlib.Data.Bool.Basic
import ScanWatch.Proofs.System.Pace
import ScanWatch.Proofs.Tracker.Report

/-! How many polling loops a run opens. Without a user who chooses jobs, each is opened by the
answer to a request of its own, so the requests and answers on their way are counted. -/

namespace ScanWatch

/-- Whether an answer to a request may open a polling loop. -/
def Request.mayOpen : Request → Bool
  | .jobQuery _ | .submit _ _ => true
  | .datasets | .page _ _ _ | .compile _ _ | .backendStatus => false

def Command.mayOpen : Command → Bool
  | .ask request => request.mayOpen
  | .schedulePoll _ _ | .cancelPoll => false

def Event.mayOpen : Event → Bool
  | .jobQueryLoaded _ _ | .querySubmitted _ _ => true
  | .datasetsLoaded _ | .matchesLoaded _ _ | .pollDue _ | .queryCompiled _ _
  | .backendStatusLoaded _ => false

theorem Request.mayOpen_event (request : Request) (result : Except Failure request.Answer) :
    (request.event result).mayOpen = request.mayOpen := by
  cases request <;> rfl

namespace Engine

/-- How many polling loops the engine may still cause to be opened. -/
def openings (engine : Engine) : Nat :=
  engine.commands.countP Command.mayOpen + engine.running.countP Request.mayOpen +
    engine.events.countP Event.mayOpen

variable {engine rest : Engine} {event : Event}

private theorem openings_serve (engine : Engine) : engine.serve.openings = engine.openings := by
  unfold serve
  split
  · rfl
  · next request rest queued =>
    cases opens : request.mayOpen with
    | false => simp [openings, queued, Command.mayOpen, opens]
    | true =>
      simp only [openings, queued, List.countP_cons, List.countP_append, List.countP_nil,
        Command.mayOpen, opens, ↓reduceIte]
      omega
  all_goals
    next queued =>
    simp [openings, queued, Command.mayOpen]

private theorem openings_complete {request : Request} (running : request ∈ engine.running)
    (result : Except Failure request.Answer) :
    (engine.complete request result).openings = engine.openings := by
  have split := (List.perm_cons_erase running).countP_eq Request.mayOpen
  rw [List.countP_cons] at split
  simp only [openings, complete, List.countP_append, List.countP_singleton,
    Request.mayOpen_event]
  omega

private theorem openings_expire (engine : Engine) (index : Nat) :
    (engine.expire index).openings = engine.openings := by
  unfold expire
  split
  · simp [openings, Event.mayOpen]
  · rfl

theorem openings_step (moves : engine.Step rest) : rest.openings = engine.openings := by
  cases moves with
  | serve pending => exact openings_serve engine
  | complete running result => exact openings_complete running result
  | expire found live => exact openings_expire engine _

theorem openings_issue (engine : Engine) (commands : List Command) :
    (engine.issue commands).openings = engine.openings + commands.countP Command.mayOpen := by
  simp only [openings, issue, List.countP_append]
  omega

theorem openings_deliver (delivered : engine.deliver? = some (event, rest)) :
    engine.openings = rest.openings + event.mayOpen.toNat := by
  obtain ⟨events, queued, rfl⟩ := deliver?_eq_some delivered
  have counted : (if event.mayOpen = true then 1 else 0) = event.mayOpen.toNat := by
    cases event.mayOpen <;> rfl
  simp only [openings, queued, List.countP_cons, counted]
  omega

end Engine

private theorem Event.mayOpen_of_opening {event : Event} {tracker : Tracker}
    (opens : (tracker.opening? event.message).isSome) : event.mayOpen = true := by
  unfold message at opens
  split at opens <;> first | rfl | cases opens

private theorem Tracker.ReportStep.unopened {tracker next : Tracker} {message : Message}
    {effects : List Effect} (step : tracker.ReportStep message next effects) :
    (effects.filterMap Effect.command?).countP Command.mayOpen = 0 := by
  rw [List.countP_eq_zero]
  intro command member
  cases command with
  | ask request =>
    obtain ⟨ticket, offset, limit, rfl⟩ := step.asks request (Effect.mem_asked.mp member)
    exact Bool.false_ne_true
  | schedulePoll | cancelPoll => exact Bool.false_ne_true

namespace System

variable {settings : PollSettings} {system : System} {engine : Engine}

theorem openings_tell (system : System) (event : Event) :
    (system.tell event.message).engine.openings = system.engine.openings := by
  have step := system.session.tracker.update_report event.message_isReport
  exact (Engine.openings_issue ..).trans (congrArg _ step.unopened)

/-- A run that opens one polling loop at most, the one included that the engine may still cause. -/
def Frugal (settings : PollSettings) (system : System) : Prop :=
  ∃ history, Reaches settings history system ∧
    (Tracker.withSettings settings).opened history + system.engine.openings ≤ 1

namespace Frugal

theorem work (frugal : system.Frugal settings) (moves : system.engine.Step engine) :
    Frugal settings { system with engine } := by
  obtain ⟨history, reached, few⟩ := frugal
  refine ⟨_, reached.move (.work moves), ?_⟩
  rw [List.append_nil, Engine.openings_step moves]
  exact few

theorem receive (frugal : system.Frugal settings) {event : Event}
    (delivered : system.engine.deliver? = some (event, engine)) :
    Frugal settings ({ system with engine }.tell event.message) := by
  obtain ⟨history, reached, few⟩ := frugal
  refine ⟨_, reached.move (.receive delivered), ?_⟩
  have told := openings_tell { system with engine } event
  have opens : ((system.session.tracker.opening? event.message).isSome).toNat ≤
      event.mayOpen.toNat :=
    Bool.toNat_le_toNat Event.mayOpen_of_opening
  rw [Engine.openings_deliver delivered] at few
  rw [Tracker.opened_append, ← reached.tracker, told]
  simp only [Tracker.opened, Tracker.opens, Bool.toNat_false]
  omega

/-- At most one answer is still to come that may open a loop. -/
theorem openings_le (frugal : system.Frugal settings) : system.engine.openings ≤ 1 := by
  obtain ⟨history, reached, few⟩ := frugal
  omega

theorem paced (frugal : system.Frugal settings) : Paced system.session.tracker system.engine := by
  obtain ⟨history, reached, few⟩ := frugal
  refine reached.paced ?_
  have large : 1 < UInt64.size := by decide
  omega

theorem coherent (frugal : system.Frugal settings) : system.session.tracker.Coherent := by
  obtain ⟨history, reached, few⟩ := frugal
  exact reached.coherent

end Frugal

end System

end ScanWatch
