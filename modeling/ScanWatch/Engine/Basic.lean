import ScanWatch.Engine.Event
import ScanWatch.Engine.Timers

/-! The engine serves commands in the order of their issue. Requests run side by side and are
answered in any order; timers are set and cancelled as the commands come. -/

namespace ScanWatch

inductive Command where
  | ask (request : Request)
  | schedulePoll (ticket : PollTicket) (delay : UInt64)
  | cancelPoll
deriving DecidableEq, Repr

/-- The command that an effect gives to the engine; navigation is none of its business. -/
def Effect.command? : Effect → Option Command
  | .navigate _ => none
  | .ask request => some (.ask request)
  | .schedulePoll ticket delay => some (.schedulePoll ticket delay)
  | .cancelPoll => some .cancelPoll

/-- Commands not yet served, requests not yet answered, timers, and events not yet delivered. -/
structure Engine where
  commands : List Command
  running : List Request
  timers : Timers
  events : List Event

namespace Engine

def idle : Engine :=
  ⟨[], [], .empty, []⟩

instance : Inhabited Engine := ⟨idle⟩

def issue (engine : Engine) (commands : List Command) : Engine :=
  { engine with commands := engine.commands ++ commands }

/-- Serves the command issued first. -/
def serve (engine : Engine) : Engine :=
  match engine.commands with
  | [] => engine
  | .ask request :: rest =>
    { engine with commands := rest, running := engine.running ++ [request] }
  | .schedulePoll ticket delay :: rest =>
    { engine with commands := rest, timers := engine.timers.schedule ticket delay }
  | .cancelPoll :: rest => { engine with commands := rest, timers := engine.timers.cancel }

def serveAll (engine : Engine) : Engine :=
  engine.commands.foldl (fun engine _ => engine.serve) engine

def complete (engine : Engine) (request : Request) (result : Except Failure request.Answer) :
    Engine :=
  { engine with
    running := engine.running.erase request
    events := engine.events ++ [request.event result] }

/-- Lets a live timer fire. -/
def expire (engine : Engine) (index : Nat) : Engine :=
  match engine.timers.fire? index with
  | some (ticket, timers) =>
    { engine with timers, events := engine.events ++ [.pollDue ticket] }
  | none => engine

def deliver? (engine : Engine) : Option (Event × Engine) :=
  match engine.events with
  | [] => none
  | event :: rest => some (event, { engine with events := rest })

theorem deliver?_eq_some {engine rest : Engine} {event : Event}
    (delivered : engine.deliver? = some (event, rest)) :
    ∃ events, engine.events = event :: events ∧ rest = { engine with events } := by
  unfold deliver? at delivered
  split at delivered
  · cases delivered
  · next queued =>
    obtain ⟨rfl, rfl⟩ := Prod.mk.inj (Option.some.inj delivered)
    exact ⟨_, queued, rfl⟩

theorem serveAll_keeps (property : Engine → Prop)
    (kept : ∀ engine, property engine → property engine.serve) {engine : Engine}
    (holds : property engine) : property engine.serveAll := by
  have each : ∀ (commands : List Command) (engine : Engine), property engine →
      property (commands.foldl (fun engine _ => engine.serve) engine) := by
    intro commands
    induction commands with
    | nil => exact fun _ holds => holds
    | cons first rest ih => exact fun engine holds => ih engine.serve (kept engine holds)
  exact each engine.commands engine holds

/-- One step of the engine by itself: it serves a command, or a request is answered, or a timer
fires. -/
inductive Step : Engine → Engine → Prop
  | serve {engine : Engine} (pending : engine.commands ≠ []) : Step engine engine.serve
  | complete {engine : Engine} {request : Request} (running : request ∈ engine.running)
      (result : Except Failure request.Answer) : Step engine (engine.complete request result)
  | expire {engine : Engine} {index : Nat} {timer : Timer}
      (found : engine.timers.started[index]? = some timer) (live : timer.phase = .live) :
      Step engine (engine.expire index)

end Engine

end ScanWatch
