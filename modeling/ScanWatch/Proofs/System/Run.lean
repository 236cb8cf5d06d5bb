import Mathlib.Logic.Relation
import ScanWatch.Proofs.Engine.Ledger
import ScanWatch.Proofs.Tracker.Epoch
import ScanWatch.System

namespace ScanWatch

namespace System

/-- One step of the whole, with what it does to the tracker. -/
inductive Moves (may : Answering) : System → List Tracker.Act → System → Prop where
  | serve {system : System} (pending : system.engine.commands ≠ []) :
      Moves may system [] { system with engine := system.engine.serve }
  | complete {system : System} {request : Request} (running : request ∈ system.engine.running)
      (result : Except Failure request.Answer) (allowed : may request result) :
      Moves may system [] { system with engine := system.engine.complete request result }
  | expire {system : System} {index : Nat} {timer : Timer}
      (found : system.engine.timers.started[index]? = some timer) (live : timer.phase = .live) :
      Moves may system [] { system with engine := system.engine.expire index }
  | receive {system : System} {event : Event} {engine : Engine}
      (delivered : system.engine.deliver? = some (event, engine)) :
      Moves may system [.tell event.message, .look] ({ system with engine }.tell event.message)
  | tell {system : System} (message : Message) (free : message.isPolled = false) :
      Moves may system [.tell message, .look] (system.tell message)

/-- What may have become of a new system, with all that was done to its tracker. -/
inductive Reaches (settings : PollSettings) : List Tracker.Act → System → Prop where
  | new : Reaches settings [] (.new settings)
  | move {history acts : List Tracker.Act} {system next : System}
      (reached : Reaches settings history system) (moves : system.Moves .any acts next) :
      Reaches settings (history ++ acts) next

variable {may : Answering} {system next : System} {history acts : List Tracker.Act}

theorem Moves.work {engine : Engine} (moves : system.engine.Step engine) :
    system.Moves .any [] { system with engine } := by
  cases moves with
  | serve pending => exact .serve pending
  | complete running result => exact .complete running result trivial
  | expire found live => exact .expire found live

private theorem step_iff_moves : system.Step next ↔ ∃ acts, system.Moves .any acts next := by
  constructor
  · intro step
    cases step with
    | work moves => exact ⟨[], .work moves⟩
    | receive received =>
      obtain ⟨⟨event, engine⟩, delivered, rfl⟩ := Option.map_eq_some_iff.mp received
      exact ⟨_, .receive delivered⟩
    | tell message free => exact ⟨_, .tell message free⟩
  · rintro ⟨acts, moves⟩
    cases moves with
    | serve pending => exact .work (.serve pending)
    | complete running result allowed => exact .work (.complete running result)
    | expire found live => exact .work (.expire found live)
    | receive delivered => exact .receive (Option.map_eq_some_iff.mpr ⟨_, delivered, rfl⟩)
    | tell message free => exact .tell message free

theorem Moves.weaken {other : Answering} (moves : system.Moves may acts next)
    (wider : ∀ request result, may request result → other request result) :
    system.Moves other acts next := by
  cases moves with
  | serve pending => exact .serve pending
  | complete running result allowed => exact .complete running result (wider _ _ allowed)
  | expire found live => exact .expire found live
  | receive delivered => exact .receive delivered
  | tell message free => exact .tell message free

theorem Moves.tracker (moves : system.Moves may acts next) :
    next.session.tracker = system.session.tracker.after acts := by
  cases moves <;> rfl

/-- Runs end exactly where the steps of a new system lead. -/
theorem reaches_iff_steps {settings : PollSettings} :
    (∃ history, Reaches settings history system) ↔
      Relation.ReflTransGen Step (.new settings) system := by
  constructor
  · rintro ⟨history, reached⟩
    induction reached with
    | new => exact .refl
    | move reached moves ih => exact ih.tail (step_iff_moves.mpr ⟨_, moves⟩)
  · intro steps
    induction steps with
    | refl => exact ⟨[], .new⟩
    | tail _ step ih =>
      obtain ⟨history, reached⟩ := ih
      obtain ⟨acts, moves⟩ := step_iff_moves.mp step
      exact ⟨history ++ acts, .move reached moves⟩

theorem Reaches.tracker {settings : PollSettings} (reached : Reaches settings history system) :
    system.session.tracker = (Tracker.withSettings settings).after history := by
  induction reached with
  | new => rfl
  | move reached moves ih => rw [moves.tracker, ih, Tracker.after_append]

theorem Reaches.coherent {settings : PollSettings} (reached : Reaches settings history system) :
    system.session.tracker.Coherent := by
  rw [reached.tracker]
  exact (Tracker.Initial.withSettings settings).coherent.after history

theorem Reaches.positive {settings : PollSettings} (reached : Reaches settings history system) :
    1 ≤ system.session.tracker.settings.pageSize := by
  rw [reached.tracker, Tracker.settings_after]
  exact (Tracker.Initial.withSettings settings).pageSize

private theorem Moves.recorded {ledger : Ledger} (moves : system.Moves may acts next)
    (recorded : Engine.Recorded may ledger system.engine) :
    ∃ later : Ledger, Engine.Recorded may later next.engine ∧
      later.effects = ledger.effects ++ system.session.tracker.effects acts := by
  cases moves with
  | serve pending =>
    obtain ⟨command, rest, queued⟩ := List.exists_cons_of_ne_nil pending
    exact ⟨_, recorded.serve queued, (List.append_nil _).symm⟩
  | complete running result allowed =>
    exact ⟨_, recorded.complete running allowed, (List.append_nil _).symm⟩
  | expire found live => exact ⟨_, recorded.expire _, (List.append_nil _).symm⟩
  | @receive event engine delivered =>
    have told := (recorded.deliver delivered).enqueue
      (system.session.tracker.update event.message).2
    exact ⟨_, told, by rw [Tracker.effects_told]⟩
  | tell message free =>
    have told := recorded.enqueue (system.session.tracker.update message).2
    exact ⟨_, told, by rw [Tracker.effects_told]⟩

/-- Whatever happens in a run, the engine's books are kept of all effects. -/
theorem Reaches.recorded {settings : PollSettings} (reached : Reaches settings history system) :
    ∃ ledger : Ledger, Engine.Recorded .any ledger system.engine ∧
      ledger.effects = (Tracker.withSettings settings).effects history := by
  induction reached with
  | new => exact ⟨{}, .idle, rfl⟩
  | move reached moves ih =>
    obtain ⟨ledger, recorded, same⟩ := ih
    obtain ⟨later, kept, more⟩ := moves.recorded recorded
    exact ⟨later, kept, by rw [more, same, Tracker.effects_append, reached.tracker]⟩

end System

end ScanWatch
