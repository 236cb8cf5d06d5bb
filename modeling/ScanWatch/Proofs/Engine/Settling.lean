import ScanWatch.Proofs.Engine.Activity

namespace ScanWatch

namespace Command

/-- The timers that may still fire once a command is served. -/
def leaves (live : List Timer) : Command → List Timer
  | .ask _ => live
  | .schedulePoll ticket delay => [⟨ticket, delay, .live⟩]
  | .cancelPoll => []

variable {commands : List Command}

private theorem leaves_subset {few many : List Timer} (subset : few ⊆ many)
    (commands : List Command) :
    commands.foldl leaves few ⊆ commands.foldl leaves many := by
  induction commands generalizing few many with
  | nil => exact subset
  | cons command rest ih =>
    cases command with
    | ask request => exact ih subset
    | schedulePoll | cancelPoll => exact List.Subset.refl _

theorem leaves_of_quiet (quiet : ∀ command ∈ commands, command.isTiming = false)
    (live : List Timer) : commands.foldl leaves live = live := by
  induction commands generalizing live with
  | nil => rfl
  | cons command rest ih =>
    have later := ih fun other member => quiet other (List.mem_cons_of_mem _ member)
    cases command with
    | ask request => exact later live
    | schedulePoll | cancelPoll => cases quiet _ (List.mem_cons_self ..)

/-- Nothing may fire any more after a cancellation, if no timer is started. -/
theorem leaves_nothing (unscheduled : ∀ command ∈ commands, command.ticket? = none ∨
    command.isTiming = false) {live : List Timer} (ended : .cancelPoll ∈ commands ∨ live = []) :
    commands.foldl leaves live = [] := by
  induction commands generalizing live with
  | nil => exact ended.resolve_left List.not_mem_nil
  | cons command rest ih =>
    have later := @ih fun other member => unscheduled other (List.mem_cons_of_mem _ member)
    cases command with
    | ask request => exact later (ended.imp_left fun member => by simpa using member)
    | schedulePoll ticket delay =>
      rcases unscheduled _ (List.mem_cons_self ..) with free | quiet
      · cases free
      · cases quiet
    | cancelPoll => exact later (.inr rfl)

private theorem leaves_countP_le (ticket : PollTicket) (commands : List Command)
    (live : List Timer) :
    (commands.foldl leaves live).countP (fun timer => timer.ticket == ticket) ≤
      live.countP (fun timer => timer.ticket == ticket) +
        commands.countP (Command.schedules ticket) := by
  induction commands generalizing live with
  | nil => exact Nat.le_refl _
  | cons command rest ih =>
    have later := ih (leaves live command)
    rw [List.foldl_cons, List.countP_cons]
    cases command with
    | ask request =>
      simp only [leaves, schedules] at later ⊢
      omega
    | schedulePoll set delay =>
      simp only [leaves, schedules, List.countP_singleton, beq_iff_eq] at later ⊢
      omega
    | cancelPoll =>
      simp only [leaves, schedules, List.countP_nil] at later ⊢
      omega

end Command

namespace Engine

/-- The timers that may still fire once all commands are served. -/
def lasting (engine : Engine) : List Timer :=
  engine.commands.foldl Command.leaves engine.timers.live

variable {engine : Engine}

theorem lasting_of_load {ticket : PollTicket} (idle : engine.load ticket = 0) :
    ∀ timer ∈ engine.lasting, timer.ticket ≠ ticket := by
  intro timer member own
  have scheduling := engine.amount_le_load ticket .scheduling
  have waiting := engine.amount_le_load ticket .waiting
  have bound := Command.leaves_countP_le ticket engine.commands engine.timers.live
  have positive : 0 < engine.lasting.countP fun timer => timer.ticket == ticket :=
    List.countP_pos_iff.mpr ⟨timer, member, by simpa using own⟩
  simp only [amount, Timers.waiting, lasting] at scheduling waiting positive
  omega

theorem lasting_issue (engine : Engine) (commands : List Command) :
    (engine.issue commands).lasting = commands.foldl Command.leaves engine.lasting :=
  List.foldl_append

/-- Serving a command changes nothing about what will be left. -/
theorem serve_lasting (single : engine.timers.Single) :
    engine.serve.timers.Single ∧ engine.serve.lasting = engine.lasting := by
  unfold serve
  split
  · exact ⟨single, rfl⟩
  · next queued => exact ⟨single, by simp [lasting, queued, Command.leaves]⟩
  · next ticket delay rest queued =>
    exact ⟨single.schedule ticket delay,
      by simp [lasting, queued, Command.leaves, single.live_schedule]⟩
  · next rest queued =>
    exact ⟨Timers.single_of_live_nil single.live_cancel,
      by simp [lasting, queued, Command.leaves, single.live_cancel]⟩

/-- After a timer has fired no other will be left than would have been. -/
theorem expire_lasting (single : engine.timers.Single) (index : Nat) :
    (engine.expire index).timers.Single ∧ (engine.expire index).lasting ⊆ engine.lasting := by
  unfold expire
  split
  · next fired timers fires =>
    have none := single.live_fire fires
    refine ⟨Timers.single_of_live_nil none, Command.leaves_subset ?_ _⟩
    change timers.live ⊆ engine.timers.live
    rw [none]
    exact List.nil_subset _
  · exact ⟨single, List.Subset.refl _⟩

theorem deliver_lasting {event : Event} {rest : Engine}
    (delivered : engine.deliver? = some (event, rest)) :
    rest.timers = engine.timers ∧ rest.lasting = engine.lasting := by
  obtain ⟨events, _, rfl⟩ := deliver?_eq_some delivered
  exact ⟨rfl, rfl⟩

private theorem serve_commands (engine : Engine) :
    engine.serve.commands = engine.commands.tail := by
  unfold serve
  split <;> simp [*]

theorem serveAll_commands (engine : Engine) : engine.serveAll.commands = [] := by
  have served : ∀ (turns : List Command) (engine : Engine),
      (turns.foldl (fun engine _ => engine.serve) engine).commands =
        engine.commands.drop turns.length := by
    intro turns
    induction turns with
    | nil => exact fun engine => rfl
    | cons turn rest ih =>
      intro engine
      rw [List.foldl_cons, ih, serve_commands, List.drop_tail]
      rfl
  rw [serveAll, served, List.drop_length]

theorem live_serveAll (single : engine.timers.Single) :
    engine.serveAll.timers.live = engine.lasting := by
  have kept : ∀ other : Engine, other.timers.Single ∧ other.lasting = engine.lasting →
      other.serve.timers.Single ∧ other.serve.lasting = engine.lasting :=
    fun other ⟨single, same⟩ => (serve_lasting single).imp_right (·.trans same)
  obtain ⟨_, lasting⟩ := serveAll_keeps _ kept ⟨single, rfl⟩
  rw [← lasting, Engine.lasting, serveAll_commands]
  rfl

end Engine

end ScanWatch
