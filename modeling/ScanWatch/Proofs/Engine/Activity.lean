import ScanWatch.Engine.Basic
import ScanWatch.Proofs.Engine.Waiting
import ScanWatch.Proofs.Tracker.Step

namespace ScanWatch

/-- What an engine may still have to do for a polling loop. -/
inductive Activity where
  /-- A page is to be asked for, or its answer is awaited. -/
  | asking
  /-- A page or a failure is to be delivered. -/
  | answering
  /-- A timer is to be set. -/
  | scheduling
  /-- A timer is running. -/
  | waiting
  /-- The end of the delay is to be delivered. -/
  | waking
deriving DecidableEq, Repr

def Event.ticket? : Event → Option PollTicket
  | .matchesLoaded ticket _ | .pollDue ticket => some ticket
  | _ => none

namespace Command

def ticket? : Command → Option PollTicket
  | .ask request => request.ticket?
  | .schedulePoll ticket _ => some ticket
  | .cancelPoll => none

def asks (ticket : PollTicket) : Command → Bool
  | .ask request => request.ticket? == some ticket
  | _ => false

def schedules (ticket : PollTicket) : Command → Bool
  | .schedulePoll other _ => other == ticket
  | _ => false

def isTiming : Command → Bool
  | .ask _ => false
  | .schedulePoll _ _ | .cancelPoll => true

/-- The commands for timers other than a loop's own stand before a page request of the loop. -/
def InTurn (ticket : PollTicket) : List Command → Prop
  | [] => True
  | command :: rest =>
    (command.isTiming = true →
      command.schedules ticket = true ∨ 0 < rest.countP (asks ticket)) ∧ InTurn ticket rest

end Command

namespace Event

def answers (ticket : PollTicket) : Event → Bool
  | .matchesLoaded other _ => other == ticket
  | _ => false

def wakes (ticket : PollTicket) : Event → Bool
  | .pollDue other => other == ticket
  | _ => false

end Event

namespace Engine

/-- How often an activity is outstanding for a polling loop. -/
def amount (engine : Engine) (ticket : PollTicket) : Activity → Nat
  | .asking =>
    engine.commands.countP (Command.asks ticket) +
      engine.running.countP fun request => request.ticket? == some ticket
  | .answering => engine.events.countP (Event.answers ticket)
  | .scheduling => engine.commands.countP (Command.schedules ticket)
  | .waiting => engine.timers.waiting ticket
  | .waking => engine.events.countP (Event.wakes ticket)

def load (engine : Engine) (ticket : PollTicket) : Nat :=
  engine.amount ticket .asking + engine.amount ticket .answering +
    engine.amount ticket .scheduling + engine.amount ticket .waiting + engine.amount ticket .waking

theorem amount_le_load (engine : Engine) (ticket : PollTicket) (activity : Activity) :
    engine.amount ticket activity ≤ engine.load ticket := by
  cases activity <;> unfold load <;> omega

private theorem amount_add_le_load (engine : Engine) (ticket : PollTicket) {first second : Activity}
    (different : first ≠ second) :
    engine.amount ticket first + engine.amount ticket second ≤ engine.load ticket := by
  unfold load
  cases first <;> cases second <;> simp only [ne_eq, not_true_eq_false] at different <;> omega

theorem single_of_load {engine : Engine} {ticket : PollTicket} (one : engine.load ticket = 1) :
    ∃ activity, engine.amount ticket activity = 1 ∧
      ∀ other, other ≠ activity → engine.amount ticket other = 0 := by
  have some_activity : ∃ activity, engine.amount ticket activity ≠ 0 := by
    apply Classical.byContradiction
    intro nothing
    have idle : ∀ activity, engine.amount ticket activity = 0 := by simpa using nothing
    simp [load, idle] at one
  obtain ⟨activity, busy⟩ := some_activity
  refine ⟨activity, ?_, fun other different => ?_⟩
  · have bound := engine.amount_le_load ticket activity
    omega
  · have bound := engine.amount_add_le_load ticket different
    omega

end Engine

theorem Effect.ticket_command {effect : Effect} {command : Command}
    (becomes : effect.command? = some command) : command.ticket? = effect.ticket? := by
  cases effect <;> cases becomes <;> rfl

theorem Effect.mem_asked {effects : List Effect} {request : Request} :
    .ask request ∈ effects.filterMap Effect.command? ↔ .ask request ∈ effects := by
  rw [List.mem_filterMap]
  constructor
  · rintro ⟨effect, member, becomes⟩
    cases effect <;> cases becomes
    exact member
  · exact fun member => ⟨_, member, rfl⟩

namespace Command

variable {ticket : PollTicket}

private theorem idle_of_other {command : Command} (other : command.ticket? ≠ some ticket) :
    command.asks ticket = false ∧ command.schedules ticket = false := by
  cases command with
  | ask request => exact ⟨by simpa [asks, ticket?] using other, rfl⟩
  | schedulePoll set delay => exact ⟨rfl, by simpa [schedules, ticket?] using other⟩
  | cancelPoll => exact ⟨rfl, rfl⟩

theorem InTurn.append {first last : List Command} (front : InTurn ticket first)
    (back : InTurn ticket last) : InTurn ticket (first ++ last) := by
  induction first with
  | nil => exact back
  | cons command rest ih =>
    rw [List.cons_append]
    refine ⟨fun timing => ?_, ih front.2⟩
    refine (front.1 timing).imp_right fun asked => ?_
    rw [List.countP_append]
    omega

theorem InTurn.of_quiet {commands : List Command}
    (quiet : ∀ command ∈ commands, command.isTiming = false) : InTurn ticket commands := by
  induction commands with
  | nil => trivial
  | cons command rest ih =>
    refine ⟨fun timing => ?_, ih fun other member => quiet other (List.mem_cons_of_mem _ member)⟩
    rw [quiet command (List.mem_cons_self ..)] at timing
    cases timing

theorem InTurn.of_asked (commands : List Command) {last : Command}
    (asked : last.asks ticket = true) : InTurn ticket (commands ++ [last]) := by
  induction commands with
  | nil =>
    refine ⟨fun timing => ?_, trivial⟩
    cases last with
    | ask request => cases timing
    | schedulePoll | cancelPoll => cases asked
  | cons command rest ih => exact ⟨fun _ => .inr (by simp [asked]), ih⟩

theorem InTurn.scheduled (ticket : PollTicket) (delay : UInt64) :
    InTurn ticket [.schedulePoll ticket delay] :=
  ⟨fun _ => .inl (beq_self_eq_true ticket), trivial⟩

end Command

namespace Engine

variable {engine : Engine} {ticket : PollTicket}

theorem load_idle (ticket : PollTicket) : Engine.idle.load ticket = 0 := rfl

theorem issue_append (engine : Engine) (first last : List Command) :
    engine.issue (first ++ last) = (engine.issue first).issue last := by
  simp [issue]

private theorem load_issue (engine : Engine) (commands : List Command) (ticket : PollTicket) :
    (engine.issue commands).load ticket = engine.load ticket +
      (commands.countP (Command.asks ticket) + commands.countP (Command.schedules ticket)) := by
  simp only [load, amount, issue, List.countP_append]
  omega

theorem load_issue_of_other {commands : List Command}
    (other : ∀ command ∈ commands, command.ticket? ≠ some ticket) :
    (engine.issue commands).load ticket = engine.load ticket := by
  have asks : commands.countP (Command.asks ticket) = 0 :=
    List.countP_eq_zero.mpr fun command member => by
      simp [(Command.idle_of_other (other command member)).1]
  have schedules : commands.countP (Command.schedules ticket) = 0 :=
    List.countP_eq_zero.mpr fun command member => by
      simp [(Command.idle_of_other (other command member)).2]
  rw [load_issue, asks, schedules]
  rfl

theorem load_issue_of_own {command : Command} (own : command.ticket? = some ticket) :
    (engine.issue [command]).load ticket = engine.load ticket + 1 := by
  rw [load_issue]
  cases command with
  | ask request =>
    simp only [Command.ticket?] at own
    simp [Command.asks, Command.schedules, own]
  | schedulePoll set delay =>
    simp only [Command.ticket?, Option.some.injEq] at own
    simp [Command.asks, Command.schedules, own]
  | cancelPoll => cases own

theorem load_complete {request : Request} (running : request ∈ engine.running)
    (result : Except Failure request.Answer) (ticket : PollTicket) :
    (engine.complete request result).load ticket = engine.load ticket := by
  have split := (List.perm_cons_erase running).countP_eq fun other => other.ticket? == some ticket
  have moved : Event.answers ticket (request.event result) =
      (request.ticket? == some ticket) := by
    cases request <;> simp [Request.event, Event.answers, Request.ticket?]
  have still : Event.wakes ticket (request.event result) = false := by
    cases request <;> rfl
  rw [List.countP_cons] at split
  simp only [load, amount, complete, List.countP_append, List.countP_singleton, moved, still,
    Bool.false_eq_true, ↓reduceIte]
  omega

theorem load_expire (engine : Engine) (index : Nat) (ticket : PollTicket) :
    (engine.expire index).load ticket = engine.load ticket := by
  unfold expire
  split
  · next fired timers fires =>
    have split := Timers.waiting_fire fires ticket
    simp only [load, amount, List.countP_append, List.countP_singleton, Event.answers,
      Event.wakes, beq_iff_eq, Bool.false_eq_true, ↓reduceIte]
    omega
  · rfl

theorem commands_expire (engine : Engine) (index : Nat) :
    (engine.expire index).commands = engine.commands := by
  unfold expire
  split <;> rfl

theorem load_deliver {event : Event} {rest : Engine}
    (delivered : engine.deliver? = some (event, rest)) (ticket : PollTicket) :
    engine.load ticket = rest.load ticket + if event.ticket? = some ticket then 1 else 0 := by
  obtain ⟨events, queued, rfl⟩ := deliver?_eq_some delivered
  simp only [load, amount, queued, List.countP_cons]
  cases event <;>
    simp only [Event.answers, Event.wakes, Event.ticket?, Option.some.injEq, beq_iff_eq,
      reduceCtorEq, Bool.false_eq_true, ↓reduceIte] <;>
    omega

private theorem load_begin {request : Request} {rest : List Command}
    (queued : engine.commands = .ask request :: rest) (ticket : PollTicket) :
    load { engine with commands := rest, running := engine.running ++ [request] } ticket =
      engine.load ticket := by
  by_cases asked : request.ticket? = some ticket
  · simp [load, amount, queued, Command.asks, Command.schedules, asked]
    omega
  · simp [load, amount, queued, Command.asks, Command.schedules, asked]

theorem load_serve_le (engine : Engine) (ticket : PollTicket) :
    engine.serve.load ticket ≤ engine.load ticket := by
  unfold serve
  split
  · exact Nat.le_refl _
  · next request rest queued => exact Nat.le_of_eq (load_begin queued ticket)
  · next set delay rest queued =>
    have fewer := engine.timers.waiting_cancel_le ticket
    simp only [load, amount, queued, List.countP_cons, Command.asks, Command.schedules,
      Timers.waiting_schedule, beq_iff_eq, Bool.false_eq_true, ↓reduceIte]
    omega
  · next rest queued =>
    have fewer := engine.timers.waiting_cancel_le ticket
    simp only [load, amount, queued, List.countP_cons, Command.asks, Command.schedules,
      Bool.false_eq_true, ↓reduceIte]
    omega

/-- While the commands are in turn, serving one neither loses nor doubles the one activity of a
loop. -/
theorem load_serve (one : engine.load ticket = 1)
    (inTurn : Command.InTurn ticket engine.commands) : engine.serve.load ticket = 1 := by
  unfold serve
  split
  · exact one
  · next request rest queued => exact (load_begin queued ticket).trans one
  · next set delay rest queued =>
    have fewer := engine.timers.waiting_cancel_le ticket
    rw [queued] at inTurn
    have turn := inTurn.1 rfl
    simp only [Command.schedules, beq_iff_eq] at turn
    simp only [load, amount, queued, List.countP_cons, Command.asks, Command.schedules,
      Timers.waiting_schedule, beq_iff_eq, Bool.false_eq_true, ↓reduceIte] at one ⊢
    by_cases own : set = ticket
    · simp only [own, ↓reduceIte] at one ⊢
      omega
    · simp only [own, false_or, ↓reduceIte] at turn one ⊢
      omega
  · next rest queued =>
    have fewer := engine.timers.waiting_cancel_le ticket
    rw [queued] at inTurn
    have turn := inTurn.1 rfl
    simp only [Command.schedules, Bool.false_eq_true, false_or] at turn
    simp only [load, amount, queued, List.countP_cons, Command.asks, Command.schedules,
      Bool.false_eq_true, ↓reduceIte] at one ⊢
    omega

private theorem unasked_of_load {offset limit : Nat} (idle : engine.load ticket = 0) :
    .ask (.page ticket offset limit) ∉ engine.commands ∧
      .page ticket offset limit ∉ engine.running := by
  have none := engine.amount_le_load ticket .asking
  simp only [idle, amount, Nat.le_zero, Nat.add_eq_zero_iff, List.countP_eq_zero] at none
  exact ⟨fun queued => none.1 _ queued (beq_self_eq_true _),
    fun running => none.2 _ running (beq_self_eq_true _)⟩

theorem unanswered_of_load {result : Except Failure MatchPage} (idle : engine.load ticket = 0) :
    .matchesLoaded ticket result ∉ engine.events := by
  have none := engine.amount_le_load ticket .answering
  simp only [idle, amount, Nat.le_zero, List.countP_eq_zero] at none
  exact fun queued => none _ queued (beq_self_eq_true _)

theorem asked_issue {effects : List Effect} {request : Request} :
    .ask request ∈ (engine.issue (effects.filterMap Effect.command?)).commands ↔
      .ask request ∈ engine.commands ∨ .ask request ∈ effects :=
  List.mem_append.trans (or_congr_right Effect.mem_asked)

/-- Whoever asks for a page of an idle loop was just told to. -/
theorem asked_of_idle {effects : List Effect} {offset limit : Nat}
    (idle : engine.load ticket = 0)
    (asked : .ask (.page ticket offset limit) ∈
        (engine.issue (effects.filterMap Effect.command?)).commands ∨
      .page ticket offset limit ∈ engine.running) :
    .ask (.page ticket offset limit) ∈ effects := by
  rcases asked with queued | running
  · exact (asked_issue.mp queued).resolve_left (unasked_of_load idle).1
  · exact absurd running (unasked_of_load idle).2

theorem asked_serve {offset limit : Nat}
    (asked : .ask (.page ticket offset limit) ∈ engine.serve.commands ∨
      .page ticket offset limit ∈ engine.serve.running) :
    .ask (.page ticket offset limit) ∈ engine.commands ∨
      .page ticket offset limit ∈ engine.running := by
  unfold serve at asked
  split at asked
  · exact asked
  · next request rest queued =>
    rw [queued]
    rcases asked with later | running
    · exact .inl (List.mem_cons_of_mem _ later)
    · rcases List.mem_append.mp running with old | new
      · exact .inr old
      · rw [List.mem_singleton.mp new]
        exact .inl (List.mem_cons_self ..)
  all_goals
    next queued =>
    rw [queued]
    exact asked.imp_left (List.mem_cons_of_mem _)

theorem events_serve (engine : Engine) : engine.serve.events = engine.events := by
  unfold serve
  split <;> rfl

theorem inTurn_serve (inTurn : Command.InTurn ticket engine.commands) :
    Command.InTurn ticket engine.serve.commands := by
  unfold serve
  split
  · exact inTurn
  all_goals
    next queued =>
    rw [queued] at inTurn
    exact inTurn.2

end Engine

end ScanWatch
