import ScanWatch.Proofs.Engine.Settling
import ScanWatch.Proofs.System.Pace

namespace ScanWatch

namespace Tracker

variable {tracker : Tracker}

/-- A message that leaves a tracker without a polling loop: the page is left or opened, the composer
is returned to, or the current loop ends by itself. -/
inductive Ends (tracker : Tracker) : Message → Prop where
  | left : Ends tracker .unmounted
  | opened (route : Route) : Ends tracker (.mounted route)
  | composed (rawQuery : Option String) : Ends tracker (.jobChosen none rawQuery)
  | finished {ticket : PollTicket} {page : MatchPage} (current : tracker.ticket = some ticket)
      (terminal : page.job.status.isTerminal = true) (empty : page.items = []) :
      Ends tracker (.matchesLoaded ticket page)
  | stalled {ticket : PollTicket} (current : tracker.ticket = some ticket) (reason : String) :
      Ends tracker (.matchesFailed ticket reason)

private theorem Ends.ticket {message : Message} (ends : tracker.Ends message) :
    (tracker.update message).1.ticket = none ∧ tracker.opening? message = none := by
  cases ends with
  | left | opened | composed => exact ⟨rfl, rfl⟩
  | finished current terminal empty =>
    have stop : tracker.settings.nextStep _ _ = .stop :=
      (PollSettings.nextStep_eq_stop ..).mpr ⟨terminal, congrArg List.length empty⟩
    simp only [update, onMatchesLoaded, (isCurrent_iff ..).mpr current, stop, ↓reduceIte]
    exact ⟨rfl, rfl⟩
  | stalled current reason =>
    simp only [update, onMatchesFailed, (isCurrent_iff ..).mpr current, ↓reduceIte]
    exact ⟨rfl, rfl⟩

/-- A cancellation is ordered exactly when a loop is dropped by something else than its own end. -/
theorem LoopStep.cancels (coherent : tracker.Coherent) {message : Message}
    {next : Tracker} {effects : List Effect} (step : tracker.LoopStep message next effects) :
    .cancelPoll ∈ effects ↔ message.isPolled = false ∧
      ∃ ticket, tracker.ticket = some ticket ∧ next.ticket ≠ some ticket := by
  cases step with
  | kept stale unopened same quiet =>
    rw [same.ticket]
    constructor
    · exact fun cancels => absurd rfl (quiet _ cancels).2
    · rintro ⟨_, ticket, current, dropped⟩
      exact absurd current dropped
  | closed free unopened ticket lastEpoch settings ended quiet cancels =>
    simp [cancels, ticket, Message.isPolled_eq, free, Option.isSome_iff_exists]
  | opened hash free opening ticket =>
    have fresh : ∀ old, tracker.ticket = some old → tracker.nextTicket hash ≠ old := by
      rintro old current rfl
      have epoch : tracker.lastEpoch + 1 = tracker.lastEpoch := (coherent.current _ current).2
      simp at epoch
    cases held : tracker.ticket with
    | none => simp [cancellation, held, firstPage]
    | some old => simp [cancellation, held, ticket, Message.isPolled_eq, free, fresh old held]
  | asked current => simp [Message.isPolled]
  | continued current again => simp [Message.isPolled]
  | finished current terminal empty => simp [Message.isPolled]
  | stalled reason current => simp [Message.isPolled]

end Tracker

variable {tracker next : Tracker} {engine : Engine} {ticket : PollTicket}

/-- Of all timers only one of the current loop will be left. -/
structure Tied (tracker : Tracker) (engine : Engine) : Prop where
  single : engine.timers.Single
  own : ∀ timer ∈ engine.lasting, tracker.ticket = some timer.ticket

namespace Tied

private theorem new (settings : PollSettings) : Tied (.withSettings settings) .idle where
  single := Timers.single_empty
  own timer member := by cases member

private theorem nothing (tied : Tied tracker engine) (released : tracker.ticket = none) :
    engine.lasting = [] := by
  refine List.eq_nil_iff_forall_not_mem.mpr fun timer member => ?_
  have owned := tied.own timer member
  rw [released] at owned
  cases owned

private theorem serve (tied : Tied tracker engine) : Tied tracker engine.serve := by
  obtain ⟨single, same⟩ := Engine.serve_lasting tied.single
  refine ⟨single, fun timer member => tied.own timer ?_⟩
  rwa [← same]

private theorem complete (tied : Tied tracker engine) (request : Request)
    (result : Except Failure request.Answer) : Tied tracker (engine.complete request result) :=
  ⟨tied.single, tied.own⟩

private theorem expire (tied : Tied tracker engine) (index : Nat) :
    Tied tracker (engine.expire index) := by
  obtain ⟨single, subset⟩ := Engine.expire_lasting tied.single index
  exact ⟨single, fun timer member => tied.own timer (subset member)⟩

private theorem deliver (tied : Tied tracker engine) {event : Event} {rest : Engine}
    (delivered : engine.deliver? = some (event, rest)) : Tied tracker rest := by
  obtain ⟨timers, same⟩ := Engine.deliver_lasting delivered
  refine ⟨timers ▸ tied.single, fun timer member => tied.own timer ?_⟩
  rwa [← same]

variable {before : Engine} {message : Message} {effects : List Effect}

private theorem cancelled (tied : Tied tracker engine) {commands : List Command}
    (unscheduled : ∀ command ∈ commands, command.ticket? = none ∨ command.isTiming = false)
    (cancels : tracker.ticket.isSome → .cancelPoll ∈ commands) (next : Tracker) :
    Tied next (engine.issue commands) := by
  have none : (engine.issue commands).lasting = [] := by
    rw [Engine.lasting_issue]
    refine Command.leaves_nothing unscheduled ?_
    cases held : tracker.ticket with
    | none => exact .inr (tied.nothing held)
    | some ticket => exact .inl (cancels (by rw [held]; rfl))
  refine ⟨tied.single, fun timer member => ?_⟩
  rw [none] at member
  cases member

private theorem quiet (tied : Tied tracker engine) {commands : List Command}
    (quiet : ∀ command ∈ commands, command.isTiming = false) (same : next.ticket = tracker.ticket) :
    Tied next (engine.issue commands) := by
  refine ⟨tied.single, fun timer member => ?_⟩
  rw [Engine.lasting_issue, Command.leaves_of_quiet quiet] at member
  rw [same]
  exact tied.own timer member

/-- A loop that ends by itself has no timer: its one activity was the message that ended it. -/
theorem ended (tied : Tied tracker engine) (paced : Paced tracker before)
    (heard : before.Hands message engine) (current : tracker.ticket = some ticket)
    (speaks : message.ticket? = some ticket) (next : Tracker) : Tied next (engine.issue []) := by
  have idle := heard.spent speaks (paced.single ticket current)
  refine ⟨tied.single, fun timer member => ?_⟩
  rw [Engine.lasting_issue] at member
  have owned := tied.own timer member
  rw [current] at owned
  exact absurd (Option.some.inj owned).symm (Engine.lasting_of_load idle timer member)

private theorem told (tied : Tied tracker engine) (paced : Paced tracker before)
    (heard : before.Hands message engine) (step : tracker.LoopStep message next effects) :
    Tied next (engine.issue (effects.filterMap Effect.command?)) := by
  cases step with
  | kept stale unopened same silent =>
    exact tied.quiet (Command.quiet_of_effects silent) same.ticket
  | closed free unopened ticket lastEpoch settings ended silent cancels =>
    refine tied.cancelled (fun command member => ?_) (fun held => ?_) next
    · obtain ⟨effect, present, becomes⟩ := List.mem_filterMap.mp member
      exact .inl ((Effect.ticket_command becomes).trans (silent effect present))
    · exact List.mem_filterMap.mpr ⟨_, cancels.mpr held, rfl⟩
  | opened hash free opening ticket lastEpoch settings jobHash poll found =>
    rw [Tracker.opening_commands]
    refine tied.cancelled (fun command member => ?_) (fun held => ?_) next
    · rcases List.mem_append.mp member with cancels | asks
      · obtain ⟨effect, present, becomes⟩ := List.mem_filterMap.mp cancels
        rw [((Tracker.mem_cancellation ..).mp present).2] at becomes
        cases becomes
        exact .inl rfl
      · rw [List.mem_singleton.mp asks]
        exact .inr rfl
    · refine List.mem_append_left _ (List.mem_filterMap.mpr ⟨.cancelPoll, ?_, rfl⟩)
      exact (Tracker.mem_cancellation ..).mpr ⟨held, rfl⟩
  | asked current => exact tied.quiet (by simp [Effect.command?, Command.isTiming]) rfl
  | continued current again =>
    refine ⟨tied.single, fun timer member => ?_⟩
    rw [Engine.lasting_issue] at member
    rw [List.mem_singleton.mp member]
    exact current
  | finished current terminal empty => exact tied.ended paced heard current rfl _
  | stalled reason current => exact tied.ended paced heard current rfl _

end Tied

namespace System

variable {settings : PollSettings} {history acts : List Tracker.Act} {system next : System}

private theorem Reaches.tied (reached : Reaches settings history system)
    (few : (Tracker.withSettings settings).opened history < UInt64.size) :
    Tied system.session.tracker system.engine := by
  induction reached with
  | new => exact .new settings
  | move reached moves ih =>
    have earlier : (Tracker.withSettings settings).opened _ < UInt64.size :=
      Nat.lt_of_le_of_lt (Nat.le_add_right ..) (Tracker.opened_append .. ▸ few)
    have tied := ih earlier
    have paced := reached.paced earlier
    cases moves with
    | serve pending => exact tied.serve
    | complete running result allowed => exact tied.complete _ result
    | expire found live => exact tied.expire _
    | receive delivered =>
      have told := (tied.deliver delivered).told paced (.delivered delivered)
        (Tracker.update_step _ _)
      exact ⟨told.single, told.own⟩
    | tell message free =>
      have told := tied.told paced (.user _ free) (Tracker.update_step _ message)
      exact ⟨told.single, told.own⟩

/-- While the epochs last, no timer outlives its polling loop. Once no command is queued, a timer
that may still fire runs for the current loop. When the page is left or opened, the composer is
returned to, or the loop finishes or stalls, no such timer is left after the commands issued by
then; yet a cancellation is only ordered when a loop is dropped before its own end. -/
theorem Reaches.no_timer_outlives_loop (reached : Reaches settings history system)
    (few : (Tracker.withSettings settings).opened history < UInt64.size) :
    (system.engine.commands = [] → ∀ timer ∈ system.engine.timers.live,
      system.session.tracker.ticket = some timer.ticket) ∧
    (∀ message next, system.session.tracker.Ends message →
      system.Moves .any [.tell message, .look] next →
      next.session.tracker.ticket = none ∧ next.engine.serveAll.commands = [] ∧
        next.engine.serveAll.timers.live = []) ∧
    ∀ message, .cancelPoll ∈ (system.session.tracker.update message).2 ↔
      message.isPolled = false ∧ ∃ ticket, system.session.tracker.ticket = some ticket ∧
        (system.session.tracker.update message).1.ticket ≠ some ticket := by
  have tied := reached.tied few
  refine ⟨fun served timer member => tied.own timer ?_, fun message next ends moves => ?_,
    fun message => (Tracker.update_step _ message).cancels reached.coherent⟩
  · rw [Engine.lasting, served]
    exact member
  · obtain ⟨released, unopened⟩ := ends.ticket
    have opens : system.session.tracker.opened [.tell message, .look] = 0 := by
      simp [Tracker.opened, Tracker.opens, unopened]
    have later := (reached.move moves).tied (by
      rw [Tracker.opened_append, ← reached.tracker, opens]
      exact few)
    have none : next.session.tracker.ticket = none := by
      rw [moves.tracker]
      exact released
    exact ⟨none, Engine.serveAll_commands _,
      (Engine.live_serveAll later.single).trans (later.nothing none)⟩

theorem no_timer_outlives_loop_waiting :
    Reaches .default waitingRun waitingSystem ∧
      (Tracker.withSettings .default).opened waitingRun < UInt64.size ∧
      waitingSystem.engine.commands = [] ∧
      ⟨⟨⟨"a"⟩, 1⟩, 1000, .live⟩ ∈ waitingSystem.engine.timers.live ∧
      waitingSystem.session.tracker.ticket = some ⟨⟨"a"⟩, 1⟩ ∧
      waitingSystem.session.tracker.Ends .unmounted ∧
      waitingSystem.Moves .any [.tell .unmounted, .look] (waitingSystem.tell .unmounted) ∧
      (waitingSystem.tell .unmounted).session.tracker.ticket = none ∧
      (waitingSystem.tell .unmounted).engine.serveAll.commands = [] ∧
      (waitingSystem.tell .unmounted).engine.serveAll.timers.live = [] := by
  have few : (Tracker.withSettings .default).opened waitingRun < UInt64.size := by decide
  obtain ⟨own, ends, _⟩ := waitingSystem_reached.no_timer_outlives_loop few
  have live : ⟨⟨⟨"a"⟩, 1⟩, 1000, .live⟩ ∈ waitingSystem.engine.timers.live :=
    List.mem_singleton_self _
  have left : waitingSystem.Moves .any [.tell .unmounted, .look] (waitingSystem.tell .unmounted) :=
    .tell .unmounted rfl
  exact ⟨waitingSystem_reached, few, rfl, live, own rfl _ live, .left, left,
    ends .unmounted _ .left left⟩

end System

end ScanWatch
