import ScanWatch.Proofs.Engine.Liveness
import ScanWatch.Proofs.System.Run

/-! One outstanding activity for each polling loop: while a loop is current, exactly one request,
answer or timer carries it on. -/

namespace ScanWatch

variable {tracker next : Tracker} {engine : Engine} {ticket : PollTicket}

/-- The engine does one thing at a time for the current loop, and nothing for loops to come. A
cancellation meant for an earlier loop may still be queued; it stands before the first page
request, so it cannot end a timer of the current one. -/
structure Paced (tracker : Tracker) (engine : Engine) : Prop where
  known : ∀ ticket, tracker.lastEpoch.toNat < ticket.epoch.toNat → engine.load ticket = 0
  single : ∀ ticket, tracker.ticket = some ticket → engine.load ticket = 1
  inTurn : ∀ ticket, tracker.ticket = some ticket → Command.InTurn ticket engine.commands

private theorem Event.ticket_message (event : Event) : event.message.ticket? = event.ticket? := by
  unfold Event.message
  split <;> rfl

private theorem Event.eq_matchesLoaded {event : Event} {page : MatchPage}
    (told : event.message = .matchesLoaded ticket page) :
    event = .matchesLoaded ticket (.ok page) := by
  unfold Event.message at told
  split at told <;> cases told
  rfl

theorem Message.isPolled_eq (message : Message) : message.isPolled = message.ticket?.isSome := by
  cases message <;> rfl

private theorem Message.ticket_free {message : Message} (free : message.isPolled = false) :
    message.ticket? = none := by
  rw [isPolled_eq] at free
  simpa using free

private theorem Engine.load_issue_effects {effects : List Effect}
    (other : ∀ effect ∈ effects, effect.ticket? ≠ some ticket) :
    (engine.issue (effects.filterMap Effect.command?)).load ticket = engine.load ticket := by
  refine load_issue_of_other fun command member => ?_
  obtain ⟨effect, present, becomes⟩ := List.mem_filterMap.mp member
  rw [Effect.ticket_command becomes]
  exact other effect present

theorem Tracker.opening_commands (tracker : Tracker) (hash : JobHash) :
    (.navigate (.job hash) :: (tracker.cancellation ++ [tracker.firstPage hash])).filterMap
        Effect.command? =
      tracker.cancellation.filterMap Effect.command? ++
        [.ask (.page (tracker.nextTicket hash) 0 tracker.settings.pageSize.toNat)] := by
  rw [List.filterMap_cons_none rfl, List.filterMap_append]
  rfl

private theorem Engine.load_issue_opening (engine : Engine) (tracker : Tracker) (hash : JobHash)
    (ticket : PollTicket) :
    (engine.issue
      ((.navigate (.job hash) :: (tracker.cancellation ++ [tracker.firstPage hash])).filterMap
        Effect.command?)).load ticket =
      engine.load ticket + if tracker.nextTicket hash = ticket then 1 else 0 := by
  have silent : ∀ effect ∈ tracker.cancellation, effect.ticket? ≠ some ticket := by
    intro effect member
    rw [((Tracker.mem_cancellation ..).mp member).2]
    simp [Effect.ticket?]
  rw [Tracker.opening_commands, issue_append]
  by_cases own : tracker.nextTicket hash = ticket
  · have works : Command.ticket? (.ask (.page (tracker.nextTicket hash) 0
        tracker.settings.pageSize.toNat)) = some ticket := congrArg some own
    rw [if_pos own, load_issue_of_own works, load_issue_effects silent]
  · rw [if_neg own, load_issue_of_other (by simp [Command.ticket?, Request.ticket?, own]),
      load_issue_effects silent]
    rfl

theorem Command.quiet_of_effects {effects : List Effect}
    (quiet : ∀ effect ∈ effects, effect.ticket? = none ∧ effect ≠ .cancelPoll) :
    ∀ command ∈ effects.filterMap Effect.command?, command.isTiming = false := by
  intro command member
  obtain ⟨effect, present, becomes⟩ := List.mem_filterMap.mp member
  obtain ⟨silent, kept⟩ := quiet effect present
  cases effect <;> cases becomes
  · rfl
  · cases silent
  · exact absurd rfl kept

private theorem Command.InTurn.of_effects {effects : List Effect}
    (quiet : ∀ effect ∈ effects, effect.ticket? = none ∧ effect ≠ .cancelPoll) :
    InTurn ticket (effects.filterMap Effect.command?) :=
  .of_quiet (quiet_of_effects quiet)

/-- What is left of an engine that hands a message over; a message of the user is none of its
own. -/
structure Engine.Hands (before : Engine) (message : Message) (engine : Engine) : Prop where
  load : ∀ ticket, before.load ticket =
    engine.load ticket + if message.ticket? = some ticket then 1 else 0
  commands : engine.commands = before.commands
  running : engine.running = before.running
  events : ∀ event ∈ engine.events, event ∈ before.events
  loaded : ∀ ticket page, message = .matchesLoaded ticket page →
    .matchesLoaded ticket (.ok page) ∈ before.events

namespace Engine.Hands

variable {before : Engine} {message : Message}

theorem user (engine : Engine) (free : message.isPolled = false) :
    engine.Hands message engine where
  load ticket := by simp [Message.ticket_free free]
  commands := rfl
  running := rfl
  events _ member := member
  loaded ticket page same := by
    subst same
    cases free

theorem delivered {event : Event} (delivered : before.deliver? = some (event, engine)) :
    before.Hands event.message engine := by
  have split := load_deliver delivered
  obtain ⟨events, queued, rfl⟩ := deliver?_eq_some delivered
  refine ⟨fun ticket => ?_, rfl, rfl, fun event member => ?_, fun ticket page same => ?_⟩
  · rw [Event.ticket_message]
    exact split ticket
  · rw [queued]
    exact List.mem_cons_of_mem _ member
  · rw [queued, ← Event.eq_matchesLoaded same]
    exact List.mem_cons_self ..

theorem nothing (heard : before.Hands message engine) (idle : before.load ticket = 0) :
    engine.load ticket = 0 := by
  have split := heard.load ticket
  omega

theorem spent (heard : before.Hands message engine) (speaks : message.ticket? = some ticket)
    (one : before.load ticket = 1) : engine.load ticket = 0 := by
  rw [heard.load, if_pos speaks] at one
  exact Nat.succ.inj one

private theorem others (heard : before.Hands message engine)
    (other : message.ticket? ≠ some ticket) :
    before.load ticket = engine.load ticket := by
  rw [heard.load, if_neg other, Nat.add_zero]

end Engine.Hands

namespace Paced

private theorem idle (settings : PollSettings) : Paced (.withSettings settings) .idle where
  known ticket _ := Engine.load_idle ticket
  single ticket held := by cases held
  inTurn ticket held := by cases held

private theorem serve (paced : Paced tracker engine) : Paced tracker engine.serve where
  known ticket future := by
    have fewer := engine.load_serve_le ticket
    have none := paced.known ticket future
    omega
  single ticket held := Engine.load_serve (paced.single ticket held) (paced.inTurn ticket held)
  inTurn ticket held := Engine.inTurn_serve (paced.inTurn ticket held)

private theorem complete (paced : Paced tracker engine) {request : Request}
    (running : request ∈ engine.running) (result : Except Failure request.Answer) :
    Paced tracker (engine.complete request result) where
  known ticket future :=
    (Engine.load_complete running result ticket).trans (paced.known ticket future)
  single ticket held :=
    (Engine.load_complete running result ticket).trans (paced.single ticket held)
  inTurn := paced.inTurn

private theorem expire (paced : Paced tracker engine) (index : Nat) :
    Paced tracker (engine.expire index) where
  known ticket future := (engine.load_expire index ticket).trans (paced.known ticket future)
  single ticket held := (engine.load_expire index ticket).trans (paced.single ticket held)
  inTurn ticket held := by
    rw [Engine.commands_expire]
    exact paced.inTurn ticket held

private theorem current_le (paced : Paced tracker engine) (held : tracker.ticket = some ticket) :
    ticket.epoch.toNat ≤ tracker.lastEpoch.toNat := by
  apply Classical.byContradiction
  intro later
  have none := paced.known ticket (by omega)
  have one := paced.single ticket held
  omega

variable {before : Engine} {message : Message} {effects : List Effect}

private theorem inTurn_issue (paced : Paced tracker before) (heard : before.Hands message engine)
    (held : tracker.ticket = some ticket) {commands : List Command}
    (inTurn : Command.InTurn ticket commands) :
    Command.InTurn ticket (engine.issue commands).commands := by
  have front := paced.inTurn ticket held
  rw [← heard.commands] at front
  exact front.append inTurn

private theorem kept (paced : Paced tracker before) (heard : before.Hands message engine)
    (stale : message.ticket? = none ∨ message.ticket? ≠ tracker.ticket)
    (same : next.SameLoop tracker)
    (quiet : ∀ effect ∈ effects, effect.ticket? = none ∧ effect ≠ .cancelPoll) :
    Paced next (engine.issue (effects.filterMap Effect.command?)) := by
  have silent : ∀ ticket, ∀ effect ∈ effects, effect.ticket? ≠ some ticket := by
    intro ticket effect member
    rw [(quiet effect member).1]
    simp
  refine ⟨fun ticket future => ?_, fun ticket held => ?_, fun ticket held => ?_⟩
  · rw [same.lastEpoch] at future
    rw [Engine.load_issue_effects (silent ticket)]
    exact heard.nothing (paced.known ticket future)
  · rw [same.ticket] at held
    have unheard : message.ticket? ≠ some ticket := by
      intro speaks
      rcases stale with free | other
      · rw [free] at speaks
        cases speaks
      · exact other (speaks.trans held.symm)
    rw [Engine.load_issue_effects (silent ticket), ← heard.others unheard]
    exact paced.single ticket held
  · rw [same.ticket] at held
    exact paced.inTurn_issue heard held (.of_effects quiet)

private theorem released (paced : Paced tracker before) (heard : before.Hands message engine)
    (ticket : next.ticket = none) (lastEpoch : next.lastEpoch = tracker.lastEpoch)
    (quiet : ∀ effect ∈ effects, effect.ticket? = none) :
    Paced next (engine.issue (effects.filterMap Effect.command?)) := by
  refine ⟨fun other future => ?_, fun other held => ?_, fun other held => ?_⟩
  · rw [lastEpoch] at future
    have silent : ∀ effect ∈ effects, effect.ticket? ≠ some other := by
      intro effect member
      rw [quiet effect member]
      simp
    rw [Engine.load_issue_effects silent]
    exact heard.nothing (paced.known other future)
  all_goals
    rw [ticket] at held
    cases held

private theorem opened (paced : Paced tracker before) (heard : before.Hands message engine)
    (hash : JobHash) (ticket : next.ticket = some (tracker.nextTicket hash))
    (lastEpoch : next.lastEpoch = tracker.lastEpoch + 1)
    (room : tracker.lastEpoch.toNat + 1 < UInt64.size) :
    Paced next (engine.issue
      ((.navigate (.job hash) :: (tracker.cancellation ++ [tracker.firstPage hash])).filterMap
        Effect.command?)) := by
  have issued := engine.load_issue_opening tracker hash
  have fresh := Tracker.nextTicket_epoch tracker hash room
  refine ⟨fun other future => ?_, fun other held => ?_, fun other held => ?_⟩
  · have latest : next.lastEpoch = (tracker.nextTicket hash).epoch := lastEpoch
    rw [latest, fresh] at future
    have different : tracker.nextTicket hash ≠ other := by
      rintro rfl
      omega
    rw [issued, if_neg different, heard.nothing (paced.known other (by omega))]
  · obtain rfl := Option.some.inj (ticket.symm.trans held)
    rw [issued, if_pos rfl, heard.nothing (paced.known _ (by omega))]
  · obtain rfl := Option.some.inj (ticket.symm.trans held)
    have asked : Command.asks (tracker.nextTicket hash)
        (.ask (.page (tracker.nextTicket hash) 0 tracker.settings.pageSize.toNat)) = true := by
      simp [Command.asks, Request.ticket?]
    have front := Command.InTurn.of_asked
      (engine.commands ++ tracker.cancellation.filterMap Effect.command?) asked
    rw [List.append_assoc] at front
    rw [Tracker.opening_commands]
    exact front

private theorem carried (paced : Paced tracker before) (heard : before.Hands message engine)
    (current : tracker.ticket = some ticket) (speaks : message.ticket? = some ticket)
    (same : next.ticket = tracker.ticket) (lastEpoch : next.lastEpoch = tracker.lastEpoch)
    (command : Command) (works : command.ticket? = some ticket)
    (inTurn : Command.InTurn ticket [command]) : Paced next (engine.issue [command]) := by
  refine ⟨fun other future => ?_, fun other held => ?_, fun other held => ?_⟩
  · rw [lastEpoch] at future
    have bound := paced.current_le current
    have different : ∀ issued ∈ [command], issued.ticket? ≠ some other := by
      intro issued member
      rw [List.mem_singleton.mp member, works]
      intro same
      obtain rfl := Option.some.inj same
      omega
    rw [Engine.load_issue_of_other different]
    exact heard.nothing (paced.known other future)
  · obtain rfl := Option.some.inj (current.symm.trans (same.symm.trans held))
    rw [Engine.load_issue_of_own works, heard.spent speaks (paced.single ticket current)]
  · obtain rfl := Option.some.inj (current.symm.trans (same.symm.trans held))
    exact paced.inTurn_issue heard current inTurn

/-- A tracker is told a message that the engine handed over, or that comes from the user. -/
theorem told (paced : Paced tracker before) (heard : before.Hands message engine)
    (step : tracker.LoopStep message next effects)
    (room : (tracker.opening? message).isSome → tracker.lastEpoch.toNat + 1 < UInt64.size) :
    Paced next (engine.issue (effects.filterMap Effect.command?)) := by
  cases step with
  | kept stale unopened same quiet => exact paced.kept heard stale same quiet
  | closed free unopened ticket lastEpoch settings ended quiet cancels =>
    exact paced.released heard ticket lastEpoch quiet
  | opened hash free opening ticket lastEpoch settings jobHash poll found =>
    exact paced.opened heard hash ticket lastEpoch (room (by simp [opening]))
  | asked current =>
    refine paced.carried heard current rfl rfl rfl _ rfl (.of_quiet ?_)
    simp [Command.isTiming]
  | continued current again =>
    refine paced.carried heard current rfl ?_ ?_ _ rfl (.scheduled _ _) <;> rfl
  | finished current terminal empty | stalled reason current =>
    have quiet : ∀ effect ∈ ([] : List Effect), effect.ticket? = none :=
      fun effect member => absurd member List.not_mem_nil
    exact paced.released heard rfl rfl quiet

private theorem look (paced : Paced tracker engine) : Paced tracker.consumeDirty.2 engine :=
  ⟨paced.known, paced.single, paced.inTurn⟩

end Paced

namespace System

variable {settings : PollSettings} {history : List Tracker.Act} {system : System}

private theorem paced_tell {before : Engine} {message : Message}
    (paced : Paced system.session.tracker before) (heard : before.Hands message system.engine)
    (room : (system.session.tracker.opening? message).isSome →
      system.session.tracker.lastEpoch.toNat + 1 < UInt64.size) :
    Paced (system.tell message).session.tracker (system.tell message).engine :=
  (paced.told heard (Tracker.update_step _ message) room).look

theorem Reaches.room (reached : Reaches settings history system) {message : Message}
    (few : (Tracker.withSettings settings).opened (history ++ [.tell message, .look]) <
      UInt64.size) (opens : (system.session.tracker.opening? message).isSome) :
    system.session.tracker.lastEpoch.toNat + 1 < UInt64.size := by
  rw [Tracker.opened_append, ← reached.tracker] at few
  simp only [Tracker.opened, Tracker.opens, opens, Bool.toNat_true] at few
  rw [reached.tracker, (Tracker.Initial.withSettings settings).lastEpoch_after history (by omega)]
  omega

theorem Reaches.paced (reached : Reaches settings history system)
    (few : (Tracker.withSettings settings).opened history < UInt64.size) :
    Paced system.session.tracker system.engine := by
  induction reached with
  | new => exact .idle settings
  | move reached moves ih =>
    have paced := ih (by rw [Tracker.opened_append] at few; omega)
    cases moves with
    | serve pending => exact paced.serve
    | complete running result allowed => exact paced.complete running result
    | expire found live => exact paced.expire _
    | receive delivered => exact paced_tell paced (.delivered delivered) (reached.room few)
    | tell message free => exact paced_tell paced (.user _ free) (reached.room few)

/-- While the epochs last, exactly one thing is outstanding for the current loop, and only once: a
request for a page, its answer, the order to wait, a running timer, or the news that it has
fired. -/
theorem Reaches.one_activity (reached : Reaches settings history system)
    (few : (Tracker.withSettings settings).opened history < UInt64.size) {ticket : PollTicket}
    (current : system.session.tracker.ticket = some ticket) :
    ∃ activity, system.engine.amount ticket activity = 1 ∧
      ∀ other, other ≠ activity → system.engine.amount ticket other = 0 :=
  Engine.single_of_load ((reached.paced few).single ticket current)

/-- The current loop never comes to a halt: its next event is there, or can be brought about. -/
theorem Reaches.advances (reached : Reaches settings history system)
    (few : (Tracker.withSettings settings).opened history < UInt64.size) {ticket : PollTicket}
    (current : system.session.tracker.ticket = some ticket) :
    system.engine.Advances fun event => event.ticket? = some ticket := by
  obtain ⟨activity, one, _⟩ := Engine.single_of_load ((reached.paced few).single ticket current)
  exact Engine.advances_of_amount (one ▸ Nat.one_pos)

/-- A job has been opened and its first page requested. -/
def askingSystem : System :=
  let opened := (System.new .default).tell (.jobChosen (some ⟨"a"⟩) none)
  { opened with engine := opened.engine.serve }

def waitingSystem : System :=
  let answered := askingSystem.engine.complete (.page ⟨⟨"a"⟩, 1⟩ 0 50)
    (.ok ⟨[.null], .ofStatus .processing⟩)
  let told := System.tell { askingSystem with engine := { answered with events := [] } }
    (.matchesLoaded ⟨⟨"a"⟩, 1⟩ ⟨[.null], .ofStatus .processing⟩)
  { told with engine := told.engine.serve }

def waitingRun : List Tracker.Act :=
  [.tell (.jobChosen (some ⟨"a"⟩) none), .look,
    .tell (.matchesLoaded ⟨⟨"a"⟩, 1⟩ ⟨[.null], .ofStatus .processing⟩), .look]

theorem waitingSystem_reached : Reaches .default waitingRun waitingSystem := by
  have asking : Reaches .default _ askingSystem :=
    .move (.move .new (.tell (.jobChosen (some ⟨"a"⟩) none) rfl))
      (.serve (List.cons_ne_nil _ _))
  have running : .page ⟨⟨"a"⟩, 1⟩ 0 50 ∈ askingSystem.engine.running :=
    List.mem_singleton_self _
  have answered :=
    asking.move (.complete running (.ok ⟨[.null], .ofStatus .processing⟩) trivial)
  have told := answered.move (.receive rfl)
  exact told.move (.serve (List.cons_ne_nil _ _))

theorem one_activity_waiting :
    Reaches .default waitingRun waitingSystem ∧
      (Tracker.withSettings .default).opened waitingRun < UInt64.size ∧
      waitingSystem.session.tracker.ticket = some ⟨⟨"a"⟩, 1⟩ ∧
      ∃ activity, waitingSystem.engine.amount ⟨⟨"a"⟩, 1⟩ activity = 1 ∧
        ∀ other, other ≠ activity → waitingSystem.engine.amount ⟨⟨"a"⟩, 1⟩ other = 0 :=
  ⟨waitingSystem_reached, by decide, rfl,
    waitingSystem_reached.one_activity (by decide) rfl⟩

end System

end ScanWatch
