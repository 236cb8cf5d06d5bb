import ScanWatch.Proofs.Engine.Activity
import ScanWatch.Proofs.Engine.Timing

namespace ScanWatch

structure Reply where
  request : Request
  result : Except Failure request.Answer

/-- What is told of a reply. -/
def Reply.message : Reply → Message
  | ⟨.datasets, .ok datasets⟩ => .datasetsLoaded datasets
  | ⟨.datasets, .error _⟩ => .datasetsLoaded .empty
  | ⟨.jobQuery hash, .ok rawQuery⟩ => .jobQueryLoaded hash rawQuery
  | ⟨.jobQuery hash, .error failure⟩ => .jobQueryFailed hash failure.text
  | ⟨.page ticket _ _, .ok page⟩ => .matchesLoaded ticket page
  | ⟨.page ticket _ _, .error failure⟩ => .matchesFailed ticket failure.text
  | ⟨.compile rawQuery _, .ok (.plan plan)⟩ => .queryCompiled plan rawQuery
  | ⟨.compile rawQuery _, .ok (.rejected error)⟩ => .queryFailed error rawQuery
  | ⟨.compile rawQuery _, .error failure⟩ => .queryFailed failure.text rawQuery
  | ⟨.submit rawQuery _, .ok (.accepted hash)⟩ => .querySubmitted hash rawQuery
  | ⟨.submit rawQuery _, .ok (.rejected error)⟩ => .queryFailed error rawQuery
  | ⟨.submit rawQuery _, .error failure⟩ => .queryFailed failure.text rawQuery
  | ⟨.backendStatus, .ok status⟩ => .backendStatusLoaded status
  | ⟨.backendStatus, .error failure⟩ => .backendStatusFailed failure.text

private theorem Reply.message_event (request : Request) (result : Except Failure request.Answer) :
    (request.event result).message = Reply.message ⟨request, result⟩ := by
  cases request with
  | datasets | jobQuery | page | backendStatus => cases result <;> rfl
  | compile rawQuery taint =>
    cases result with
    | error failure => rfl
    | ok outcome => cases outcome <;> rfl
  | submit rawQuery taint =>
    cases result with
    | error failure => rfl
    | ok outcome => cases outcome <;> rfl

/-- What an effect orders the timers to do. -/
def Effect.order? : Effect → Option Timers.Act
  | .schedulePoll ticket delay => some (.schedule ticket delay)
  | .cancelPoll => some .cancel
  | .navigate _ | .ask _ => none

namespace Command

def asked? : Command → Option Request
  | .ask request => some request
  | .schedulePoll _ _ | .cancelPoll => none

def order? : Command → Option Timers.Act
  | .schedulePoll ticket delay => some (.schedule ticket delay)
  | .cancelPoll => some .cancel
  | .ask _ => none

private theorem filterMap_commands {Item : Type} {read : Command → Option Item}
    {given : Effect → Option Item}
    (same : ∀ effect : Effect, effect.command?.bind read = given effect) (effects : List Effect) :
    (effects.filterMap Effect.command?).filterMap read = effects.filterMap given := by
  rw [List.filterMap_filterMap]
  exact congrArg (effects.filterMap ·) (funext same)

private theorem asked_commands (effects : List Effect) :
    (effects.filterMap Effect.command?).filterMap asked? = effects.filterMap Effect.asked? :=
  filterMap_commands (fun effect => by cases effect <;> rfl) effects

private theorem order_commands (effects : List Effect) :
    (effects.filterMap Effect.command?).filterMap order? = effects.filterMap Effect.order? :=
  filterMap_commands (fun effect => by cases effect <;> rfl) effects

end Command

/-- The books of an engine, each in the order of time. -/
structure Ledger where
  effects : List Effect := []
  replies : List Reply := []
  timing : List Timers.Act := []
  told : List Message := []

namespace Ledger

def asked (ledger : Ledger) : List Request :=
  ledger.effects.filterMap Effect.asked?

def ordered (ledger : Ledger) : List Timers.Act :=
  ledger.effects.filterMap Effect.order?

def scheduled (ledger : Ledger) : List PollTicket :=
  ledger.ordered.filterMap Timers.Act.ticket?

def obeyed (ledger : Ledger) : List Timers.Act :=
  ledger.timing.filter Timers.Act.isOrder

end Ledger

abbrev Answering := (request : Request) → Except Failure request.Answer → Prop

def Answering.any : Answering := fun _ _ => True

namespace Engine

/-- The requests that are still to be answered. -/
def unanswered (engine : Engine) : List Request :=
  engine.running ++ engine.commands.filterMap Command.asked?

/-- What an engine may have come to, and the books of how it came there. -/
inductive Recorded (may : Answering) : Ledger → Engine → Prop
  | idle : Recorded may {} .idle
  | enqueue {ledger : Ledger} {engine : Engine} (recorded : Recorded may ledger engine)
      (effects : List Effect) :
      Recorded may { ledger with effects := ledger.effects ++ effects }
        (engine.issue (effects.filterMap Effect.command?))
  | serve {ledger : Ledger} {engine : Engine} {command : Command} {rest : List Command}
      (recorded : Recorded may ledger engine) (queued : engine.commands = command :: rest) :
      Recorded may { ledger with timing := ledger.timing ++ command.order?.toList }
        engine.serve
  | complete {ledger : Ledger} {engine : Engine} {request : Request}
      {result : Except Failure request.Answer} (recorded : Recorded may ledger engine)
      (running : request ∈ engine.running) (allowed : may request result) :
      Recorded may { ledger with replies := ledger.replies ++ [⟨request, result⟩] }
        (engine.complete request result)
  | expire {ledger : Ledger} {engine : Engine} (recorded : Recorded may ledger engine)
      (index : Nat) :
      Recorded may { ledger with timing := ledger.timing ++ [.fire index] }
        (engine.expire index)
  | deliver {ledger : Ledger} {engine rest : Engine} {event : Event}
      (recorded : Recorded may ledger engine)
      (delivered : engine.deliver? = some (event, rest)) :
      Recorded may { ledger with told := ledger.told ++ [event.message] } rest

variable {may : Answering} {ledger : Ledger} {engine : Engine}

private theorem serve_eq {command : Command} {rest : List Command}
    (queued : engine.commands = command :: rest) :
    engine.serve = { engine with
      commands := rest
      running := engine.running ++ command.asked?.toList
      timers := engine.timers.after command.order?.toList } := by
  unfold serve
  cases command <;> simp [queued, Command.asked?, Command.order?, Timers.after, Timers.act]

private theorem expire_timers (engine : Engine) (index : Nat) :
    (engine.expire index).timers = engine.timers.act (.fire index) := by
  unfold expire
  simp only [Timers.act]
  cases engine.timers.fire? index <;> rfl

/-- What is left to do, counted by the steps it takes at most. -/
def backlog (engine : Engine) : Nat :=
  3 * engine.commands.length + 2 * engine.running.length + engine.events.length

/-- If the service answers, a run can be ended without being given more to do. -/
theorem Recorded.ends (answers : ∀ request, ∃ result, may request result)
    (recorded : Recorded may ledger engine) :
    ∃ (later : Ledger) (last : Engine), Recorded may later last ∧
      later.effects = ledger.effects ∧ last.commands = [] ∧ last.running = [] ∧
        last.events = [] := by
  induction work : engine.backlog using Nat.strongRecOn generalizing ledger engine with
  | ind backlog ih =>
    subst work
    -- Commands are served first, then requests are answered, then events are delivered.
    cases commands : engine.commands with
    | cons command rest =>
      have less : engine.serve.backlog < engine.backlog := by
        have begun : command.asked?.toList.length ≤ 1 := Option.length_toList_le
        simp only [serve_eq commands, backlog, commands, List.length_append, List.length_cons]
        omega
      exact (ih _ less (recorded.serve commands) rfl :)
    | nil =>
      cases running : engine.running with
      | cons request rest =>
        obtain ⟨result, answered⟩ := answers request
        have begun : request ∈ engine.running := running ▸ List.mem_cons_self ..
        have less : (engine.complete request result).backlog < engine.backlog := by
          simp [backlog, Engine.complete, commands, running]
          omega
        exact (ih _ less (recorded.complete begun answered) rfl :)
      | nil =>
        cases events : engine.events with
        | cons event rest =>
          have delivered : engine.deliver? = some (event, { engine with events := rest }) := by
            simp [deliver?, events]
          have less : { engine with events := rest }.backlog < engine.backlog := by
            simp [backlog, events]
          exact (ih _ less (recorded.deliver delivered) rfl :)
        | nil => exact ⟨ledger, engine, recorded, rfl, commands, running, events⟩

private theorem unanswered_serve {command : Command} {rest : List Command}
    (queued : engine.commands = command :: rest) :
    engine.serve.unanswered = engine.unanswered := by
  rw [serve_eq queued, unanswered, unanswered, queued, List.append_assoc]
  cases command <;> rfl

private theorem unanswered_expire (engine : Engine) (index : Nat) :
    (engine.expire index).unanswered = engine.unanswered := by
  unfold expire
  split <;> rfl

/-- Each request is answered once, or is still to be answered. -/
theorem Recorded.asked (recorded : Recorded may ledger engine) :
    (ledger.replies.map Reply.request ++ engine.unanswered).Perm ledger.asked := by
  induction recorded with
  | idle => exact .refl _
  | @enqueue ledger engine recorded effects ih =>
    have more := ih.append_right (effects.filterMap Effect.asked?)
    simpa [unanswered, issue, Ledger.asked, Command.asked_commands] using more
  | serve recorded queued ih =>
    rw [unanswered_serve queued]
    exact ih
  | @complete ledger engine request result recorded running answered ih =>
    have begun := (List.perm_cons_erase running).symm
    have moved := begun.append_right (engine.commands.filterMap Command.asked?)
    refine List.Perm.trans ?_ ih
    simpa [unanswered, Engine.complete] using
      moved.append_left (ledger.replies.map Reply.request)
  | expire recorded index ih =>
    rw [unanswered_expire]
    exact ih
  | deliver recorded delivered ih =>
    obtain ⟨events, _, rfl⟩ := deliver?_eq_some delivered
    exact ih

/-- All replies are the service's own. -/
theorem Recorded.answered (recorded : Recorded may ledger engine) :
    ∀ reply ∈ ledger.replies, may reply.request reply.result := by
  induction recorded with
  | idle => exact fun _ member => absurd member List.not_mem_nil
  | enqueue _ _ ih | serve _ _ ih | expire _ _ ih | deliver _ _ ih => exact ih
  | complete recorded running answered ih =>
    exact List.forall_mem_append.mpr ⟨ih, List.forall_mem_singleton.mpr answered⟩

/-- Orders are obeyed as they were given, and none is passed over. -/
theorem Recorded.ordered (recorded : Recorded may ledger engine) :
    ledger.obeyed ++ engine.commands.filterMap Command.order? = ledger.ordered := by
  induction recorded with
  | idle => rfl
  | @enqueue ledger engine recorded effects ih =>
    have more := congrArg (· ++ effects.filterMap Effect.order?) ih
    simpa [issue, Ledger.obeyed, Ledger.ordered, Command.order_commands] using more
  | @serve ledger engine command rest recorded queued ih =>
    refine Eq.trans ?_ ih
    rw [serve_eq queued, queued, Ledger.obeyed, Ledger.obeyed, List.filter_append,
      List.append_assoc]
    cases command <;> rfl
  | complete recorded running answered ih => exact ih
  | @expire ledger engine recorded index ih =>
    rw [commands_expire, Ledger.obeyed, List.filter_append, List.append_assoc]
    exact ih
  | deliver recorded delivered ih =>
    obtain ⟨events, _, rfl⟩ := deliver?_eq_some delivered
    exact ih

/-- The timers are what their acts have made of them. -/
theorem Recorded.timers (recorded : Recorded may ledger engine) :
    engine.timers = Timers.empty.after ledger.timing := by
  induction recorded with
  | idle => rfl
  | enqueue _ _ ih | complete _ _ _ ih => exact ih
  | serve recorded queued ih => rw [serve_eq queued, ih, ← Timers.after_append]
  | expire recorded index ih =>
    rw [expire_timers, ih, Timers.after_append]
    rfl
  | deliver recorded delivered ih =>
    obtain ⟨events, _, rfl⟩ := deliver?_eq_some delivered
    exact ih

/-- The timers that have fired are some of those that were to be started. -/
theorem Recorded.fired (recorded : Recorded may ledger engine) :
    engine.timers.fired.Sublist ledger.scheduled := by
  have started : engine.timers.tickets = ledger.obeyed.filterMap Timers.Act.ticket? := by
    rw [recorded.timers, Timers.tickets_after, Ledger.obeyed, List.filterMap_filter]
    refine congrArg (ledger.timing.filterMap ·) (funext fun act => ?_)
    cases act <;> rfl
  refine engine.timers.fired_sublist.trans ?_
  rw [started, Ledger.scheduled, ← recorded.ordered, List.filterMap_append]
  exact List.sublist_append_left ..

private theorem fired_serve (engine : Engine) :
    engine.serve.timers.fired = engine.timers.fired := by
  unfold serve
  split
  · rfl
  · rfl
  · exact Timers.fired_schedule ..
  · exact Timers.fired_cancel _

/-- Each reply and each timer that fires is told of once, or is still to be told of. -/
theorem Recorded.told (recorded : Recorded may ledger engine) :
    (ledger.told ++ engine.events.map Event.message).Perm
      (ledger.replies.map Reply.message ++ engine.timers.fired.map .pollDue) := by
  induction recorded with
  | idle => exact .refl _
  | enqueue recorded effects ih => exact ih
  | @serve ledger engine command rest recorded queued ih =>
    rw [events_serve, fired_serve]
    exact ih
  | @complete ledger engine request result recorded running answered ih =>
    have later : (engine.complete request result).events.map Event.message =
        engine.events.map Event.message ++ [Reply.message ⟨request, result⟩] := by
      simp [Engine.complete, Reply.message_event]
    rw [later, ← List.append_assoc, List.map_append]
    refine (ih.append_right _).trans ?_
    rw [List.append_assoc, List.append_assoc]
    exact List.perm_append_comm.append_left _
  | @expire ledger engine recorded index ih =>
    unfold Engine.expire
    split
    · next ticket timers fires =>
      rw [List.map_append, ← List.append_assoc]
      refine (ih.append_right _).trans ?_
      rw [List.append_assoc]
      have woken := ((Timers.fired_fire fires).map Message.pollDue).symm
      exact (List.perm_append_comm.trans woken).append_left _
    · exact ih
  | deliver recorded delivered ih =>
    obtain ⟨events, queued, rfl⟩ := deliver?_eq_some delivered
    simpa [queued] using ih

/-- Once every request is answered and every event is delivered, each request has led to one
message, with its own tag and the service's answer to it; each timer that was ordered has led to one
message for its loop, or to none; and nothing else was told. The timers obey the orders as they were
given. -/
theorem Recorded.balanced (recorded : Recorded may ledger engine) :
    ledger.obeyed ++ engine.commands.filterMap Command.order? = ledger.ordered ∧
      engine.timers = Timers.empty.after ledger.timing ∧
        (engine.unanswered = [] → engine.events = [] →
          (ledger.replies.map Reply.request).Perm ledger.asked ∧
          (∀ reply ∈ ledger.replies, may reply.request reply.result) ∧
          ∃ woken : List PollTicket, woken.Sublist ledger.scheduled ∧
            ledger.told.Perm
              (ledger.replies.map Reply.message ++ woken.map Message.pollDue)) := by
  refine ⟨recorded.ordered, recorded.timers, fun finished delivered => ⟨?_, recorded.answered, ?_⟩⟩
  · simpa [finished] using recorded.asked
  · refine ⟨engine.timers.fired, recorded.fired, ?_⟩
    simpa [delivered] using recorded.told

/-- A service without datasets, which knows of no job. -/
def emptyService : Answering
  | .datasets, result => result = .ok .empty
  | _, result => result = .error .malformed

/-- The later of two requests is answered first, and a timer fires in between. -/
theorem Recorded.balanced_crossed :
    ∃ (ledger : Ledger) (engine : Engine), Recorded emptyService ledger engine ∧
      engine.unanswered = [] ∧ engine.events = [] ∧
      ledger.effects = [.ask .datasets, .cancelPoll, .schedulePoll ⟨⟨"a"⟩, 1⟩ 50,
        .ask (.jobQuery ⟨"a"⟩), .navigate .compose] ∧
      ledger.obeyed = [.cancel, .schedule ⟨⟨"a"⟩, 1⟩ 50] ∧
      ledger.told = [.jobQueryFailed ⟨"a"⟩ "malformed response: unexpected content",
        .pollDue ⟨⟨"a"⟩, 1⟩, .datasetsLoaded .empty] ∧
      ∃ woken : List PollTicket, woken.Sublist [⟨⟨"a"⟩, 1⟩] ∧
        ledger.told.Perm (ledger.replies.map Reply.message ++ woken.map Message.pollDue) := by
  have given := (Recorded.idle : Recorded emptyService {} .idle).enqueue [.ask .datasets,
    .cancelPoll, .schedulePoll ⟨⟨"a"⟩, 1⟩ 50, .ask (.jobQuery ⟨"a"⟩), .navigate .compose]
  have begun := (((given.serve rfl).serve rfl).serve rfl).serve rfl
  have unknown : emptyService (.jobQuery ⟨"a"⟩) (.error .malformed) := rfl
  have nothing : emptyService .datasets (.ok .empty) := rfl
  have answered := ((begun.complete (by decide) unknown).expire 0).complete (by decide) nothing
  have told := ((answered.deliver rfl).deliver rfl).deliver rfl
  exact ⟨_, _, told, rfl, rfl, rfl, rfl, rfl, (told.balanced.2.2 rfl rfl).2.2⟩

end Engine

end ScanWatch
