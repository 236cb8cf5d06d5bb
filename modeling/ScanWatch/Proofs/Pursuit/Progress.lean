import ScanWatch.Proofs.Errand.Answers
import ScanWatch.Proofs.Errand.Ending
import ScanWatch.Proofs.System.Openings
import ScanWatch.Pursuit

namespace ScanWatch

private theorem Goal.mayOpen_question {goal : Goal} {route : Route} {request : Request}
    (following : goal.isFollowing = true) (question : goal.question? route = some request) :
    request.mayOpen = true := by
  cases goal with
  | watch =>
    obtain ⟨hash, _, rfl⟩ := Option.map_eq_some_iff.mp question
    rfl
  | submit =>
    cases question
    rfl
  | browse | compile | backend => cases following

namespace Pursuit

variable {settings : PollSettings} {route : Route} {goal : Goal} {pursuit next : Pursuit}
  {engine : Engine}

def system (pursuit : Pursuit) : System :=
  ⟨pursuit.errand.session, pursuit.engine⟩

/-- The current polling loop has its one request, answer or timer. -/
def Polls (pursuit : Pursuit) : Prop :=
  ∃ ticket, pursuit.errand.session.tracker.ticket = some ticket ∧
    ∃ activity, pursuit.engine.amount ticket activity = 1 ∧
      ∀ other, other ≠ activity → pursuit.engine.amount ticket other = 0

/-- Something that can still lead to the goal is under way: the answer that it waits for first, or,
where a job is followed, the polling of the job. -/
def Outstanding (route : Route) (goal : Goal) (pursuit : Pursuit) : Prop :=
  (∃ request, goal.question? route = some request ∧ pursuit.engine.Awaits request) ∨
    goal.isFollowing = true ∧ pursuit.Polls

/-- What is under way can be brought on: the answer or the loop's next event is there, or can be
brought about. -/
theorem Outstanding.advances (outstanding : Outstanding route goal pursuit) :
    (∃ request, goal.question? route = some request ∧
      pursuit.engine.Advances fun event => ∃ result, event = request.event result) ∨
    ∃ ticket, pursuit.errand.session.tracker.ticket = some ticket ∧
      pursuit.engine.Advances fun event => event.ticket? = some ticket := by
  rcases outstanding with ⟨request, question, awaited⟩ | ⟨_, ticket, current, activity, one, _⟩
  · exact .inl ⟨request, question, awaited.advances⟩
  · exact .inr ⟨ticket, current, Engine.advances_of_amount (one ▸ Nat.one_pos)⟩

/-- How far an errand has come. -/
inductive Stage (route : Route) (goal : Goal) (pursuit : Pursuit) : Prop
  | reached (done : goal.isReached pursuit.errand.session.tracker.view = true)
  /-- The answer that the goal waits for is on its way; the job is still that of the location. -/
  | asked {request : Request} (question : goal.question? route = some request)
      (awaited : pursuit.engine.Awaits request)
      (jobHash : pursuit.errand.session.tracker.jobHash = route.hash?)
  /-- A job is followed, and no other will be opened. -/
  | followed (following : goal.isFollowing = true)
      (opened : pursuit.errand.session.tracker.ticket.isSome)
      (last : pursuit.engine.openings = 0)

/-- What holds all along an errand. -/
structure OnTrack (settings : PollSettings) (route : Route) (goal : Goal) (pursuit : Pursuit) :
    Prop where
  aims : pursuit.errand.goal = goal
  upToDate : pursuit.errand.UpToDate
  within : pursuit.engine.Within (goal.Allows route)
  frugal : pursuit.system.Frugal settings
  stage : Stage route goal pursuit

private theorem Stage.work (stage : Stage route goal pursuit) (moves : pursuit.engine.Step engine) :
    Stage route goal { pursuit with engine } := by
  cases stage with
  | reached done => exact .reached done
  | asked question awaited jobHash => exact .asked question (awaited.step moves) jobHash
  | followed following opened last =>
    exact .followed following opened ((Engine.openings_step moves).trans last)

private theorem followed_told (following : goal.isFollowing = true)
    (opened : pursuit.errand.session.tracker.ticket.isSome) (engine : Engine) (event : Event) :
    ({ pursuit with engine }.tell event.message).errand.session.tracker.ticket.isSome ∨
      goal.isReached ({ pursuit with engine }.tell event.message).errand.session.tracker.view =
        true := by
  have step := pursuit.errand.session.tracker.update_report event.message_isReport
  exact (step.follows opened).imp_right (Goal.isReached_of_isDrained following)

namespace OnTrack

private theorem isDone (onTrack : OnTrack settings route goal pursuit) :
    pursuit.errand.isDone = goal.isReached pursuit.errand.session.tracker.view := by
  rw [onTrack.upToDate.isDone, onTrack.aims]

private theorem openings_told (onTrack : OnTrack settings route goal pursuit) {event : Event}
    (delivered : pursuit.engine.deliver? = some (event, engine))
    (last : event.mayOpen = true ∨ pursuit.engine.openings = 0) :
    ({ pursuit with engine }.tell event.message).engine.openings = 0 := by
  have told := System.openings_tell { pursuit.system with engine } event
  have one : pursuit.engine.openings ≤ 1 := onTrack.frugal.openings_le
  have none : engine.openings = 0 := by
    rw [Engine.openings_deliver delivered] at one last
    rcases last with opens | none
    · rw [opens, Bool.toNat_true] at one
      omega
    · omega
  exact told.trans none

private theorem stage_answered (onTrack : OnTrack settings route goal pursuit)
    (fits : goal.Fits route)
    (jobHash : pursuit.errand.session.tracker.jobHash = route.hash?) {request : Request}
    (question : goal.question? route = some request) {result : Except Failure request.Answer}
    (delivered : pursuit.engine.deliver? = some (request.event result, engine)) :
    Stage route goal ({ pursuit with engine }.tell (request.event result).message) := by
  rcases fits.answered jobHash question result with reached | ⟨opened, following, _⟩
  · exact .reached reached
  · have mayOpen := Goal.mayOpen_question following question
    rw [← Request.mayOpen_event request result] at mayOpen
    exact .followed following opened (onTrack.openings_told delivered (.inl mayOpen))

/-- Until the goal's own answer comes, none changes the job. -/
theorem jobHash_told (onTrack : OnTrack settings route goal pursuit) {request : Request}
    (question : goal.question? route = some request) {event : Event}
    (delivered : pursuit.engine.deliver? = some (event, engine))
    (other : ¬∃ result, event = request.event result) :
    (pursuit.errand.session.tracker.update event.message).1.jobHash =
      pursuit.errand.session.tracker.jobHash := by
  have step := pursuit.errand.session.tracker.update_report event.message_isReport
  refine step.jobHash.resolve_right ?_
  rintro ⟨hash, rawQuery, told⟩
  obtain rfl := Event.eq_querySubmitted told
  rcases (onTrack.within.deliver delivered).2 with ⟨ticket, due⟩ | ⟨asked, result, allowed, same⟩
  · cases due
  · cases asked with
    | submit query taint =>
      rcases allowed with own | free
      · obtain rfl := Option.some.inj (question.symm.trans own)
        exact other ⟨result, same⟩
      · exact free query taint rfl
    | _ => cases same

private theorem stage_told (onTrack : OnTrack settings route goal pursuit) (fits : goal.Fits route)
    (pending : pursuit.errand.isDone = false) {event : Event}
    (delivered : pursuit.engine.deliver? = some (event, engine)) :
    Stage route goal ({ pursuit with engine }.tell event.message) := by
  cases onTrack.stage with
  | reached done =>
    rw [onTrack.isDone, done] at pending
    cases pending
  | @asked request question awaited jobHash =>
    by_cases own : ∃ result, event = request.event result
    · obtain ⟨result, rfl⟩ := own
      exact onTrack.stage_answered fits jobHash question delivered
    · refine .asked question ?_ ((onTrack.jobHash_told question delivered own).trans jobHash)
      exact ((awaited.deliver delivered).resolve_left own).issue _
  | followed following opened last =>
    rcases followed_told following opened engine event with still | done
    · exact .followed following still (onTrack.openings_told delivered (.inr last))
    · exact .reached done

private theorem work (onTrack : OnTrack settings route goal pursuit)
    (moves : pursuit.engine.Step engine) :
    OnTrack settings route goal { pursuit with engine } where
  aims := onTrack.aims
  upToDate := onTrack.upToDate
  within := onTrack.within.step moves
  frugal := onTrack.frugal.work moves
  stage := onTrack.stage.work moves

private theorem receive (onTrack : OnTrack settings route goal pursuit) (fits : goal.Fits route)
    (pending : pursuit.errand.isDone = false) {event : Event}
    (delivered : pursuit.engine.deliver? = some (event, engine)) :
    OnTrack settings route goal ({ pursuit with engine }.tell event.message) where
  aims := onTrack.aims
  upToDate := onTrack.upToDate.tell _
  within := by
    refine (onTrack.within.deliver delivered).1.issue fun request asked => ?_
    have step := pursuit.errand.session.tracker.update_report event.message_isReport
    obtain ⟨ticket, offset, limit, rfl⟩ := step.asks request (Effect.mem_asked.mp asked)
    exact .inr nofun
  frugal := onTrack.frugal.receive delivered
  stage := onTrack.stage_told fits pending delivered

private theorem tell_tick (onTrack : OnTrack settings route goal pursuit) :
    pursuit.tell .tick = pursuit := by
  simp [tell, onTrack.upToDate.tell_tick, Engine.issue]

private theorem step (onTrack : OnTrack settings route goal pursuit) (fits : goal.Fits route)
    (moves : pursuit.Step next) : OnTrack settings route goal next := by
  cases moves with
  | work moves => exact onTrack.work moves
  | receive pending delivered => exact onTrack.receive fits pending delivered
  | wait pending =>
    rw [onTrack.tell_tick]
    exact onTrack

end OnTrack

def firstRequests (route : Route) (goal : Goal) : List Request :=
  .datasets :: ((route.hash?.map .jobQuery).toList ++
    if goal.request?.isSome then (goal.question? route).toList else [])

private theorem start_engine (settings : PollSettings) (fits : goal.Fits route) :
    (start settings route goal).engine =
      Engine.idle.issue ((firstRequests route goal).map .ask) := by
  cases fits with
  | backend route => cases route <;> rfl
  | compile | submit | browse | watch => rfl

private theorem mem_firstRequests {request : Request} : request ∈ firstRequests route goal ↔
    request = .datasets ∨ (∃ hash, route.hash? = some hash ∧ .jobQuery hash = request) ∨
      goal.request?.isSome ∧ goal.question? route = some request := by
  simp [firstRequests]

private theorem question_first (fits : goal.Fits route) :
    ∃ request, goal.question? route = some request ∧ request ∈ firstRequests route goal := by
  cases fits with
  | backend | compile | submit => exact ⟨_, rfl, mem_firstRequests.mpr (.inr (.inr ⟨rfl, rfl⟩))⟩
  | browse => exact ⟨_, rfl, mem_firstRequests.mpr (.inl rfl)⟩
  | watch hash => exact ⟨_, rfl, mem_firstRequests.mpr (.inr (.inl ⟨hash, rfl, rfl⟩))⟩

private theorem allows_first {request : Request} (asked : request ∈ firstRequests route goal) :
    goal.Allows route request := by
  rcases mem_firstRequests.mp asked with rfl | ⟨hash, _, rfl⟩ | ⟨_, own⟩
  · exact .inr nofun
  · exact .inr nofun
  · exact .inl own

private theorem start_reached (settings : PollSettings) (fits : goal.Fits route) :
    ∃ history, System.Reaches settings history (start settings route goal).system ∧
      (Tracker.withSettings settings).opened history = 0 := by
  have mounted : System.Reaches settings _ ((System.new settings).tell (.mounted route)) :=
    .move .new (.tell _ rfl)
  cases fits with
  | backend route =>
    cases route <;> exact ⟨_, mounted.move (.tell .backendStatusRequested rfl), rfl⟩
  | compile rawQuery taint =>
    exact ⟨_, mounted.move (.tell (.compileRequested rawQuery taint) rfl), rfl⟩
  | submit rawQuery taint =>
    exact ⟨_, mounted.move (.tell (.submitRequested rawQuery taint) rfl), rfl⟩
  | browse | watch => exact ⟨_, mounted, rfl⟩

private theorem frugal_start (fits : goal.Fits route) :
    (start settings route goal).system.Frugal settings := by
  obtain ⟨history, reached, unopened⟩ := start_reached settings fits
  refine ⟨history, reached, ?_⟩
  have few : (firstRequests route goal).countP Request.mayOpen ≤ 1 := by
    cases fits with
    | backend route => cases route <;> exact Nat.le_of_ble_eq_true rfl
    | compile | submit | browse | watch => exact Nat.le_of_ble_eq_true rfl
  have asked : (start settings route goal).system.engine.openings =
      (firstRequests route goal).countP Request.mayOpen := by
    change (start settings route goal).engine.openings = _
    rw [start_engine settings fits, Engine.openings_issue, List.countP_map]
    exact Nat.zero_add _
  omega

private theorem onTrack_start (fits : goal.Fits route) :
    OnTrack settings route goal (start settings route goal) := by
  have engine := start_engine settings fits
  obtain ⟨request, question, first⟩ := question_first fits
  exact
    { aims := by rw [start, Errand.start_told]
      upToDate := Errand.upToDate_start settings route goal
      within := by
        rw [engine]
        refine (Engine.within_idle _).issue fun request asked => ?_
        obtain ⟨other, member, same⟩ := List.mem_map.mp asked
        cases same
        exact allows_first member
      frugal := frugal_start fits
      stage := by
        refine .asked question ?_ ?_
        · rw [engine]
          exact Engine.awaits_of_asked (List.mem_map_of_mem first)
        · cases fits <;> rfl }

private theorem onTrack (fits : goal.Fits route)
    (reached : Relation.ReflTransGen Step (start settings route goal) pursuit) :
    OnTrack settings route goal pursuit := by
  induction reached with
  | refl => exact onTrack_start fits
  | tail _ moves ih => exact ih.step fits moves

/-- The loop of a job that is open is carried on. -/
theorem OnTrack.polls (onTrack : OnTrack settings route goal pursuit)
    (opened : pursuit.errand.session.tracker.ticket.isSome) : pursuit.Polls := by
  obtain ⟨ticket, held⟩ := Option.isSome_iff_exists.mp opened
  have one := onTrack.frugal.paced.single ticket held
  exact ⟨ticket, held, Engine.single_of_load one⟩

private theorem OnTrack.outstanding (onTrack : OnTrack settings route goal pursuit)
    (unreached : goal.isReached pursuit.errand.session.tracker.view = false) :
    Outstanding route goal pursuit := by
  cases onTrack.stage with
  | reached done =>
    rw [done] at unreached
    cases unreached
  | asked question awaited jobHash => exact .inl ⟨_, question, awaited⟩
  | followed following opened last => exact .inr ⟨following, onTrack.polls opened⟩

/-- The goal is reached, or its job is followed. -/
def Resolved (goal : Goal) (pursuit : Pursuit) : Prop :=
  goal.isReached pursuit.errand.session.tracker.view = true ∨
    goal.isFollowing = true ∧ pursuit.errand.session.tracker.ticket.isSome

/-- Nothing is received any more once the goal is reached. -/
theorem OnTrack.errand_of_isReached (onTrack : OnTrack settings route goal pursuit)
    (done : goal.isReached pursuit.errand.session.tracker.view = true)
    (moves : pursuit.Step next) : next.errand = pursuit.errand := by
  have finished := onTrack.isDone.trans done
  cases moves with
  | work moves => rfl
  | receive pending | wait pending =>
    rw [finished] at pending
    cases pending

private theorem OnTrack.resolved_step (onTrack : OnTrack settings route goal pursuit)
    (resolved : pursuit.Resolved goal) (moves : pursuit.Step next) : next.Resolved goal := by
  rcases resolved with done | ⟨following, opened⟩
  · left
    rw [onTrack.errand_of_isReached done moves]
    exact done
  · cases moves with
    | work moves => exact .inr ⟨following, opened⟩
    | wait pending =>
      rw [onTrack.tell_tick]
      exact .inr ⟨following, opened⟩
    | receive pending delivered =>
      exact (followed_told following opened _ _).symm.imp_right (And.intro following)

/-- Whatever the answer is that a goal waits for first, it is not lost on the errand. A refusal is
the last word, unless a job is watched whose query could not be had. -/
theorem OnTrack.answered (onTrack : OnTrack settings route goal pursuit) (fits : goal.Fits route)
    (pending : pursuit.errand.isDone = false) {request : Request}
    (question : goal.question? route = some request) {result : Except Failure request.Answer}
    (delivered : pursuit.engine.deliver? = some (request.event result, engine)) :
    Resolved goal ({ pursuit with engine }.tell (request.event result).message) ∧
      ((request.event result).isRefusal = true →
        goal.isReached ({ pursuit with engine }.tell
          (request.event result).message).errand.session.tracker.view = true ∨ goal = .watch) := by
  cases onTrack.stage with
  | reached done =>
    rw [onTrack.isDone, done] at pending
    cases pending
  | asked _ awaited jobHash =>
    rcases fits.answered jobHash question result with done | ⟨opened, following, watching⟩
    · exact ⟨.inl done, fun _ => .inl done⟩
    · exact ⟨.inr ⟨following, opened⟩, fun refusal => .inr (watching refusal)⟩
  | followed following opened last =>
    have mayOpen := Goal.mayOpen_question following question
    rw [Engine.openings_deliver delivered, Request.mayOpen_event, mayOpen] at last
    cases last

/-- An errand never waits for nothing. While its goal is not reached, the answer that the goal waits
for first is on its way, or, where a job is followed, the one thing that carries its polling on.
From that answer on the goal is reached or its job polled; from a refusal on it is reached, or the
job is polled that is watched although its query could not be had. -/
theorem never_waits_for_nothing {host : Host Id} {options : Options}
    (chosen : (Program.goal host options route).run = .ok goal) (settings : PollSettings) :
    (∀ pursuit, Relation.ReflTransGen Step (start settings route goal) pursuit →
      goal.isReached pursuit.errand.session.tracker.view = false →
      Outstanding route goal pursuit) ∧
    ∀ pursuit request result engine later,
      Relation.ReflTransGen Step (start settings route goal) pursuit →
      pursuit.errand.isDone = false → goal.question? route = some request →
      pursuit.engine.deliver? = some (request.event result, engine) →
      Relation.ReflTransGen Step
        ({ pursuit with engine }.tell (request.event result).message) later →
      (goal.isReached later.errand.session.tracker.view = true ∨
        goal.isFollowing = true ∧ later.Polls) ∧
      ((request.event result).isRefusal = true →
        goal.isReached later.errand.session.tracker.view = true ∨
          goal = .watch ∧ later.errand.session.tracker.poll = .polling) := by
  have fits := Program.goal_fits chosen
  constructor
  · exact fun pursuit reached unreached => (onTrack fits reached).outstanding unreached
  · intro pursuit request result engine later reached pending question delivered steps
    have before := onTrack fits reached
    obtain ⟨resolved, refused⟩ := before.answered fits pending question delivered
    have told := before.receive fits pending delivered
    have along : OnTrack settings route goal later ∧ later.Resolved goal ∧
        ((request.event result).isRefusal = true →
          goal.isReached later.errand.session.tracker.view = true ∨ goal = .watch) := by
      induction steps with
      | refl => exact ⟨told, resolved, refused⟩
      | tail _ moves ih =>
        obtain ⟨kept, resolved, refused⟩ := ih
        refine ⟨kept.step fits moves, kept.resolved_step resolved moves, fun refusal => ?_⟩
        refine (refused refusal).imp_left fun done => ?_
        rw [kept.errand_of_isReached done moves]
        exact done
    obtain ⟨kept, resolved, refused⟩ := along
    refine ⟨resolved.imp_right (And.imp_right kept.polls), fun refusal => ?_⟩
    rcases refused refusal with done | watching
    · exact .inl done
    · exact resolved.imp_right fun ⟨_, opened⟩ =>
        ⟨watching, kept.frugal.coherent.polling.mpr opened⟩

/-- A job is watched, and the request for its query has failed. -/
def failedPursuit : Pursuit :=
  let started := start .default (.job ⟨"a"⟩) .watch
  { started with
    engine := started.engine.serve.serve.complete (.jobQuery ⟨"a"⟩) (.error ⟨.timeout, ""⟩) }

private theorem failedPursuit_reached :
    Relation.ReflTransGen Step (start .default (.job ⟨"a"⟩) .watch) failedPursuit := by
  have asked : Relation.ReflTransGen Step (start .default (.job ⟨"a"⟩) .watch) _ :=
    .tail (.single (.work (.serve (List.cons_ne_nil _ _)))) (.work (.serve (List.cons_ne_nil _ _)))
  exact asked.tail (.work (.complete (.tail _ (.head _)) _))

def toldPursuit : Pursuit :=
  { failedPursuit with engine := { failedPursuit.engine with events := [] } }.tell
    (Request.event (.jobQuery ⟨"a"⟩) (.error ⟨.timeout, ""⟩)).message

theorem never_waits_for_nothing_failed :
    (Program.goal (Program.quietHost "") {} (.job ⟨"a"⟩)).run = .ok .watch ∧
      Outstanding (.job ⟨"a"⟩) .watch failedPursuit ∧
      (Goal.watch.isReached toldPursuit.errand.session.tracker.view = true ∨
        Goal.watch.isFollowing = true ∧ toldPursuit.Polls) ∧
      (Goal.watch.isReached toldPursuit.errand.session.tracker.view = true ∨
        Goal.watch = .watch ∧ toldPursuit.errand.session.tracker.poll = .polling) := by
  have chosen : (Program.goal (Program.quietHost "") {} (.job ⟨"a"⟩)).run = .ok .watch := rfl
  obtain ⟨busy, answered⟩ := never_waits_for_nothing chosen .default
  have told := answered failedPursuit (.jobQuery ⟨"a"⟩) (.error ⟨.timeout, ""⟩) _ toldPursuit
    failedPursuit_reached rfl rfl rfl .refl
  exact ⟨chosen, busy failedPursuit failedPursuit_reached rfl, told.1, told.2 rfl⟩

end Pursuit

end ScanWatch
