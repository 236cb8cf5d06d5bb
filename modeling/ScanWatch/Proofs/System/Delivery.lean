import Mathlib.Data.List.Infix
import ScanWatch.Proofs.System.Pace

namespace ScanWatch

structure Listing where
  items : List Match
  status : JobStatus

/-- A page shows at most `limit` consecutive matches from `offset` on, and some of them when there
are any, with the status of the same moment. -/
structure Listing.Shows (listing : Listing) (offset limit : Nat) (page : MatchPage) : Prop where
  consecutive : page.items <+: listing.items.drop offset
  bounded : page.items.length ≤ limit
  progress : 1 ≤ limit → offset < listing.items.length → page.items ≠ []
  status : page.job.status = listing.status

/-- What a backend holds of every job, moment by moment. Matches are only ever added at the end,
and none once the job has been in a terminal status. -/
structure Backend where
  listing : Nat → JobHash → Listing
  appended : ∀ {earlier later : Nat}, earlier ≤ later → ∀ hash,
    (listing earlier hash).items <+: (listing later hash).items
  settled : ∀ {earlier later : Nat}, earlier ≤ later → ∀ hash,
    (listing earlier hash).status.isTerminal = true →
      (listing later hash).items = (listing earlier hash).items

namespace Backend

/-- The answers that may arrive at a moment. A page shows the job as it was at that moment or
earlier; any request may fail, and other answers are free. -/
def Answers (backend : Backend) (moment : Nat) : Answering
  | .page ticket offset limit, .ok page =>
    ∃ earlier ≤ moment, (backend.listing earlier ticket.hash).Shows offset limit page
  | _, _ => True

/-- Runs of a system before a backend, while time goes by. -/
inductive Run (backend : Backend) (settings : PollSettings) :
    Nat → List Tracker.Act → System → Prop where
  | new (moment : Nat) : Run backend settings moment [] (.new settings)
  | pass {moment later : Nat} {history : List Tracker.Act} {system : System}
      (run : Run backend settings moment history system) (passed : moment ≤ later) :
      Run backend settings later history system
  | move {moment : Nat} {history acts : List Tracker.Act} {system next : System}
      (run : Run backend settings moment history system)
      (moves : system.Moves (backend.Answers moment) acts next) :
      Run backend settings moment (history ++ acts) next

private theorem Run.reaches {backend : Backend} {settings : PollSettings} {moment : Nat}
    {history : List Tracker.Act} {system : System}
    (run : backend.Run settings moment history system) : System.Reaches settings history system := by
  induction run with
  | new moment => exact .new
  | pass run passed ih => exact ih
  | move run moves ih => exact ih.move (moves.weaken fun _ _ _ => trivial)

variable {backend : Backend} {moment earlier : Nat} {hash : JobHash} {found : List Match}
  {limit : Nat} {page : MatchPage}

/-- A page asked for at the end of what was found continues it. -/
theorem extended (known : found <+: (backend.listing moment hash).items)
    (past : earlier ≤ moment)
    (seen : (backend.listing earlier hash).Shows found.length limit page) :
    found ++ page.items <+: (backend.listing moment hash).items := by
  have rest := seen.consecutive.trans (List.IsPrefix.drop (backend.appended past hash) found.length)
  have whole := (List.prefix_append_right_inj found).mpr rest
  rwa [List.prefix_iff_eq_append.mp known] at whole

/-- An empty page of a job in a terminal status means that everything was found. -/
theorem drained (known : found <+: (backend.listing moment hash).items)
    (past : earlier ≤ moment)
    (seen : (backend.listing earlier hash).Shows found.length limit page)
    (positive : 1 ≤ limit) (empty : page.items = [])
    (terminal : page.job.status.isTerminal = true) :
    (backend.listing earlier hash).status.isTerminal = true ∧
      found = (backend.listing earlier hash).items := by
  rw [seen.status] at terminal
  have all : (backend.listing earlier hash).items.length ≤ found.length :=
    Nat.le_of_not_lt fun more => seen.progress positive more empty
  rw [backend.settled past hash terminal] at known
  exact ⟨terminal, known.eq_of_length_le all⟩

end Backend

/-- How far a tracker has come with what a backend holds, and what the engine still carries for
its loop. -/
structure Delivering (backend : Backend) (moment : Nat) (tracker : Tracker) (engine : Engine) :
    Prop where
  found : ∀ ticket, tracker.ticket = some ticket →
    tracker.found <+: (backend.listing moment ticket.hash).items
  asked : ∀ ticket offset limit, tracker.ticket = some ticket →
    .ask (.page ticket offset limit) ∈ engine.commands ∨
      .page ticket offset limit ∈ engine.running →
    offset = tracker.found.length ∧ limit = tracker.settings.pageSize.toNat
  answered : ∀ ticket page, tracker.ticket = some ticket →
    .matchesLoaded ticket (.ok page) ∈ engine.events →
    ∃ earlier ≤ moment, (backend.listing earlier ticket.hash).Shows tracker.found.length
      tracker.settings.pageSize.toNat page
  whole : tracker.poll = .finished → ∀ hash, tracker.jobHash = some hash →
    ∃ earlier ≤ moment, (backend.listing earlier hash).status.isTerminal = true ∧
      tracker.found = (backend.listing earlier hash).items

namespace Delivering

variable {backend : Backend} {moment : Nat} {tracker next : Tracker} {engine before : Engine}

private theorem new (backend : Backend) (moment : Nat) (settings : PollSettings) :
    Delivering backend moment (.withSettings settings) .idle where
  found ticket held := by cases held
  asked ticket offset limit held := by cases held
  answered ticket page held := by cases held
  whole finished := by cases finished

private theorem pass (delivering : Delivering backend moment tracker engine) {later : Nat}
    (passed : moment ≤ later) : Delivering backend later tracker engine where
  found ticket held := (delivering.found ticket held).trans (backend.appended passed ticket.hash)
  asked := delivering.asked
  answered ticket page held member := by
    obtain ⟨earlier, past, seen⟩ := delivering.answered ticket page held member
    exact ⟨earlier, past.trans passed, seen⟩
  whole finished hash viewed := by
    obtain ⟨earlier, past, complete⟩ := delivering.whole finished hash viewed
    exact ⟨earlier, past.trans passed, complete⟩

private theorem serve (delivering : Delivering backend moment tracker engine) :
    Delivering backend moment tracker engine.serve where
  found := delivering.found
  asked ticket offset limit held member :=
    delivering.asked ticket offset limit held (Engine.asked_serve member)
  answered ticket page held member :=
    delivering.answered ticket page held (Engine.events_serve engine ▸ member)
  whole := delivering.whole

private theorem complete (delivering : Delivering backend moment tracker engine) {request : Request}
    (running : request ∈ engine.running) {result : Except Failure request.Answer}
    (allowed : backend.Answers moment request result) :
    Delivering backend moment tracker (engine.complete request result) where
  found := delivering.found
  asked ticket offset limit held member :=
    delivering.asked ticket offset limit held (member.imp_right List.mem_of_mem_erase)
  answered ticket page held member := by
    rcases List.mem_append.mp member with old | new
    · exact delivering.answered ticket page held old
    · cases request with
      | page other offset limit =>
        cases List.mem_singleton.mp new
        obtain ⟨rfl, rfl⟩ := delivering.asked ticket offset limit held (.inr running)
        exact allowed
      | datasets | jobQuery | compile | submit | backendStatus =>
        cases List.mem_singleton.mp new
  whole := delivering.whole

private theorem expire (delivering : Delivering backend moment tracker engine) (index : Nat) :
    Delivering backend moment tracker (engine.expire index) := by
  unfold Engine.expire
  split
  · refine ⟨delivering.found, delivering.asked, fun ticket page held member => ?_,
      delivering.whole⟩
    rcases List.mem_append.mp member with old | new
    · exact delivering.answered ticket page held old
    · cases List.mem_singleton.mp new
  · exact delivering

variable {message : Message} {effects : List Effect}

private theorem kept (delivering : Delivering backend moment tracker before)
    (coherent : tracker.Coherent) (heard : before.Hands message engine)
    (same : next.SameLoop tracker)
    (quiet : ∀ effect ∈ effects, effect.ticket? = none ∧ effect ≠ .cancelPoll) :
    Delivering backend moment next (engine.issue (effects.filterMap Effect.command?)) := by
  have found_same : tracker.jobHash.isSome → next.found = tracker.found := by
    intro viewed
    rcases same.found with found | unlocked
    · exact found
    · rw [unlocked] at viewed
      cases viewed
  have current : ∀ ticket, next.ticket = some ticket →
      tracker.ticket = some ticket ∧ next.found = tracker.found := by
    intro ticket held
    rw [same.ticket] at held
    refine ⟨held, found_same ?_⟩
    rw [(coherent.current ticket held).1]
    rfl
  refine ⟨fun ticket held => ?_, fun ticket offset limit held member => ?_,
    fun ticket page held member => ?_, fun finished hash viewed => ?_⟩
  · obtain ⟨old, found⟩ := current ticket held
    rw [found]
    exact delivering.found ticket old
  · obtain ⟨old, found⟩ := current ticket held
    rw [found, same.settings]
    apply delivering.asked ticket offset limit old
    rw [← heard.commands, ← heard.running]
    refine member.imp_left fun queued => ?_
    rcases Engine.asked_issue.mp queued with earlier | issued
    · exact earlier
    · cases (quiet _ issued).1
  · obtain ⟨old, found⟩ := current ticket held
    rw [found, same.settings]
    exact delivering.answered ticket page old (heard.events _ member)
  · rw [same.poll] at finished
    rw [same.jobHash] at viewed
    rw [found_same (by rw [viewed]; rfl)]
    exact delivering.whole finished hash viewed

private theorem released (ticket : next.ticket = none)
    (whole : next.poll = .finished → ∀ hash, next.jobHash = some hash →
      ∃ earlier ≤ moment, (backend.listing earlier hash).status.isTerminal = true ∧
        next.found = (backend.listing earlier hash).items) :
    Delivering backend moment next engine := by
  refine ⟨fun other held => ?_, fun other offset limit held => ?_,
    fun other page held => ?_, whole⟩
  all_goals
    rw [ticket] at held
    cases held

private theorem opened (paced : Paced tracker before) (heard : before.Hands message engine)
    (hash : JobHash) (ticket : next.ticket = some (tracker.nextTicket hash))
    (settings : next.settings = tracker.settings) (poll : next.poll = .polling)
    (found : next.found = []) (room : tracker.lastEpoch.toNat + 1 < UInt64.size) :
    Delivering backend moment next (engine.issue
      ((.navigate (.job hash) :: (tracker.cancellation ++ [tracker.firstPage hash])).filterMap
        Effect.command?)) := by
  have fresh : engine.load (tracker.nextTicket hash) = 0 :=
    heard.nothing (paced.known _ (by rw [Tracker.nextTicket_epoch tracker hash room]; omega))
  refine ⟨fun other held => ?_, fun other offset limit held member => ?_,
    fun other page held member => ?_, fun finished => ?_⟩
  · rw [found]
    exact List.nil_prefix
  · obtain rfl := Option.some.inj (ticket.symm.trans held)
    have issued := Engine.asked_of_idle fresh member
    simp only [List.mem_cons, List.mem_append, Tracker.mem_cancellation, Tracker.firstPage,
      reduceCtorEq, and_false, false_or, Effect.ask.injEq, Request.page.injEq, true_and,
      List.not_mem_nil, or_false] at issued
    rw [found, settings]
    exact issued
  · obtain rfl := Option.some.inj (ticket.symm.trans held)
    have queued : .matchesLoaded _ (.ok page) ∈ engine.events := member
    exact absurd queued (Engine.unanswered_of_load fresh)
  · rw [poll] at finished
    cases finished

private theorem due {ticket : PollTicket} (delivering : Delivering backend moment tracker before)
    (heard : before.Hands message engine) :
    Delivering backend moment tracker (engine.issue
      ([.ask (.page ticket tracker.found.length tracker.settings.pageSize.toNat)].filterMap
        Effect.command?)) := by
  refine ⟨delivering.found, fun other offset limit held member => ?_,
    fun other page held member => delivering.answered other page held (heard.events _ member),
    delivering.whole⟩
  rcases member with queued | running
  · rcases Engine.asked_issue.mp queued with earlier | issued
    · exact delivering.asked other offset limit held (.inl (heard.commands ▸ earlier))
    · simp only [List.mem_singleton, Effect.ask.injEq, Request.page.injEq] at issued
      exact issued.2
  · exact delivering.asked other offset limit held (.inr (heard.running ▸ running))

private theorem continued {ticket : PollTicket} {page : MatchPage} {delay : UInt64}
    (delivering : Delivering backend moment tracker before) (coherent : tracker.Coherent)
    (paced : Paced tracker before) (current : tracker.ticket = some ticket)
    (heard : before.Hands (.matchesLoaded ticket page) engine) :
    Delivering backend moment (tracker.applyPage page)
      (engine.issue ([.schedulePoll ticket delay].filterMap Effect.command?)) := by
  have idle := heard.spent rfl (paced.single ticket current)
  refine ⟨fun other held => ?_, fun other offset limit held member => ?_,
    fun other page held member => ?_, fun finished => ?_⟩
  · obtain rfl := Option.some.inj (current.symm.trans held)
    obtain ⟨earlier, past, seen⟩ :=
      delivering.answered ticket page current (heard.loaded ticket page rfl)
    exact Backend.extended (delivering.found ticket current) past seen
  · obtain rfl := Option.some.inj (current.symm.trans held)
    cases List.mem_singleton.mp (Engine.asked_of_idle idle member)
  · obtain rfl := Option.some.inj (current.symm.trans held)
    have queued : .matchesLoaded ticket (.ok page) ∈ engine.events := member
    exact absurd queued (Engine.unanswered_of_load idle)
  · have polling := coherent.polling.mpr (by rw [current]; rfl)
    rw [show tracker.poll = .finished from finished] at polling
    cases polling

private theorem finished {ticket : PollTicket} {page : MatchPage}
    (delivering : Delivering backend moment tracker before) (coherent : tracker.Coherent)
    (positive : 1 ≤ tracker.settings.pageSize) (current : tracker.ticket = some ticket)
    (heard : before.Hands (.matchesLoaded ticket page) engine)
    (terminal : page.job.status.isTerminal = true) (empty : page.items = []) :
    ∃ earlier ≤ moment, (backend.listing earlier ticket.hash).status.isTerminal = true ∧
      (tracker.applyPage page).finishPolling.found = (backend.listing earlier ticket.hash).items ∧
      (tracker.applyPage page).finishPolling.jobHash = some ticket.hash := by
  obtain ⟨earlier, past, seen⟩ :=
    delivering.answered ticket page current (heard.loaded ticket page rfl)
  obtain ⟨ended, all⟩ :=
    Backend.drained (delivering.found ticket current) past seen positive empty terminal
  refine ⟨earlier, past, ended, ?_, (coherent.current ticket current).1⟩
  rw [← all]
  simp [Tracker.finishPolling, Tracker.applyPage, empty]

/-- A tracker is told a message that the engine handed over, or that comes from the user. -/
theorem told (delivering : Delivering backend moment tracker before)
    (coherent : tracker.Coherent) (positive : 1 ≤ tracker.settings.pageSize)
    (paced : Paced tracker before) (heard : before.Hands message engine)
    (step : tracker.LoopStep message next effects)
    (room : (tracker.opening? message).isSome → tracker.lastEpoch.toNat + 1 < UInt64.size) :
    Delivering backend moment next (engine.issue (effects.filterMap Effect.command?)) := by
  cases step with
  | kept stale unopened same quiet => exact delivering.kept coherent heard same quiet
  | closed free unopened ticket lastEpoch settings ended quiet cancels =>
    refine released ticket fun finished hash viewed => ?_
    rcases ended with idle | ⟨left, _⟩
    · rw [idle] at finished
      cases finished
    · rw [left] at viewed
      cases viewed
  | opened hash free opening ticket lastEpoch settings jobHash poll found =>
    exact opened paced heard hash ticket settings poll found (room (by simp [opening]))
  | asked current => exact delivering.due heard
  | continued current again => exact delivering.continued coherent paced current heard
  | finished current terminal empty =>
    obtain ⟨earlier, past, ended, all, viewed⟩ :=
      delivering.finished coherent positive current heard terminal empty
    refine released rfl fun _ hash same => ?_
    obtain rfl := Option.some.inj (viewed.symm.trans same)
    exact ⟨earlier, past, ended, all⟩
  | stalled reason current => exact released rfl fun finished => by cases finished

private theorem look (delivering : Delivering backend moment tracker engine) :
    Delivering backend moment tracker.consumeDirty.2 engine :=
  ⟨delivering.found, delivering.asked, delivering.answered, delivering.whole⟩

end Delivering

private theorem Tracker.LoopStep.finishes {tracker next : Tracker} {message : Message}
    {effects : List Effect} (step : tracker.LoopStep message next effects)
    (before : tracker.poll ≠ .finished) (after : next.poll = .finished) :
    ∃ ticket page, message = .matchesLoaded ticket page ∧ tracker.ticket = some ticket ∧
      next.jobHash = tracker.jobHash := by
  cases step with
  | kept stale unopened same quiet => exact absurd (same.poll.symm.trans after) before
  | closed free unopened ticket lastEpoch settings ended quiet cancels =>
    rcases ended with idle | ⟨_, same⟩
    · rw [idle] at after
      cases after
    · exact absurd (same.symm.trans after) before
  | opened hash free opening ticket lastEpoch settings jobHash poll found =>
    rw [poll] at after
    cases after
  | asked current | continued current again => exact absurd after before
  | finished current terminal empty => exact ⟨_, _, rfl, current, rfl⟩
  | stalled reason current => cases after

namespace Backend

variable {backend : Backend} {settings : PollSettings} {moment : Nat}
  {history acts : List Tracker.Act} {system next : System}

private theorem Run.delivering (run : backend.Run settings moment history system)
    (few : (Tracker.withSettings settings).opened history < UInt64.size) :
    Delivering backend moment system.session.tracker system.engine := by
  induction run with
  | new moment => exact .new backend moment settings
  | pass run passed ih => exact (ih few).pass passed
  | move run moves ih =>
    have earlier : (Tracker.withSettings settings).opened _ < UInt64.size :=
      Nat.lt_of_le_of_lt (Nat.le_add_right ..) (Tracker.opened_append .. ▸ few)
    have delivering := ih earlier
    have reached := run.reaches
    have paced := reached.paced earlier
    have positive := reached.positive
    cases moves with
    | serve pending => exact delivering.serve
    | complete running result allowed => exact delivering.complete running allowed
    | expire found live => exact delivering.expire _
    | receive delivered =>
      exact (delivering.told reached.coherent positive paced (.delivered delivered)
        (Tracker.update_step _ _) (reached.room few)).look
    | tell message free =>
      exact (delivering.told reached.coherent positive paced (.user _ free)
        (Tracker.update_step _ message) (reached.room few)).look

/-- What was found of a finished job stays all there is. -/
theorem Run.whole (run : backend.Run settings moment history system)
    (few : (Tracker.withSettings settings).opened history < UInt64.size) {hash : JobHash}
    (finished : system.session.tracker.poll = .finished)
    (viewed : system.session.tracker.jobHash = some hash) {later : Nat} (passed : moment ≤ later) :
    system.session.tracker.found = (backend.listing later hash).items := by
  obtain ⟨earlier, past, ended, all⟩ := (run.delivering few).whole finished hash viewed
  rw [all, backend.settled (past.trans passed) hash ended]

private theorem finishing_step (moves : system.Moves (backend.Answers moment) acts next)
    (before : system.session.tracker.poll ≠ .finished)
    (after : next.session.tracker.poll = .finished) :
    system.session.tracker.opened acts = 0 ∧
      ∃ ticket, system.session.tracker.ticket = some ticket ∧
        next.session.tracker.jobHash = system.session.tracker.jobHash := by
  cases moves with
  | serve | complete | expire => exact absurd after before
  | receive delivered =>
    obtain ⟨ticket, page, loaded, current, same⟩ :=
      (Tracker.update_step system.session.tracker _).finishes before after
    rw [loaded]
    exact ⟨rfl, ticket, current, by rw [← same, ← loaded]; rfl⟩
  | tell message free =>
    obtain ⟨ticket, page, loaded, current, same⟩ :=
      (Tracker.update_step system.session.tracker message).finishes before after
    exact ⟨by rw [loaded]; rfl, ticket, current, same⟩

/-- While the epochs last, no match is lost, doubled or put out of order from the backend to the
tracker: what was found for the current loop begins the list of its job, and what was found of a
finished job is its list, then and ever after. -/
theorem Run.no_match_lost (run : backend.Run settings moment history system)
    (few : (Tracker.withSettings settings).opened history < UInt64.size) :
    (∀ ticket, system.session.tracker.ticket = some ticket →
      system.session.tracker.found <+: (backend.listing moment ticket.hash).items) ∧
    (∀ hash later, system.session.tracker.poll = .finished →
      system.session.tracker.jobHash = some hash → moment ≤ later →
      system.session.tracker.found = (backend.listing later hash).items) ∧
    ∀ acts next, system.Moves (backend.Answers moment) acts next →
      system.session.tracker.poll ≠ .finished → next.session.tracker.poll = .finished →
      ∃ ticket, system.session.tracker.ticket = some ticket ∧
        next.session.tracker.jobHash = some ticket.hash ∧
        ∀ later, moment ≤ later →
          next.session.tracker.found = (backend.listing later ticket.hash).items := by
  refine ⟨(run.delivering few).found, fun hash later finished viewed passed =>
    run.whole few finished viewed passed, fun acts next moves before after => ?_⟩
  obtain ⟨none, ticket, current, same⟩ := finishing_step moves before after
  rw [(run.reaches.coherent.current ticket current).1] at same
  -- The step opens no loop, so the epochs still last after it.
  have still : (Tracker.withSettings settings).opened (history ++ acts) < UInt64.size := by
    rw [Tracker.opened_append, ← run.reaches.tracker, none]
    exact few
  exact ⟨ticket, current, same, fun later passed =>
    (run.move moves).whole still after same passed⟩

/-- A backend that finds one match, and is done with the job a moment later. -/
def slowBackend : Backend where
  listing moment _ :=
    ⟨if moment = 0 then [] else [.null], if moment ≤ 1 then .processing else .done⟩
  appended {earlier later} passed hash := by
    rcases Nat.eq_zero_or_pos earlier with rfl | positive
    · exact List.nil_prefix
    · simp [Nat.pos_iff_ne_zero.mp positive,
        Nat.pos_iff_ne_zero.mp (Nat.lt_of_lt_of_le positive passed)]
  settled {earlier later} passed hash ended := by
    have late : ¬earlier ≤ 1 := by
      intro running
      simp [running, JobStatus.isTerminal] at ended
    have started : earlier ≠ 0 ∧ later ≠ 0 := by omega
    simp [started.1, started.2]

def askingOnSystem : System :=
  let waiting := System.waitingSystem
  let due := System.tell
    { waiting with engine := { waiting.engine.expire 0 with events := [] } }
    (.pollDue ⟨⟨"a"⟩, 1⟩)
  { due with engine := due.engine.serve }

def lastPageSystem : System :=
  { askingOnSystem with
    engine := askingOnSystem.engine.complete (.page ⟨⟨"a"⟩, 1⟩ 1 50) (.ok ⟨[], .ofStatus .done⟩) }

def drainedSystem : System :=
  System.tell { lastPageSystem with engine := { lastPageSystem.engine with events := [] } }
    (.matchesLoaded ⟨⟨"a"⟩, 1⟩ ⟨[], .ofStatus .done⟩)

def lastPageRun : List Tracker.Act :=
  System.waitingRun ++ [.tell (.pollDue ⟨⟨"a"⟩, 1⟩), .look]

private theorem waitingSystem_run :
    slowBackend.Run .default 1 System.waitingRun System.waitingSystem := by
  have asking : slowBackend.Run .default 0 _ System.askingSystem :=
    .move (.move (.new 0) (.tell (.jobChosen (some ⟨"a"⟩) none) rfl))
      (.serve (List.cons_ne_nil _ _))
  have running : .page ⟨⟨"a"⟩, 1⟩ 0 50 ∈ System.askingSystem.engine.running :=
    List.mem_singleton_self _
  have seen : (slowBackend.listing 1 ⟨"a"⟩).Shows 0 50 ⟨[.null], .ofStatus .processing⟩ :=
    ⟨List.prefix_refl _, by decide, fun _ _ => List.cons_ne_nil _ _, rfl⟩
  have answered := (asking.pass (Nat.zero_le 1)).move
    (.complete running (.ok ⟨[.null], .ofStatus .processing⟩) ⟨1, Nat.le_refl 1, seen⟩)
  have told := answered.move (.receive rfl)
  exact told.move (.serve (List.cons_ne_nil _ _))

private theorem lastPageSystem_run : slowBackend.Run .default 2 lastPageRun lastPageSystem := by
  have timer : System.waitingSystem.engine.timers.started[0]? =
      some ⟨⟨⟨"a"⟩, 1⟩, 1000, .live⟩ := rfl
  have due := (waitingSystem_run.pass (Nat.le_succ 1)).move (.expire timer rfl)
  have asking : slowBackend.Run .default 2 lastPageRun askingOnSystem :=
    (due.move (.receive rfl)).move (.serve (List.cons_ne_nil _ _))
  have running : .page ⟨⟨"a"⟩, 1⟩ 1 50 ∈ askingOnSystem.engine.running :=
    List.mem_singleton_self _
  have seen : (slowBackend.listing 2 ⟨"a"⟩).Shows 1 50 ⟨[], .ofStatus .done⟩ :=
    ⟨List.nil_prefix, by decide, fun _ more => absurd more (Nat.lt_irrefl 1), rfl⟩
  exact asking.move (.complete running (.ok ⟨[], .ofStatus .done⟩) ⟨2, Nat.le_refl 2, seen⟩)

private theorem drainedSystem_moves : lastPageSystem.Moves (slowBackend.Answers 2)
    [.tell (.matchesLoaded ⟨⟨"a"⟩, 1⟩ ⟨[], .ofStatus .done⟩), .look] drainedSystem := by
  have delivered : lastPageSystem.engine.deliver? = some
      (.matchesLoaded ⟨⟨"a"⟩, 1⟩ (.ok ⟨[], .ofStatus .done⟩),
        { lastPageSystem.engine with events := [] }) := rfl
  exact .receive delivered

theorem no_match_lost_drained :
    slowBackend.Run .default 2 lastPageRun lastPageSystem ∧
      (Tracker.withSettings .default).opened lastPageRun < UInt64.size ∧
      lastPageSystem.session.tracker.found <+: (slowBackend.listing 2 ⟨"a"⟩).items ∧
      drainedSystem.session.tracker.poll = .finished ∧
      ∃ ticket, lastPageSystem.session.tracker.ticket = some ticket ∧
        drainedSystem.session.tracker.jobHash = some ticket.hash ∧
        ∀ later, 2 ≤ later →
          drainedSystem.session.tracker.found = (slowBackend.listing later ticket.hash).items := by
  have few : (Tracker.withSettings .default).opened lastPageRun < UInt64.size := by decide
  obtain ⟨found, _, drained⟩ := lastPageSystem_run.no_match_lost few
  exact ⟨lastPageSystem_run, few, found ⟨⟨"a"⟩, 1⟩ rfl, rfl,
    drained _ drainedSystem drainedSystem_moves nofun rfl⟩

end Backend

end ScanWatch
