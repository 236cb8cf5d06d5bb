import Mathlib.Algebra.Order.Floor.Div
import ScanWatch.Proofs.Payload.Job
import ScanWatch.Proofs.Tracker.Step

namespace ScanWatch

def PollSettings.limit (settings : PollSettings) : Nat :=
  max 1 settings.pageSize.toNat

def Effect.delay? : Effect → Option UInt64
  | .schedulePoll _ delay => some delay
  | .navigate _ | .ask _ | .cancelPoll => none

/-- An effect that neither asks for anything nor begins a delay. -/
structure Effect.IsQuiet (effect : Effect) : Prop where
  unasked : effect.asked? = none
  undelayed : effect.delay? = none

/-- The matches of a job, and the job as it is sent with a page, by how many requests there were
before. -/
structure Archive where
  items : List Match
  job : Nat → JobRecord

namespace Archive

def page (archive : Archive) (before offset limit : Nat) : MatchPage :=
  ⟨(archive.items.drop offset).take limit, archive.job before⟩

/-- What a tracker is told once an effect was carried out: a page was brought, or a delay is over. -/
def reply? (archive : Archive) (before : Nat) : Effect → Option Message
  | .ask (.page ticket offset limit) =>
    some (.matchesLoaded ticket (archive.page before offset limit))
  | .schedulePoll ticket _ => some (.pollDue ticket)
  | _ => none

/-- How many pages hold matches. -/
def pages (archive : Archive) (settings : PollSettings) : Nat :=
  archive.items.length ⌈/⌉ settings.limit

def delay (archive : Archive) (settings : PollSettings) (number : Nat) : UInt64 :=
  if (number + 1) * settings.limit ≤ archive.items.length then settings.shortDelay
  else settings.longDelay

/-- A page that holds matches is asked for, and the next one is waited for. -/
def round (archive : Archive) (settings : PollSettings) (ticket : PollTicket) (number : Nat) :
    List Effect :=
  [.ask (.page ticket (number * settings.limit) settings.limit),
    .schedulePoll ticket (archive.delay settings number)]

def rounds (archive : Archive) (settings : PollSettings) (ticket : PollTicket) (count : Nat) :
    List Effect :=
  (List.range count).flatMap (archive.round settings ticket)

end Archive

/-- A tracker before an archive, with the effects that were carried out and those that are left. -/
structure Drain where
  tracker : Tracker
  carried : List Effect
  left : List Effect

structure Tracker.Polls (tracker : Tracker) (ticket : PollTicket) : Prop where
  current : tracker.ticket = some ticket
  poll : tracker.poll = .polling

namespace Drain

def choosing (tracker : Tracker) (hash : JobHash) (rawQuery : Option String) : Drain :=
  let chosen := tracker.update (.jobChosen (some hash) rawQuery)
  ⟨chosen.1, [], chosen.2⟩

def requests (drain : Drain) : List Request :=
  drain.carried.filterMap Effect.asked?

def delays (drain : Drain) : List UInt64 :=
  drain.carried.filterMap Effect.delay?

/-- Carries out the next effect, and tells the tracker what came of it. -/
def step (archive : Archive) (drain : Drain) : Drain :=
  match drain.left with
  | [] => drain
  | effect :: rest =>
    match archive.reply? drain.requests.length effect with
    | none => ⟨drain.tracker, drain.carried ++ [effect], rest⟩
    | some message =>
      ⟨(drain.tracker.update message).1, drain.carried ++ [effect],
        rest ++ (drain.tracker.update message).2⟩

/-- Step by step one comes from a drain to another; up to there the loop polls. -/
def Leads (archive : Archive) (ticket : PollTicket) (drain last : Drain) : Prop :=
  ∃ turns, (step archive)^[turns] drain = last ∧
    ∀ earlier < turns, ((step archive)^[earlier] drain).tracker.Polls ticket

/-- Nothing is left to be done: the matches were asked for page by page, then those past the last
one; all were found, and the loop is ended. -/
structure Drained (archive : Archive) (settings : PollSettings) (ticket : PollTicket)
    (before : List Effect) (drain : Drain) : Prop where
  spent : drain.left = []
  carried : drain.carried = before ++ archive.rounds settings ticket (archive.pages settings) ++
    [.ask (.page ticket archive.items.length settings.limit)]
  requests : drain.requests =
    ((List.range (archive.pages settings)).map (· * settings.limit) ++ [archive.items.length]).map
      fun offset => .page ticket offset settings.limit
  delays : drain.delays =
    List.replicate (archive.items.length / settings.limit) settings.shortDelay ++
      if settings.limit ∣ archive.items.length then [] else [settings.longDelay]
  ended : drain.tracker.ticket = none
  poll : drain.tracker.poll = .finished
  found : drain.tracker.found = archive.items
  job : drain.tracker.job = some (archive.job (archive.pages settings))

end Drain

namespace PollSettings

private theorem limit_pos (settings : PollSettings) : 0 < settings.limit :=
  Nat.le_max_left ..

private theorem toNat_pageSize_raised (settings : PollSettings) :
    settings.raised.pageSize.toNat = settings.limit := by
  change (ite (settings.pageSize ≤ 1) 1 settings.pageSize).toNat = max 1 settings.pageSize.toNat
  split
  · next small => exact (Nat.max_eq_left (UInt64.le_iff_toNat_le.mp small)).symm
  · next more =>
    have large : 1 < settings.pageSize.toNat := UInt64.lt_iff_toNat_lt.mp (UInt64.not_le.mp more)
    exact (Nat.max_eq_right large.le).symm

end PollSettings

namespace Archive

variable (archive : Archive) (settings : PollSettings) (ticket : PollTicket)

private theorem pages_le_iff (count : Nat) :
    archive.pages settings ≤ count ↔ archive.items.length ≤ count * settings.limit := by
  rw [pages, ceilDiv_le_iff_le_mul settings.limit_pos, Nat.mul_comm]

/-- The pages that hold matches are full, but for one that is cut short. -/
theorem pages_eq :
    archive.pages settings = archive.items.length / settings.limit +
      if settings.limit ∣ archive.items.length then 0 else 1 := by
  have positive : 0 < settings.limit := settings.limit_pos
  have enough : archive.items.length ≤ archive.pages settings * settings.limit :=
    (archive.pages_le_iff settings _).mp le_rfl
  by_cases whole : settings.limit ∣ archive.items.length
  · rw [if_pos whole, Nat.add_zero]
    apply le_antisymm
    · rw [pages_le_iff, Nat.div_mul_cancel whole]
    · exact Nat.div_le_of_le_mul (by rwa [Nat.mul_comm])
  · rw [if_neg whole]
    apply le_antisymm
    · rw [pages_le_iff, Nat.mul_comm]
      exact (Nat.lt_mul_div_succ _ positive).le
    · have uneven : archive.items.length ≠ archive.pages settings * settings.limit := by
        intro same
        exact whole ⟨_, same.trans (Nat.mul_comm ..)⟩
      apply Nat.div_lt_of_lt_mul
      rw [Nat.mul_comm]
      exact lt_of_le_of_ne enough uneven

private theorem rounds_succ (count : Nat) :
    archive.rounds settings ticket (count + 1) =
      archive.rounds settings ticket count ++ archive.round settings ticket count := by
  rw [rounds, List.range_succ, List.flatMap_append, List.flatMap_singleton]
  rfl

private theorem filterMap_rounds {Item : Type} {read : Effect → Option Item} {item : Nat → Item}
    (single : ∀ number, (archive.round settings ticket number).filterMap read = [item number])
    (count : Nat) :
    (archive.rounds settings ticket count).filterMap read = (List.range count).map item := by
  induction count with
  | zero => rfl
  | succ count ih =>
    rw [rounds_succ, List.filterMap_append, ih, single, List.range_succ, List.map_append]
    rfl

private theorem asked_rounds (count : Nat) :
    (archive.rounds settings ticket count).filterMap Effect.asked? =
      (List.range count).map fun number =>
        .page ticket (number * settings.limit) settings.limit :=
  archive.filterMap_rounds settings ticket (fun _ => rfl) count

private theorem delays_rounds :
    (archive.rounds settings ticket (archive.pages settings)).filterMap Effect.delay? =
      List.replicate (archive.items.length / settings.limit) settings.shortDelay ++
        if settings.limit ∣ archive.items.length then [] else [settings.longDelay] := by
  rw [archive.filterMap_rounds settings ticket (fun _ => rfl), pages_eq]
  have full : (List.range (archive.items.length / settings.limit)).map (archive.delay settings) =
      List.replicate (archive.items.length / settings.limit) settings.shortDelay := by
    rw [List.map_eq_replicate_iff.mpr, List.length_range]
    intro number member
    apply if_pos
    exact (Nat.le_div_iff_mul_le settings.limit_pos).mp (List.mem_range.mp member)
  by_cases whole : settings.limit ∣ archive.items.length
  · rw [if_pos whole, if_pos whole, Nat.add_zero, full, List.append_nil]
  · have short : ¬(archive.items.length / settings.limit + 1) * settings.limit ≤
        archive.items.length := by
      rw [Nat.not_le, Nat.mul_comm]
      exact Nat.lt_mul_div_succ _ settings.limit_pos
    rw [if_neg whole, if_neg whole, List.range_succ, List.map_append, full]
    exact congrArg (_ ++ [·]) (if_neg short)

variable {archive settings}

private theorem reply?_of_quiet {effect : Effect} (quiet : effect.IsQuiet) (before : Nat) :
    archive.reply? before effect = none := by
  cases effect with
  | navigate | cancelPoll => rfl
  | ask => exact nomatch quiet.unasked
  | schedulePoll => exact nomatch quiet.undelayed

/-- A page that begins before the last match is not empty. -/
theorem page_unempty {before offset : Nat} (inside : offset < archive.items.length) :
    (archive.page before offset settings.limit).items ≠ [] := by
  intro empty
  rcases List.take_eq_nil_iff.mp empty with none | past
  · exact absurd none settings.limit_pos.ne'
  · exact absurd (List.drop_eq_nil_iff.mp past) (Nat.not_le.mpr inside)

private theorem delayAfter_page (number : Nat) :
    settings.raised.delayAfter
      (archive.page number (number * settings.limit) settings.limit).items.length =
        archive.delay settings number := by
  rw [PollSettings.delayAfter, PollSettings.toNat_pageSize_raised, delay, page, List.length_take,
    List.length_drop, Nat.succ_mul]
  have positive : 0 < settings.limit := settings.limit_pos
  refine if_congr ?_ rfl rfl
  omega

end Archive

private theorem Tracker.Polls.applyPage {tracker : Tracker} {ticket : PollTicket}
    (polls : tracker.Polls ticket) (page : MatchPage) : (tracker.applyPage page).Polls ticket :=
  ⟨polls.current, polls.poll⟩

namespace Drain

variable {archive : Archive} {settings : PollSettings} {ticket : PollTicket}
  {drain last : Drain} {before left : List Effect} {effect : Effect} {message : Message}

private theorem step_quiet (asks : drain.left = effect :: left) (quiet : effect.IsQuiet) :
    drain.step archive = ⟨drain.tracker, drain.carried ++ [effect], left⟩ := by
  rw [step, asks]
  simp only [Archive.reply?_of_quiet quiet]

private theorem step_answered (asks : drain.left = effect :: left)
    (answered : archive.reply? drain.requests.length effect = some message) :
    drain.step archive = ⟨(drain.tracker.update message).1, drain.carried ++ [effect],
      left ++ (drain.tracker.update message).2⟩ := by
  rw [step, asks]
  simp only [answered]

private theorem Leads.refl (archive : Archive) (ticket : PollTicket) (drain : Drain) :
    drain.Leads archive ticket drain := by
  refine ⟨0, rfl, ?_⟩
  intro earlier before
  exact absurd before (Nat.not_lt_zero earlier)

private theorem Leads.step (leads : drain.Leads archive ticket last)
    (polls : last.tracker.Polls ticket) :
    drain.Leads archive ticket (last.step archive) := by
  obtain ⟨turns, rfl, polling⟩ := leads
  refine ⟨turns + 1, Function.iterate_succ_apply' .., ?_⟩
  intro earlier within
  rcases Nat.lt_succ_iff_lt_or_eq.mp within with before | rfl
  · exact polling earlier before
  · exact polls

private theorem Leads.pass {tracker : Tracker} {effects carried : List Effect}
    (leads : drain.Leads archive ticket ⟨tracker, carried, effects ++ left⟩)
    (polls : tracker.Polls ticket)
    (quiet : ∀ effect ∈ effects, effect.IsQuiet) :
    drain.Leads archive ticket ⟨tracker, carried ++ effects, left⟩ := by
  induction effects generalizing carried with
  | nil => simpa using leads
  | cons effect rest ih =>
    have stepped := leads.step polls
    rw [step_quiet rfl (quiet effect (.head rest))] at stepped
    have passed := ih stepped fun later member => quiet later (.tail effect member)
    rwa [List.append_assoc] at passed

/-- Once the delay is over, the next page is asked for. -/
theorem step_due {tracker : Tracker} {carried : List Effect} {delay : UInt64}
    (current : tracker.ticket = some ticket) (kept : tracker.settings = settings.raised) :
    (Drain.mk tracker carried [.schedulePoll ticket delay]).step archive =
      ⟨tracker, carried ++ [.schedulePoll ticket delay],
        [.ask (.page ticket tracker.found.length settings.limit)]⟩ := by
  rw [step_answered rfl rfl, Tracker.update_due current, kept, PollSettings.toNat_pageSize_raised]
  rfl

/-- So many pages were taken over, and the next one is asked for. -/
structure Underway (archive : Archive) (settings : PollSettings) (ticket : PollTicket)
    (before : List Effect) (count : Nat) (drain : Drain) : Prop where
  polls : drain.tracker.Polls ticket
  kept : drain.tracker.settings = settings.raised
  found : drain.tracker.found = archive.items.take (count * settings.limit)
  carried : drain.carried = before ++ archive.rounds settings ticket count
  quiet : ∀ effect ∈ before, effect.IsQuiet
  asks : drain.left = [.ask (.page ticket drain.tracker.found.length settings.limit)]

namespace Underway

variable {count : Nat}

private theorem unasked (underway : Underway archive settings ticket before count drain) :
    before.filterMap Effect.asked? = [] :=
  List.filterMap_eq_nil_iff.mpr fun effect member => (underway.quiet effect member).unasked

private theorem undelayed (underway : Underway archive settings ticket before count drain) :
    before.filterMap Effect.delay? = [] :=
  List.filterMap_eq_nil_iff.mpr fun effect member => (underway.quiet effect member).undelayed

private theorem reply (underway : Underway archive settings ticket before count drain)
    (offset : Nat) :
    archive.reply? drain.requests.length (.ask (.page ticket offset settings.limit)) =
      some (.matchesLoaded ticket (archive.page count offset settings.limit)) := by
  rw [requests, underway.carried, List.filterMap_append, underway.unasked, List.nil_append,
    Archive.asked_rounds, List.length_map, List.length_range]
  rfl

private theorem taken (underway : Underway archive settings ticket before count drain)
    (more : count * settings.limit < archive.items.length) :
    drain.step archive =
      ⟨drain.tracker.applyPage (archive.page count (count * settings.limit) settings.limit),
        drain.carried ++ [.ask (.page ticket (count * settings.limit) settings.limit)],
        [.schedulePoll ticket (archive.delay settings count)]⟩ := by
  have offset : drain.tracker.found.length = count * settings.limit := by
    rw [underway.found, List.length_take, Nat.min_eq_left more.le]
  have asks := underway.asks
  rw [offset] at asks
  -- Even a terminal status leaves the job pending, since the page brings a match.
  have unempty : (archive.page count (count * settings.limit) settings.limit).items ≠ [] :=
    Archive.page_unempty more
  rw [step_answered asks (underway.reply _),
    Tracker.update_pending underway.polls.current (fun drained => unempty drained.2),
    underway.kept, Archive.delayAfter_page]
  rfl

private theorem next (underway : Underway archive settings ticket before count drain)
    (more : count * settings.limit < archive.items.length) :
    (drain.step archive).tracker.Polls ticket ∧
      Underway archive settings ticket before (count + 1) ((drain.step archive).step archive) := by
  have polls := underway.polls.applyPage
    (archive.page count (count * settings.limit) settings.limit)
  rw [underway.taken more]
  refine ⟨polls, ?_⟩
  rw [step_due polls.current underway.kept]
  constructor
  case polls => exact polls
  case kept => exact underway.kept
  case found =>
    change drain.tracker.found ++ _ = _
    rw [underway.found, Nat.succ_mul, List.take_add]
    rfl
  case carried =>
    rw [underway.carried, Archive.rounds_succ, Archive.round]
    simp only [List.append_assoc]
    rfl
  case quiet => exact underway.quiet
  case asks => rfl

private theorem drained
    (underway : Underway archive settings ticket before (archive.pages settings) drain)
    (terminal : (archive.job (archive.pages settings)).status.isTerminal = true) :
    Drained archive settings ticket before (drain.step archive) := by
  have all : drain.tracker.found = archive.items := by
    rw [underway.found]
    exact List.take_of_length_le ((archive.pages_le_iff settings _).mp le_rfl)
  have asks := underway.asks
  rw [all] at asks
  have empty : (archive.page (archive.pages settings) archive.items.length settings.limit).items =
      [] := by
    rw [Archive.page, List.drop_length, List.take_nil]
  rw [step_answered asks (underway.reply _),
    Tracker.update_drained underway.polls.current terminal empty]
  constructor
  case spent => rfl
  case carried => rw [underway.carried]
  case requests =>
    rw [requests, underway.carried, List.filterMap_append, List.filterMap_append,
      underway.unasked, Archive.asked_rounds, List.map_append, List.map_map]
    rfl
  case delays =>
    rw [delays, underway.carried, List.filterMap_append, List.filterMap_append,
      underway.undelayed, Archive.delays_rounds]
    exact List.append_nil _
  case ended => rfl
  case poll => rfl
  case found =>
    change drain.tracker.found ++ _ = _
    rw [empty, all, List.append_nil]
  case job => rfl

end Underway

/-- From the first request on a drain goes round by round, until all matches were found. -/
theorem Leads.rounds (leads : drain.Leads archive ticket last)
    (underway : Underway archive settings ticket before 0 last) (count : Nat)
    (within : count ≤ archive.pages settings) :
    ∃ later, drain.Leads archive ticket later ∧
      Underway archive settings ticket before count later := by
  induction count with
  | zero => exact ⟨last, leads, underway⟩
  | succ count ih =>
    obtain ⟨later, reached, underway⟩ := ih (Nat.le_of_succ_le within)
    have more : count * settings.limit < archive.items.length := by
      rw [← Nat.not_le, ← Archive.pages_le_iff, Nat.not_le]
      exact within
    obtain ⟨polls, next⟩ := underway.next more
    -- A round is two steps: the request for its page, and the delay after it.
    exact ⟨_, (reached.step underway.polls).step polls, next⟩

private theorem choosing_underway (archive : Archive) {tracker : Tracker}
    (kept : tracker.settings = settings.raised) (hash : JobHash) (rawQuery : Option String) :
    ∃ last, (choosing tracker hash rawQuery).Leads archive (tracker.nextTicket hash) last ∧
      Underway archive settings (tracker.nextTicket hash)
        (.navigate (.job hash) :: tracker.cancellation) 0 last := by
  have chosen : (tracker.chooseJob (some hash) rawQuery).1.Polls (tracker.nextTicket hash) := by
    cases rawQuery <;> exact ⟨rfl, rfl⟩
  have same : (tracker.chooseJob (some hash) rawQuery).1.settings = tracker.settings := by
    cases rawQuery <;> rfl
  have quiet : ∀ effect ∈ .navigate (.job hash) :: tracker.cancellation, effect.IsQuiet := by
    intro effect member
    rcases List.mem_cons.mp member with rfl | cancels
    · exact ⟨rfl, rfl⟩
    · obtain ⟨_, rfl⟩ := (tracker.mem_cancellation effect).mp cancels
      exact ⟨rfl, rfl⟩
  have start : (choosing tracker hash rawQuery).Leads archive (tracker.nextTicket hash)
      ⟨(tracker.chooseJob (some hash) rawQuery).1, [],
        (.navigate (.job hash) :: tracker.cancellation) ++
          [.ask (.page (tracker.nextTicket hash) 0 tracker.settings.pageSize.toNat)]⟩ :=
    .refl ..
  refine ⟨_, start.pass chosen quiet, ?_⟩
  constructor
  case polls => exact chosen
  case kept => exact same.trans kept
  case found =>
    rw [Nat.zero_mul]
    rfl
  case carried => exact (List.append_nil _).symm
  case quiet => exact quiet
  case asks =>
    rw [kept, PollSettings.toNat_pageSize_raised]
    rfl

/-- A job may be chosen at any time: its loop asks for all matches page by page, and once more past
the last one. Whatever statuses come with the matches it goes on polling, and ends when the empty
page comes in a terminal status, with all matches in order. -/
theorem drains_exactly (archive : Archive) (settings : PollSettings) {text : String}
    (ending : text ∈ JobStatus.terminalTexts)
    (terminal : (archive.job (archive.pages settings)).status = .ofText text)
    (run : List Tracker.Act) (hash : JobHash) (rawQuery : Option String) :
    let tracker := (Tracker.withSettings settings).after run
    ∃ last, (choosing tracker hash rawQuery).Leads archive (tracker.nextTicket hash) last ∧
      last.Drained archive settings (tracker.nextTicket hash)
        (.navigate (.job hash) :: tracker.cancellation) := by
  intro tracker
  have kept : tracker.settings = settings.raised := Tracker.settings_after _ run
  have ended : (archive.job (archive.pages settings)).status.isTerminal = true := by
    rw [terminal]
    exact (JobStatus.isTerminal_ofText text).mpr ending
  obtain ⟨first, reached, underway⟩ := choosing_underway archive kept hash rawQuery
  obtain ⟨last, reached, underway⟩ := reached.rounds underway (archive.pages settings) le_rfl
  exact ⟨last.step archive, reached.step underway.polls, underway.drained ended⟩

def pairwise : PollSettings :=
  { PollSettings.default with pageSize := 2 }

def doneArchive : Archive :=
  ⟨[.bool true, .bool false, .null], fun _ => .ofStatus .done⟩

theorem drains_exactly_pairwise :
    "done" ∈ JobStatus.terminalTexts ∧
      (doneArchive.job (doneArchive.pages pairwise)).status = .ofText "done" ∧
      ∃ last, (choosing (.withSettings pairwise) ⟨"a"⟩ none).Leads doneArchive ⟨⟨"a"⟩, 1⟩ last ∧
        last.requests = [.page ⟨⟨"a"⟩, 1⟩ 0 2, .page ⟨⟨"a"⟩, 1⟩ 2 2, .page ⟨⟨"a"⟩, 1⟩ 3 2] ∧
        last.delays = [50, 1000] ∧ last.tracker.found = doneArchive.items := by
  have ending : "done" ∈ JobStatus.terminalTexts := .head _
  have terminal : (doneArchive.job (doneArchive.pages pairwise)).status = .ofText "done" := rfl
  obtain ⟨last, leads, drained⟩ := drains_exactly doneArchive pairwise ending terminal [] ⟨"a"⟩ none
  refine ⟨ending, terminal, last, leads, ?_, ?_, drained.found⟩
  · exact drained.requests
  · exact drained.delays

end Drain

end ScanWatch
