import Mathlib.Algebra.GroupWithZero.Nat
import Mathlib.Data.List.Induction
import ScanWatch.Proofs.Tracker.Epoch

namespace ScanWatch

/-- A page that was accepted, with the polling loop it was asked for by. -/
structure Receipt where
  ticket : PollTicket
  page : MatchPage

namespace Tracker

/-- Whether a message makes the tracker drop its results: a loop is opened, the page is opened or
the composer is returned to, or the outcome of a query is taken. -/
def drops (tracker : Tracker) : Message → Bool
  | .mounted _ | .querySubmitted _ _ | .jobChosen _ _ => true
  | .jobQueryLoaded hash _ | .jobQueryFailed hash _ => tracker.jobHash = some hash
  | .queryCompiled _ _ | .queryFailed _ _ => !tracker.isLocked
  | _ => false

/-- The page that a message brings, if the tracker accepts it. -/
def receipt? (tracker : Tracker) : Message → Option Receipt
  | .matchesLoaded ticket page => if tracker.isCurrent ticket then some ⟨ticket, page⟩ else none
  | _ => none

def receipts (tracker : Tracker) : List Act → List Receipt
  | [] => []
  | .look :: rest => (tracker.act .look).receipts rest
  | .tell message :: rest =>
    (tracker.receipt? message).toList ++ (tracker.act (.tell message)).receipts rest

/-- Nothing in a run drops the results. -/
def Undisturbed (tracker : Tracker) : List Act → Prop
  | [] => True
  | .look :: rest => (tracker.act .look).Undisturbed rest
  | .tell message :: rest =>
    tracker.drops message = false ∧ (tracker.act (.tell message)).Undisturbed rest

/-- A run that has just begun, or that ends with a message that drops the results; with the polling
loop that this message opens, if it opens one. -/
inductive Afresh (start : Tracker) : List Act → Option PollTicket → Prop where
  | beginning : Afresh start [] none
  | dropped {earlier : List Act} {message : Message}
      (drops : (start.after earlier).drops message = true) :
      Afresh start (earlier ++ [.tell message])
        (((start.after earlier).opening? message).map (start.after earlier).nextTicket)

variable {tracker : Tracker}

private theorem receipts_append (tracker : Tracker) (first last : List Act) :
    tracker.receipts (first ++ last) =
      tracker.receipts first ++ (tracker.after first).receipts last := by
  induction first generalizing tracker with
  | nil => rfl
  | cons act rest ih =>
    cases act with
    | look => exact ih _
    | tell message =>
      rw [List.cons_append, receipts, receipts, ih, List.append_assoc]
      rfl

private theorem undisturbed_append (tracker : Tracker) (first last : List Act) :
    tracker.Undisturbed (first ++ last) ↔
      tracker.Undisturbed first ∧ (tracker.after first).Undisturbed last := by
  induction first generalizing tracker with
  | nil => exact (iff_of_eq (true_and _)).symm
  | cons act rest ih =>
    cases act with
    | look => exact ih _
    | tell message =>
      rw [List.cons_append, Undisturbed, Undisturbed, ih, and_assoc]
      rfl

theorem exists_afresh (start : Tracker) (run : List Act) :
    ∃ before later opened, run = before ++ later ∧ start.Afresh before opened ∧
      (start.after before).Undisturbed later := by
  induction run using List.reverseRecOn with
  | nil => exact ⟨[], [], none, rfl, .beginning, trivial⟩
  | append_singleton run act ih =>
    obtain ⟨before, later, opened, rfl, afresh, undisturbed⟩ := ih
    have extend : ((start.after before).after later).Undisturbed [act] →
        ∃ before' later' opened', before ++ later ++ [act] = before' ++ later' ∧
          start.Afresh before' opened' ∧ (start.after before').Undisturbed later' := fun last =>
      ⟨before, later ++ [act], opened, List.append_assoc .., afresh,
        (undisturbed_append ..).mpr ⟨undisturbed, last⟩⟩
    cases act with
    | look => exact extend trivial
    | tell message =>
      rw [← after_append] at extend
      cases drops : (start.after (before ++ later)).drops message with
      | false => exact extend ⟨drops, trivial⟩
      | true => exact ⟨_, [], _, (List.append_nil _).symm, .dropped drops, trivial⟩

/-- What a message does to the results: the tracker after it. -/
inductive ResultStep (tracker : Tracker) : Message → Tracker → Prop where
  | dropped {message : Message} {next : Tracker} (drops : tracker.drops message = true)
      (unheard : tracker.receipt? message = none) (found : next.found = [])
      (job : next.job = none) :
      ResultStep tracker message next
  | kept {message : Message} {next : Tracker} (keeps : tracker.drops message = false)
      (unheard : tracker.receipt? message = none) (found : next.found = tracker.found)
      (job : next.job = tracker.job) : ResultStep tracker message next
  | extended {ticket : PollTicket} {page : MatchPage} {next : Tracker}
      (accepted : tracker.receipt? (.matchesLoaded ticket page) = some ⟨ticket, page⟩)
      (found : next.found = tracker.found ++ page.items) (job : next.job = some page.job) :
      ResultStep tracker (.matchesLoaded ticket page) next

private theorem chooseJob_results (tracker : Tracker) (hash : Option JobHash)
    (rawQuery : Option String) :
    (tracker.chooseJob hash rawQuery).1.found = [] ∧
      (tracker.chooseJob hash rawQuery).1.job = none := by
  cases hash <;> exact ⟨rfl, rfl⟩

private theorem update_results (tracker : Tracker) (message : Message) :
    tracker.ResultStep message (tracker.update message).1 := by
  cases message with
  | mounted route => exact .dropped rfl rfl rfl rfl
  | querySubmitted hash rawQuery | jobChosen hash rawQuery =>
    have none := tracker.chooseJob_results
    exact .dropped rfl rfl (none _ _).1 (none _ _).2
  | jobQueryLoaded hash rawQuery | jobQueryFailed hash reason =>
    have none := tracker.chooseJob_results
    simp only [update]
    split
    · next same => exact .dropped (by simp [drops, same]) rfl (none _ _).1 (none _ _).2
    · next other => exact .kept (by simp [drops, other]) rfl rfl rfl
  | queryCompiled plan rawQuery | queryFailed error rawQuery =>
    simp only [update]
    split
    · next locked => exact .kept (by simp [drops, locked]) rfl rfl rfl
    · next unlocked => exact .dropped (by simp [drops, unlocked]) rfl rfl rfl
  | compileRequested rawQuery taint | submitRequested rawQuery taint =>
    simp only [update]
    split <;> exact .kept rfl rfl rfl rfl
  | pollDue ticket =>
    simp only [update, onPollDue]
    split <;> exact .kept rfl rfl rfl rfl
  | matchesLoaded ticket page =>
    simp only [update, onMatchesLoaded]
    split
    · next current =>
      have accepted : tracker.receipt? (.matchesLoaded ticket page) = some ⟨ticket, page⟩ :=
        if_pos current
      split <;> exact .extended accepted rfl rfl
    · next stale => exact .kept rfl (if_neg stale) rfl rfl
  | matchesFailed ticket reason =>
    simp only [update, onMatchesFailed]
    split <;> exact .kept rfl rfl rfl rfl
  | unmounted | datasetsLoaded | collapseToggled | backendStatusRequested | backendStatusLoaded
  | backendStatusFailed | tick => exact .kept rfl rfl rfl rfl

private theorem receipt?_current {message : Message} {receipt : Receipt}
    (accepted : tracker.receipt? message = some receipt) :
    tracker.ticket = some receipt.ticket := by
  cases message with
  | matchesLoaded ticket page =>
    simp only [receipt?, Option.ite_none_right_eq_some, Option.some.injEq] at accepted
    obtain ⟨current, rfl⟩ := accepted
    exact (isCurrent_iff ..).mp current
  | _ => cases accepted

/-- A loop is only opened by dropping the results. -/
theorem drops_of_opening {message : Message} {hash : JobHash}
    (opening : tracker.opening? message = some hash) : tracker.drops message = true := by
  cases message with
  | querySubmitted | jobChosen => rfl
  | jobQueryLoaded other rawQuery | jobQueryFailed other reason =>
    simp only [opening?, Option.ite_none_right_eq_some] at opening
    simp [drops, opening.1]
  | _ => cases opening

private theorem LoopStep.ticket_of_opening {message : Message} {next : Tracker}
    {effects : List Effect} (step : tracker.LoopStep message next effects) {hash : JobHash}
    (opening : tracker.opening? message = some hash) :
    next.ticket = some (tracker.nextTicket hash) := by
  cases step with
  | kept stale unopened | closed free unopened =>
    rw [unopened] at opening
    cases opening
  | opened other free opens ticket =>
    obtain rfl := Option.some.inj (opens.symm.trans opening)
    exact ticket
  | asked | continued | finished | stalled => cases opening

private theorem Coherent.ticket_of_unlocked (coherent : tracker.Coherent)
    (unlocked : tracker.isLocked = false) : tracker.ticket = none := by
  cases held : tracker.ticket with
  | none => rfl
  | some ticket =>
    rw [isLocked, (coherent.current ticket held).1] at unlocked
    cases unlocked

private theorem ticket_of_drops (coherent : tracker.Coherent) {message : Message}
    (drops : tracker.drops message = true) :
    (tracker.update message).1.ticket = (tracker.opening? message).map tracker.nextTicket := by
  have step := update_step tracker message
  cases opening : tracker.opening? message with
  | some hash => exact step.ticket_of_opening opening
  | none =>
    cases message with
    | mounted route => rfl
    | jobChosen hash rawQuery =>
      obtain rfl : hash = none := opening
      rfl
    | queryCompiled plan rawQuery | queryFailed error rawQuery =>
      have unlocked : tracker.isLocked = false := by simpa [Tracker.drops] using drops
      have released : tracker.ticket = none := coherent.ticket_of_unlocked unlocked
      simp [update, unlocked, setQueryPlan, setQueryError, clearResults, released]
    | querySubmitted hash rawQuery => cases opening
    | jobQueryLoaded hash rawQuery | jobQueryFailed hash reason =>
      simp_all [Tracker.drops, opening?]
    | _ => cases drops

private theorem LoopStep.ticket_of_kept {message : Message} {next : Tracker} {effects : List Effect}
    (step : tracker.LoopStep message next effects) (keeps : tracker.drops message = false) :
    next.ticket = tracker.ticket ∨ next.ticket = none := by
  rcases step.ticket with same | none | ⟨hash, opening, _⟩
  · exact .inl same
  · exact .inr none
  · rw [drops_of_opening opening] at keeps
    cases keeps

/-- As long as nothing drops the results, they are what there was, and the pages accepted since. -/
theorem Undisturbed.results {run : List Act} (undisturbed : tracker.Undisturbed run) :
    (tracker.after run).found =
        tracker.found ++ (tracker.receipts run).flatMap (fun receipt => receipt.page.items) ∧
      (tracker.after run).job =
        ((tracker.receipts run).getLast?.map fun receipt => receipt.page.job).or tracker.job := by
  induction run generalizing tracker with
  | nil => simp [receipts]
  | cons act rest ih =>
    cases act with
    | look => exact ih undisturbed
    | tell message =>
      obtain ⟨keeps, later⟩ := undisturbed
      obtain ⟨found, job⟩ := ih later
      change ((tracker.act (.tell message)).after rest).found = _ ∧
        ((tracker.act (.tell message)).after rest).job = _
      rw [found, job]
      cases update_results tracker message with
      | dropped drops => rw [keeps] at drops; cases drops
      | kept keeps unheard found job =>
        simp only [receipts, unheard, Option.toList_none, List.nil_append]
        exact ⟨congrArg (· ++ _) found, congrArg (Option.or _) job⟩
      | @extended ticket page next accepted found job =>
        simp only [receipts, accepted, Option.toList_some, List.singleton_append,
          List.flatMap_cons, ← List.append_assoc]
        refine ⟨congrArg (· ++ _) found, ?_⟩
        rw [List.getLast?_cons]
        cases ((tracker.act (.tell (.matchesLoaded ticket page))).receipts rest).getLast? with
        | none => exact congrArg (Option.or none) job
        | some receipt => rfl

/-- Only the loop that is current at its beginning delivers pages in an undisturbed run. -/
theorem Undisturbed.ticket {run : List Act} (undisturbed : tracker.Undisturbed run) :
    ((tracker.after run).ticket = tracker.ticket ∨ (tracker.after run).ticket = none) ∧
      ∀ receipt ∈ tracker.receipts run, tracker.ticket = some receipt.ticket := by
  induction run generalizing tracker with
  | nil => exact ⟨.inl rfl, nofun⟩
  | cons act rest ih =>
    cases act with
    | look => exact ih undisturbed
    | tell message =>
      obtain ⟨keeps, later⟩ := undisturbed
      obtain ⟨ticket, single⟩ := ih later
      have step := (update_step tracker message).ticket_of_kept keeps
      refine ⟨?_, fun receipt member => ?_⟩
      · rcases ticket with same | none
        · exact step.imp same.trans same.trans
        · exact .inr none
      · rcases List.mem_append.mp member with first | rest
        · exact receipt?_current (Option.mem_toList.mp first)
        · rcases step with same | none
          · rw [← same]
            exact single receipt rest
          -- Once the loop has ended no page is accepted any more.
          · have held : (tracker.update message).1.ticket = _ := single receipt rest
            rw [none] at held
            cases held

variable {start : Tracker}

private theorem Initial.receipts_spent (initial : Initial start) (run : List Act)
    (few : start.opened run < UInt64.size) :
    ∀ receipt ∈ start.receipts run, receipt.ticket.epoch.toNat ≤ start.opened run := by
  induction run using List.reverseRecOn with
  | nil => exact nofun
  | append_singleton run act ih =>
    rw [opened_append] at few ⊢
    intro receipt member
    rw [receipts_append] at member
    rcases List.mem_append.mp member with old | new
    · have spent := ih (by omega) receipt old
      omega
    · cases act with
      | look => cases new
      | tell message =>
        have accepted : (start.after run).receipt? message = some receipt := by
          simpa [receipts] using new
        have current := receipt?_current accepted
        have latest := ((initial.coherent.after run).current _ current).2
        have count := initial.lastEpoch_after run (by omega)
        rw [latest, count]
        omega

private theorem receipt?_of_drops {message : Message} (drops : tracker.drops message = true) :
    tracker.receipt? message = none := by
  cases message with
  | matchesLoaded => cases drops
  | _ => rfl

namespace Afresh

variable {before : List Act} {opened : Option PollTicket}

theorem blank (initial : Initial start) (afresh : start.Afresh before opened) :
    (start.after before).found = [] ∧ (start.after before).job = none ∧
      (start.after before).ticket = opened := by
  cases afresh with
  | beginning => cases initial <;> exact ⟨rfl, rfl, rfl⟩
  | @dropped earlier message drops =>
    have ticket := ticket_of_drops (initial.coherent.after earlier) drops
    rw [after_append]
    cases update_results (start.after earlier) message with
    | dropped _ _ found job => exact ⟨found, job, ticket⟩
    | kept keeps =>
      rw [drops] at keeps
      cases keeps
    | extended => cases drops

private theorem unheard (initial : Initial start) (few : start.opened before < UInt64.size)
    {ticket : PollTicket} (afresh : start.Afresh before (some ticket)) :
    ∀ receipt ∈ start.receipts before, receipt.ticket ≠ ticket := by
  generalize same : some ticket = opened at afresh
  cases afresh with
  | beginning => cases same
  | @dropped earlier message drops =>
    obtain ⟨hash, opening, rfl⟩ := Option.map_eq_some_iff.mp same.symm
    have one : (start.after earlier).opened [.tell message] = 1 := by
      simp [Tracker.opened, opens, opening]
    rw [opened_append, one] at few
    have count := initial.lastEpoch_after earlier (by omega)
    have epoch := nextTicket_epoch (start.after earlier) hash (by omega)
    intro receipt member
    rw [receipts_append] at member
    rcases List.mem_append.mp member with old | new
    · have spent := initial.receipts_spent earlier (by omega) receipt old
      rintro ticket
      rw [ticket] at spent
      omega
    · rw [receipts, receipt?_of_drops drops] at new
      cases new

end Afresh

private theorem Initial.found_of_current (initial : Initial start) (run : List Act)
    (few : start.opened run < UInt64.size) {ticket : PollTicket}
    (current : (start.after run).ticket = some ticket) :
    (start.after run).found =
      ((start.receipts run).filter fun receipt => receipt.ticket == ticket).flatMap
        fun receipt => receipt.page.items := by
  obtain ⟨before, later, opened, rfl, afresh, undisturbed⟩ := exists_afresh start run
  obtain ⟨found, _, ticket_before⟩ := afresh.blank initial
  obtain ⟨ended, single⟩ := undisturbed.ticket
  rw [after_append] at current ⊢
  have base : (start.after before).ticket = some ticket := by
    rcases ended with same | none
    · rw [← same, current]
    · rw [none] at current
      cases current
  obtain rfl := ticket_before.symm.trans base
  have old : (start.receipts before).filter (fun receipt => receipt.ticket == ticket) = [] := by
    refine List.filter_eq_nil_iff.mpr fun receipt member => ?_
    rw [opened_append] at few
    simpa using afresh.unheard initial (by omega) receipt member
  have new : ((start.after before).receipts later).filter
      (fun receipt => receipt.ticket == ticket) = (start.after before).receipts later := by
    refine List.filter_eq_self.mpr fun receipt member => ?_
    have same := single receipt member
    rw [base] at same
    simpa using (Option.some.inj same).symm
  rw [undisturbed.results.1, found, receipts_append, List.filter_append, old, new]
  rfl

/-- A page is requested to open a loop, or to continue what the current loop found. -/
theorem LoopStep.request {message : Message} {next : Tracker} {effects : List Effect}
    (step : tracker.LoopStep message next effects) {ticket : PollTicket} {offset limit : Nat}
    (requested : .ask (.page ticket offset limit) ∈ effects) :
    next.ticket = some ticket ∧ limit = tracker.settings.pageSize.toNat ∧
      ((∃ hash, tracker.opening? message = some hash ∧ ticket = tracker.nextTicket hash ∧
          offset = 0) ∨
        tracker.ticket = some ticket ∧ offset = tracker.found.length) := by
  cases step with
  | kept stale unopened same quiet => cases (quiet _ requested).1
  | closed free unopened ticket lastEpoch settings ended quiet => cases quiet _ requested
  | opened hash free opening current =>
    simp only [List.mem_cons, List.mem_append, mem_cancellation, firstPage, reduceCtorEq, and_false,
      false_or, Effect.ask.injEq, Request.page.injEq, List.not_mem_nil, or_false] at requested
    obtain ⟨rfl, rfl, rfl⟩ := requested
    exact ⟨current, rfl, .inl ⟨hash, opening, rfl, rfl⟩⟩
  | asked current =>
    simp only [List.mem_singleton, Effect.ask.injEq, Request.page.injEq] at requested
    obtain ⟨rfl, rfl, rfl⟩ := requested
    exact ⟨current, rfl, .inr ⟨current, rfl⟩⟩
  | continued => cases List.mem_singleton.mp requested
  | finished | stalled => cases requested

/-- Every page that is requested is requested for the loop that is current then, and continues what
was accepted for it. -/
theorem Initial.request_continues (initial : Initial start) (run : List Act) (message : Message)
    (few : start.opened (run ++ [.tell message]) < UInt64.size) {ticket : PollTicket}
    {offset limit : Nat}
    (requested : .ask (.page ticket offset limit) ∈ ((start.after run).update message).2) :
    ((start.after run).update message).1.ticket = some ticket ∧
      limit = (start.after run).settings.pageSize.toNat ∧
      offset = (((start.receipts run).filter fun receipt => receipt.ticket == ticket).map
        fun receipt => receipt.page.items.length).sum := by
  obtain ⟨current, size, origin⟩ := (update_step (start.after run) message).request requested
  refine ⟨current, size, ?_⟩
  rcases origin with ⟨hash, opening, rfl, rfl⟩ | ⟨held, rfl⟩
  · have drops := drops_of_opening opening
    have afresh : start.Afresh (run ++ [.tell message])
        (some ((start.after run).nextTicket hash)) := by
      have dropped := Afresh.dropped drops
      rwa [opening] at dropped
    have none : (start.receipts run).filter
        (fun receipt => receipt.ticket == (start.after run).nextTicket hash) = [] := by
      refine List.filter_eq_nil_iff.mpr fun receipt member => ?_
      have old : receipt ∈ start.receipts (run ++ [.tell message]) := by
        rw [receipts_append]
        exact List.mem_append_left _ member
      simpa using afresh.unheard initial few receipt old
    rw [none]
    rfl
  · rw [opened_append] at few
    rw [initial.found_of_current run (by omega) held, List.length_flatMap]

/-- While the epochs last, the results are exactly what was accepted since they were last dropped:
the matches are the pages in the order of their delivery, all of them for the loop that was opened
then, and the job is the one of the last page. Every page that is ever requested is requested for
the loop that is current then, with the page size as its limit, and starts where the pages accepted
for the loop end. -/
theorem results_are_receipts {start : Tracker} (initial : Initial start) (run : List Act)
    (few : start.opened run < UInt64.size) :
    (∃ before later opened, run = before ++ later ∧ start.Afresh before opened ∧
      (start.after before).Undisturbed later ∧
      (start.after run).found =
        ((start.after before).receipts later).flatMap (fun receipt => receipt.page.items) ∧
      (start.after run).job =
        ((start.after before).receipts later).getLast?.map (fun receipt => receipt.page.job) ∧
      ∀ receipt ∈ (start.after before).receipts later, opened = some receipt.ticket) ∧
    ∀ (before rest : List Act) (message : Message) (ticket : PollTicket) (offset limit : Nat),
      run = before ++ .tell message :: rest →
      .ask (.page ticket offset limit) ∈ ((start.after before).update message).2 →
      ((start.after before).update message).1.ticket = some ticket ∧
        limit = (start.after before).settings.pageSize.toNat ∧
        offset = (((start.receipts before).filter fun receipt => receipt.ticket == ticket).map
          fun receipt => receipt.page.items.length).sum := by
  constructor
  · obtain ⟨before, later, opened, rfl, afresh, undisturbed⟩ := exists_afresh start run
    obtain ⟨found, job, ticket⟩ := afresh.blank initial
    obtain ⟨kept, last⟩ := undisturbed.results
    rw [found, List.nil_append, ← after_append] at kept
    rw [job, Option.or_none, ← after_append] at last
    refine ⟨before, later, opened, rfl, afresh, undisturbed, kept, last, fun receipt member => ?_⟩
    rw [← ticket]
    exact undisturbed.ticket.2 receipt member
  · intro before rest message ticket offset limit same requested
    rw [same, ← List.singleton_append, ← List.append_assoc, opened_append] at few
    exact initial.request_continues before message (by omega) requested

/-- A job is opened, and opened again after its first page; a page for the first loop comes late. -/
def repeatedRun : List Act :=
  [.tell (.querySubmitted ⟨"a"⟩ "rule"), .look,
    .tell (.matchesLoaded ⟨⟨"a"⟩, 1⟩ ⟨[.null], .ofStatus .processing⟩), .look,
    .tell (.jobChosen (some ⟨"a"⟩) none), .look,
    .tell (.matchesLoaded ⟨⟨"a"⟩, 1⟩ ⟨[.bool true], .ofStatus .processing⟩), .look,
    .tell (.matchesLoaded ⟨⟨"a"⟩, 2⟩ ⟨[.null, .bool false], .ofStatus .processing⟩), .look]

theorem results_are_receipts_repeated :
    Initial (.withSettings .default) ∧
      (withSettings .default).opened (repeatedRun ++ [.tell (.pollDue ⟨⟨"a"⟩, 2⟩)]) < UInt64.size ∧
      ((withSettings .default).after repeatedRun).found = [.null, .bool false] ∧
      (∃ before later opened, repeatedRun ++ [.tell (.pollDue ⟨⟨"a"⟩, 2⟩)] = before ++ later ∧
        (withSettings .default).Afresh before opened ∧
        ((withSettings .default).after before).Undisturbed later ∧
        ((withSettings .default).after (repeatedRun ++ [.tell (.pollDue ⟨⟨"a"⟩, 2⟩)])).found =
          (((withSettings .default).after before).receipts later).flatMap
            (fun receipt => receipt.page.items) ∧
        ((withSettings .default).after (repeatedRun ++ [.tell (.pollDue ⟨⟨"a"⟩, 2⟩)])).job =
          (((withSettings .default).after before).receipts later).getLast?.map
            (fun receipt => receipt.page.job) ∧
        ∀ receipt ∈ ((withSettings .default).after before).receipts later,
          opened = some receipt.ticket) ∧
      .ask (.page ⟨⟨"a"⟩, 2⟩ 2 50) ∈
        (((withSettings .default).after repeatedRun).update (.pollDue ⟨⟨"a"⟩, 2⟩)).2 ∧
      (((withSettings .default).after repeatedRun).update (.pollDue ⟨⟨"a"⟩, 2⟩)).1.ticket =
        some ⟨⟨"a"⟩, 2⟩ ∧
      50 = ((withSettings .default).after repeatedRun).settings.pageSize.toNat ∧
      2 = ((((withSettings .default).receipts repeatedRun).filter fun receipt =>
        receipt.ticket == ⟨⟨"a"⟩, 2⟩).map fun receipt => receipt.page.items.length).sum := by
  have few : (withSettings .default).opened
      (repeatedRun ++ [.tell (.pollDue ⟨⟨"a"⟩, 2⟩)]) < UInt64.size := by decide
  obtain ⟨results, requests⟩ := results_are_receipts (.withSettings .default) _ few
  have asked : .ask (.page ⟨⟨"a"⟩, 2⟩ 2 50) ∈
      (((withSettings .default).after repeatedRun).update (.pollDue ⟨⟨"a"⟩, 2⟩)).2 := by decide
  exact ⟨.withSettings _, few, rfl, results, asked,
    requests repeatedRun [] (.pollDue ⟨⟨"a"⟩, 2⟩) _ _ _ rfl asked⟩

end Tracker

end ScanWatch
