import ScanWatch.Proofs.Tracker.Coherence

namespace ScanWatch.Tracker

variable {tracker : Tracker}

private theorem LoopStep.lastEpoch {message : Message} {next : Tracker} {effects : List Effect}
    (step : tracker.LoopStep message next effects) :
    next.lastEpoch =
      if (tracker.opening? message).isSome then tracker.lastEpoch + 1 else tracker.lastEpoch := by
  cases step with
  | kept stale unopened same quiet => simp [unopened, same.lastEpoch]
  | closed free unopened ticket lastEpoch settings ended quiet cancels =>
    simp [unopened, lastEpoch]
  | opened hash free opening ticket lastEpoch settings jobHash poll found =>
    simp [opening, lastEpoch]
  | asked | continued | finished | stalled => rfl

/-- A step keeps the loop, gives it up, or opens the next one. -/
theorem LoopStep.ticket {message : Message} {next : Tracker} {effects : List Effect}
    (step : tracker.LoopStep message next effects) :
    next.ticket = tracker.ticket ∨ next.ticket = none ∨
      ∃ hash, tracker.opening? message = some hash ∧
        next.ticket = some (tracker.nextTicket hash) := by
  cases step with
  | kept stale unopened same quiet => exact .inl same.ticket
  | closed free unopened ticket lastEpoch settings ended quiet cancels => exact .inr (.inl ticket)
  | opened hash free opening ticket lastEpoch settings jobHash poll found =>
    exact .inr (.inr ⟨hash, opening, ticket⟩)
  | asked | continued => exact .inl rfl
  | finished | stalled => exact .inr (.inl rfl)

private theorem lastEpoch_act (tracker : Tracker) (act : Act) :
    (tracker.act act).lastEpoch =
      tracker.lastEpoch + UInt64.ofNat (tracker.opens act).toNat := by
  cases act with
  | look => exact (UInt64.add_zero _).symm
  | tell message =>
    have step := (update_step tracker message).lastEpoch
    change (tracker.update message).1.lastEpoch = _
    cases opening : (tracker.opening? message).isSome with
    | false => simp [step, opens, opening]
    | true => simp [step, opens, opening]

/-- The latest epoch counts the loops opened; after `UInt64.size` of them the epochs recur. -/
theorem lastEpoch_after (tracker : Tracker) (run : List Act) :
    (tracker.after run).lastEpoch = tracker.lastEpoch + UInt64.ofNat (tracker.opened run) := by
  induction run generalizing tracker with
  | nil => exact (UInt64.add_zero _).symm
  | cons act rest ih =>
    change ((tracker.act act).after rest).lastEpoch = _
    rw [ih, lastEpoch_act, opened, UInt64.ofNat_add, UInt64.add_assoc]

private theorem toNat_add_ofNat {epoch : UInt64} {count : Nat}
    (few : epoch.toNat + count < UInt64.size) :
    (epoch + UInt64.ofNat count).toNat = epoch.toNat + count := by
  rw [UInt64.toNat_add, UInt64.toNat_ofNat_of_lt' (by omega)]
  exact Nat.mod_eq_of_lt few

private theorem Initial.lastEpoch {start : Tracker} (initial : Initial start) :
    start.lastEpoch = 0 := by
  cases initial <;> rfl

theorem Initial.lastEpoch_after {start : Tracker} (initial : Initial start) (run : List Act)
    (few : start.opened run < UInt64.size) :
    (start.after run).lastEpoch.toNat = start.opened run := by
  have zero : start.lastEpoch.toNat = 0 := by rw [initial.lastEpoch]; rfl
  rw [Tracker.lastEpoch_after, toNat_add_ofNat (by omega), zero, Nat.zero_add]

theorem nextTicket_epoch (tracker : Tracker) (hash : JobHash)
    (few : tracker.lastEpoch.toNat + 1 < UInt64.size) :
    (tracker.nextTicket hash).epoch.toNat = tracker.lastEpoch.toNat + 1 :=
  toNat_add_ofNat few

/-- A loop that was open once and is not open now. -/
structure Past (tracker : Tracker) (ticket : PollTicket) : Prop where
  released : tracker.ticket ≠ some ticket
  spent : ticket.epoch.toNat ≤ tracker.lastEpoch.toNat

namespace Past

variable {ticket : PollTicket}

private theorem act (past : tracker.Past ticket) (act : Act)
    (few : tracker.lastEpoch.toNat + (tracker.opens act).toNat < UInt64.size) :
    (tracker.act act).Past ticket := by
  have spent := past.spent
  refine ⟨?_, by rw [lastEpoch_act, toNat_add_ofNat few]; omega⟩
  cases act with
  | look => exact past.released
  | tell message =>
    intro back
    change (tracker.update message).1.ticket = some ticket at back
    rcases (update_step tracker message).ticket with same | none | ⟨hash, opening, next⟩
    · exact past.released (same.symm.trans back)
    · rw [none] at back
      cases back
    · rw [next] at back
      obtain rfl := Option.some.inj back
      have fresh := nextTicket_epoch tracker hash (by simpa [opens, opening] using few)
      omega

private theorem after (past : tracker.Past ticket) (run : List Act)
    (few : tracker.lastEpoch.toNat + tracker.opened run < UInt64.size) :
    (tracker.after run).Past ticket := by
  induction run generalizing tracker with
  | nil => exact past
  | cons act rest ih =>
    rw [opened] at few
    refine ih (past.act act (by omega)) ?_
    rw [lastEpoch_act, toNat_add_ofNat (by omega)]
    omega

/-- What is said of a past loop goes unheard. -/
theorem unheard (past : tracker.Past ticket) {message : Message}
    (speaks : message.ticket? = some ticket) : tracker.update message = (tracker, []) := by
  have other : ¬tracker.isCurrent ticket = true :=
    fun current => past.released ((isCurrent_iff ..).mp current)
  cases message <;> simp only [Message.ticket?, Option.some.injEq, reduceCtorEq] at speaks
  all_goals
    subst speaks
    simp [update, onPollDue, onMatchesLoaded, onMatchesFailed, other]

end Past

/-- Between loops nothing is asked for or waited for, but the first page of a loop that is
opened. -/
theorem LoopStep.idle {message : Message} {next : Tracker} {effects : List Effect}
    (step : tracker.LoopStep message next effects) (idle : tracker.ticket = none)
    {effect : Effect} (member : effect ∈ effects) (works : effect.ticket? ≠ none) :
    ∃ hash, tracker.opening? message = some hash ∧ effect = tracker.firstPage hash := by
  cases step with
  | kept stale unopened same quiet => exact absurd (quiet effect member).1 works
  | closed free unopened ticket lastEpoch settings ended quiet cancels =>
    exact absurd (quiet effect member) works
  | opened hash free opening ticket lastEpoch settings jobHash poll found =>
    refine ⟨hash, opening, ?_⟩
    simp only [cancellation, idle, Option.isSome_none, Bool.false_eq_true, ↓reduceIte,
      List.nil_append, List.mem_cons, List.not_mem_nil, or_false] at member
    rcases member with rfl | first
    · exact absurd rfl works
    · exact first
  | asked current | continued current | finished current | stalled _ current =>
    rw [idle] at current
    cases current

/-- While the epochs last, a loop that was given up, for whatever reason, never becomes current
again, and whatever arrives for it changes nothing. Without a current loop, nothing is asked for
or waited for until one is opened. -/
theorem past_loop_stays_past {start : Tracker} (initial : Initial start) :
    (∀ (before between later : List Act) (ticket : PollTicket),
      start.opened (before ++ between ++ later) < UInt64.size →
      (start.after before).ticket = some ticket →
      (start.after (before ++ between)).ticket ≠ some ticket →
      (start.after (before ++ between ++ later)).ticket ≠ some ticket ∧
        ∀ message, message.ticket? = some ticket →
          (start.after (before ++ between ++ later)).update message =
            (start.after (before ++ between ++ later), [])) ∧
    ∀ (run : List Act) (message : Message) (effect : Effect),
      (start.after run).ticket = none → effect ∈ ((start.after run).update message).2 →
      effect.ticket? ≠ none →
      ∃ hash, (start.after run).opening? message = some hash ∧
        effect = (start.after run).firstPage hash := by
  constructor
  · intro before between later ticket few was released
    rw [opened_append, opened_append] at few
    have opened_before := initial.lastEpoch_after before (by omega)
    have opened_between := initial.lastEpoch_after (before ++ between)
      (by rw [opened_append]; omega)
    -- The loop carries the epoch of the moment when it was current, and epochs count openings.
    have current := ((initial.coherent.after before).current ticket was).2
    have past : (start.after (before ++ between)).Past ticket := by
      refine ⟨released, ?_⟩
      rw [current, opened_before, opened_between, opened_append]
      omega
    have stays := past.after later (by rw [opened_between, opened_append]; omega)
    rw [← after_append] at stays
    exact ⟨stays.released, fun message speaks => stays.unheard speaks⟩
  · intro run message effect idle member works
    exact (update_step (start.after run) message).idle idle member works

def openingRun : List Act :=
  [.tell (.querySubmitted ⟨"a"⟩ "rule"), .look]

def leavingRun : List Act :=
  [.tell (.mounted .compose), .look]

/-- The same job has been opened twice, with the composer in between. -/
def reopenedTracker : Tracker :=
  (withSettings .default).after (openingRun ++ leavingRun ++ openingRun)

theorem past_loop_stays_past_reopened :
    Initial (.withSettings .default) ∧
      (withSettings .default).opened (openingRun ++ leavingRun ++ openingRun) < UInt64.size ∧
      ((withSettings .default).after openingRun).ticket = some ⟨⟨"a"⟩, 1⟩ ∧
      ((withSettings .default).after (openingRun ++ leavingRun)).ticket ≠ some ⟨⟨"a"⟩, 1⟩ ∧
      (reopenedTracker.ticket ≠ some ⟨⟨"a"⟩, 1⟩ ∧
        ∀ message, message.ticket? = some ⟨⟨"a"⟩, 1⟩ →
          reopenedTracker.update message = (reopenedTracker, [])) ∧
      (.ask (.page ⟨⟨"a"⟩, 1⟩ 0 50) ∈
        ((withSettings .default).update (.querySubmitted ⟨"a"⟩ "rule")).2 ∧
        ∃ hash, (withSettings .default).opening? (.querySubmitted ⟨"a"⟩ "rule") = some hash ∧
          .ask (.page ⟨⟨"a"⟩, 1⟩ 0 50) = (withSettings .default).firstPage hash) := by
  obtain ⟨stays, idle⟩ := past_loop_stays_past (.withSettings .default)
  have few : (withSettings .default).opened (openingRun ++ leavingRun ++ openingRun) <
      UInt64.size := by decide
  have left : ((withSettings .default).after (openingRun ++ leavingRun)).ticket ≠
      some ⟨⟨"a"⟩, 1⟩ := by decide
  have asked : .ask (.page ⟨⟨"a"⟩, 1⟩ 0 50) ∈
      ((withSettings .default).update (.querySubmitted ⟨"a"⟩ "rule")).2 := by decide
  exact ⟨.withSettings _, few, rfl, left,
    stays openingRun leavingRun openingRun ⟨⟨"a"⟩, 1⟩ few rfl left,
    asked, idle [] (.querySubmitted ⟨"a"⟩ "rule") _ rfl asked (Option.some_ne_none _)⟩

end ScanWatch.Tracker
