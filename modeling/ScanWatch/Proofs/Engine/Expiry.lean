import Mathlib.Data.List.Induction
import Mathlib.Data.List.Nodup
import ScanWatch.Proofs.Engine.Timing
import ScanWatch.Proofs.Engine.Waiting

/-! Which timers come to fire. Only the timer that was called for last is waited for, until anything
is ordered again; all that happens to it can be read off the acts. -/

namespace ScanWatch.Timers

/-- A scheduler that is let go of cancels its timer. -/
abbrev Act.drop : Act := .cancel

/-- The timer that fires in an act, by its place, and the loop that it is told for. -/
def report? (timers : Timers) : Act → Option (Nat × PollTicket)
  | .fire index => (timers.fire? index).map fun fired => (index, fired.1)
  | .schedule _ _ | .cancel => none

def reports (timers : Timers) : List Act → List (Nat × PollTicket)
  | [] => []
  | act :: rest => (timers.report? act).toList ++ (timers.act act).reports rest

/-- The call that the timer at a place goes back to, and what happened from then on. -/
def Called (acts : List Act) (index : Nat) (ticket : PollTicket) (delay : UInt64)
    (later : List Act) : Prop :=
  ∃ before, acts = before ++ .schedule ticket delay :: later ∧
    index = (before.filterMap Act.ticket?).length

/-- Nothing was ordered, and the delay of a timer is not over. -/
def Unended (index : Nat) (acts : List Act) : Prop :=
  ∀ act ∈ acts, act.isOrder = false ∧ act ≠ .fire index

variable {timers : Timers} {acts later : List Act} {index : Nat} {ticket : PollTicket}
  {delay : UInt64}

private theorem next_place (acts : List Act) :
    (empty.after acts).cancel.started.length = (acts.filterMap Act.ticket?).length := by
  have started := congrArg List.length ((tickets_cancel _).trans (empty.tickets_after acts))
  simpa [tickets, empty] using started

private theorem Single.act (single : timers.Single) (act : Act) : (timers.act act).Single := by
  cases act with
  | schedule ticket delay => exact single.schedule ticket delay
  | cancel => exact single_of_live_nil single.live_cancel
  | fire index =>
    cases fires : timers.fire? index with
    | none => simpa [Timers.act, fires] using single
    | some outcome => simpa [Timers.act, fires] using single_of_live_nil (single.live_fire fires)

private theorem single_after (acts : List Act) : (empty.after acts).Single := by
  induction acts using List.reverseRecOn with
  | nil => exact single_empty
  | append_singleton acts act ih =>
    rw [after_append]
    exact ih.act act

private theorem live_length_le (acts : List Act) : (empty.after acts).live.length ≤ 1 := by
  induction acts using List.reverseRecOn with
  | nil => exact Nat.zero_le _
  | append_singleton acts act ih =>
    have single := single_after acts
    rw [after_append]
    change ((empty.after acts).act act).live.length ≤ 1
    cases act with
    | schedule ticket delay => simp [Timers.act, single.live_schedule]
    | cancel => simp [Timers.act, single.live_cancel]
    | fire index =>
      cases fires : (empty.after acts).fire? index with
      | none => simpa [Timers.act, fires] using ih
      | some outcome => simp [Timers.act, fires, single.live_fire fires]

private theorem fires_iff : (∃ fired, timers.fire? index = some (ticket, fired)) ↔
    ∃ delay, timers.started[index]? = some ⟨ticket, delay, .live⟩ := by
  unfold fire?
  constructor
  · rintro ⟨fired, fires⟩
    split at fires
    · next timer found =>
      split at fires
      · next live =>
        obtain ⟨own, delay, phase⟩ := timer
        obtain rfl : phase = .live := live
        obtain ⟨rfl, -⟩ := Prod.mk.inj (Option.some.inj fires)
        exact ⟨delay, found⟩
      · cases fires
    · cases fires
  · rintro ⟨delay, found⟩
    simp [found]

private theorem Single.act_fire (single : timers.Single)
    (found : timers.started[index]? = some ⟨ticket, delay, .live⟩) {other : Nat}
    (elsewhere : other ≠ index) : timers.act (.fire other) = timers := by
  cases fires : timers.fire? other with
  | none => simp [Timers.act, fires]
  | some outcome =>
    obtain ⟨_, rival⟩ := fires_iff.mp ⟨outcome.2, fires⟩
    have kept := single index _ found rfl
    rw [single other _ rival rfl] at kept
    exact absurd (Option.some.inj kept) elsewhere

/-- The timers that are waited for after an act: the one that it calls for, and those that were
waited for if it neither orders anything nor ends their delay. -/
theorem Single.live_act_iff (single : timers.Single) (act : Act) :
    (timers.act act).started[index]? = some ⟨ticket, delay, .live⟩ ↔
      (act = .schedule ticket delay ∧ index = timers.cancel.started.length) ∨
        timers.started[index]? = some ⟨ticket, delay, .live⟩ ∧
          act.isOrder = false ∧ act ≠ .fire index := by
  constructor
  · intro found
    have member : ⟨ticket, delay, .live⟩ ∈ (timers.act act).live := mem_live.mpr ⟨index, found, rfl⟩
    cases act with
    | schedule own length =>
      change _ ∈ (timers.schedule own length).live at member
      rw [single.live_schedule] at member
      obtain ⟨rfl, rfl⟩ : ticket = own ∧ delay = length := by simpa using member
      have handle := (single.schedule ticket delay) index _ found rfl
      exact .inl ⟨rfl, (Option.some.inj handle).symm⟩
    | cancel =>
      change _ ∈ timers.cancel.live at member
      rw [single.live_cancel] at member
      cases member
    | fire place =>
      cases fires : timers.fire? place with
      | none =>
        have still : timers.started[index]? = some ⟨ticket, delay, .live⟩ := by
          simpa [Timers.act, fires] using found
        refine .inr ⟨still, rfl, ?_⟩
        rintro ⟨⟩
        obtain ⟨_, fired⟩ := fires_iff.mpr ⟨delay, still⟩
        rw [fires] at fired
        cases fired
      | some outcome =>
        simp only [Timers.act, fires, Option.map_some, Option.getD_some] at member
        rw [single.live_fire fires] at member
        cases member
  · rintro (⟨rfl, rfl⟩ | ⟨still, unordered, unfired⟩)
    · exact List.getElem?_concat_length ..
    · cases act with
      | schedule | cancel => cases unordered
      | fire place =>
        have elsewhere : place ≠ index := fun same => unfired (congrArg Act.fire same)
        rw [single.act_fire still elsewhere]
        exact still

private theorem Called.append (called : Called acts index ticket delay later) (more : List Act) :
    Called (acts ++ more) index ticket delay (later ++ more) := by
  obtain ⟨before, rfl, place⟩ := called
  exact ⟨before, by simp, place⟩

private theorem nothing_between {before between rest : List Act}
    (split : .schedule ticket delay :: later = between ++ rest)
    (counted : (before.filterMap Act.ticket?).length =
      ((before ++ between).filterMap Act.ticket?).length) : between = [] := by
  cases between with
  | nil => rfl
  | cons first between =>
    obtain ⟨rfl, -⟩ := List.cons.inj split
    simp [Act.ticket?] at counted

private theorem Called.unique (called : Called acts index ticket delay later) {other : PollTicket}
    {length : UInt64} {rest : List Act} (again : Called acts index other length rest) :
    ticket = other ∧ later = rest := by
  obtain ⟨before, rfl, place⟩ := called
  obtain ⟨earlier, same, counted⟩ := again
  have alike : before = earlier := by
    rcases List.append_eq_append_iff.mp same with ⟨between, rfl, tail⟩ | ⟨between, rfl, tail⟩
    · rw [nothing_between tail (place.symm.trans counted), List.append_nil]
    · rw [nothing_between tail (counted.symm.trans place), List.append_nil]
  subst alike
  obtain ⟨call, followed⟩ := List.cons.inj (List.append_cancel_left same)
  exact ⟨(Act.schedule.inj call).1, followed⟩

private theorem called_of_live
    (found : (empty.after acts).started[index]? = some ⟨ticket, delay, .live⟩) :
    ∃ later, Called acts index ticket delay later ∧ Unended index later := by
  induction acts using List.reverseRecOn with
  | nil => simp [after, empty] at found
  | append_singleton acts act ih =>
    rw [after_append] at found
    -- The last act has called for the timer, or it was waited for before and is left alone.
    rcases ((single_after acts).live_act_iff act).mp found with ⟨rfl, place⟩ | ⟨still, untouched⟩
    · exact ⟨[], ⟨acts, rfl, place.trans (next_place acts)⟩, by simp [Unended]⟩
    · obtain ⟨later, called, unended⟩ := ih still
      refine ⟨later ++ [act], called.append _, ?_⟩
      intro other member
      rcases List.mem_append.mp member with earlier | last
      · exact unended other earlier
      · obtain rfl := List.mem_singleton.mp last
        exact untouched

private theorem live_of_called (called : Called acts index ticket delay later)
    (unended : Unended index later) :
    (empty.after acts).started[index]? = some ⟨ticket, delay, .live⟩ := by
  obtain ⟨before, rfl, place⟩ := called
  induction later using List.reverseRecOn with
  | nil =>
    rw [after_append]
    exact ((single_after before).live_act_iff _).mpr (.inl ⟨rfl, place.trans (next_place _).symm⟩)
  | append_singleton later act ih =>
    have still := ih fun other member => unended other (List.mem_append_left _ member)
    rw [← List.cons_append, ← List.append_assoc, after_append]
    exact ((single_after _).live_act_iff act).mpr (.inr ⟨still, unended act (by simp)⟩)

/-- A timer is waited for exactly if nothing was ordered since it was called for, and its delay is
not over. -/
theorem live_iff_called :
    (empty.after acts).started[index]? = some ⟨ticket, delay, .live⟩ ↔
      ∃ later, Called acts index ticket delay later ∧ Unended index later :=
  ⟨called_of_live, fun ⟨_, called, unended⟩ => live_of_called called unended⟩

private theorem reports_append (timers : Timers) (first last : List Act) :
    timers.reports (first ++ last) = timers.reports first ++ (timers.after first).reports last := by
  induction first generalizing timers with
  | nil => rfl
  | cons act rest ih =>
    rw [List.cons_append, reports, reports, ih, List.append_assoc]
    rfl

private theorem report?_eq_some {act : Act} : timers.report? act = some (index, ticket) ↔
    act = .fire index ∧ ∃ delay, timers.started[index]? = some ⟨ticket, delay, .live⟩ := by
  constructor
  · intro told
    cases act with
    | schedule | cancel => cases told
    | fire place =>
      obtain ⟨fired, fires, same⟩ := Option.map_eq_some_iff.mp told
      obtain ⟨rfl, rfl⟩ := Prod.mk.inj same
      exact ⟨rfl, fires_iff.mp ⟨fired.2, fires⟩⟩
  · rintro ⟨rfl, delay, found⟩
    obtain ⟨_, fires⟩ := fires_iff.mpr ⟨delay, found⟩
    simp [report?, fires]

/-- A timer comes to fire, for the loop that it was called for, exactly if its delay is over before
anything else is ordered. -/
theorem mem_reports : (index, ticket) ∈ empty.reports acts ↔
    ∃ delay meanwhile later, Called acts index ticket delay (meanwhile ++ .fire index :: later) ∧
      Unended index meanwhile := by
  constructor
  · intro member
    induction acts using List.reverseRecOn with
    | nil => cases member
    | append_singleton acts act ih =>
      rw [reports_append] at member
      rcases List.mem_append.mp member with earlier | last
      · obtain ⟨delay, meanwhile, later, called, unended⟩ := ih earlier
        exact ⟨delay, meanwhile, later ++ [act], by simpa using called.append [act], unended⟩
      · have told : (empty.after acts).report? act = some (index, ticket) := by
          simpa [reports] using last
        obtain ⟨rfl, delay, found⟩ := report?_eq_some.mp told
        obtain ⟨meanwhile, called, unended⟩ := called_of_live found
        exact ⟨delay, meanwhile, [], called.append [.fire index], unended⟩
  · rintro ⟨delay, meanwhile, later, ⟨before, rfl, place⟩, unended⟩
    have called : Called (before ++ .schedule ticket delay :: meanwhile) index ticket delay
        meanwhile := ⟨before, rfl, place⟩
    have found := live_of_called called unended
    rw [← List.cons_append, ← List.append_assoc, reports_append, reports,
      report?_eq_some.mpr ⟨rfl, delay, found⟩]
    simp

private theorem nodup_reports (acts : List Act) : ((empty.reports acts).map Prod.fst).Nodup := by
  induction acts using List.reverseRecOn with
  | nil => exact List.nodup_nil
  | append_singleton acts act ih =>
    rw [reports_append]
    cases told : (empty.after acts).report? act with
    | none => simpa [reports, told] using ih
    | some report =>
      obtain ⟨index, ticket⟩ := report
      obtain ⟨rfl, delay, found⟩ := report?_eq_some.mp told
      obtain ⟨later, called, unended⟩ := called_of_live found
      have fresh : index ∉ (empty.reports acts).map Prod.fst := by
        intro member
        obtain ⟨⟨_, other⟩, earlier, rfl⟩ := List.mem_map.mp member
        obtain ⟨length, meanwhile, rest, again, _⟩ := mem_reports.mp earlier
        obtain ⟨_, rfl⟩ := called.unique again
        exact (unended _ (by simp)).2 rfl
      simp only [reports, told, Option.toList_some, List.append_nil, List.map_append, List.map_cons,
        List.map_nil]
      exact List.nodup_append.mpr ⟨ih, List.nodup_singleton _, by
        intro place member last final same
        rw [same, List.mem_singleton.mp final] at member
        exact fresh member⟩

private theorem same_or_earlier {first second rest tail : List Act} {one other : Act}
    (same : first ++ one :: rest = second ++ other :: tail) :
    one = other ∨ other ∈ first ∨ one ∈ second := by
  induction first generalizing second with
  | nil =>
    cases second with
    | nil => exact .inl (List.cons.inj same).1
    | cons head second =>
      obtain ⟨rfl, -⟩ := List.cons.inj same
      exact .inr (.inr (.head _))
  | cons head first ih =>
    cases second with
    | nil =>
      obtain ⟨rfl, -⟩ := List.cons.inj same
      exact .inr (.inl (.head _))
    | cons head second =>
      rcases ih (List.cons.inj same).2 with equal | within | before
      · exact .inl equal
      · exact .inr (.inl (.tail _ within))
      · exact .inr (.inr (.tail _ before))

/-- A timer that is ended by an order before its delay is over never fires. -/
theorem unreported_of_order {meanwhile : List Act} {order : Act}
    (called : Called acts index ticket delay (meanwhile ++ order :: later))
    (ordered : order.isOrder = true) (waited : .fire index ∉ meanwhile) :
    ∀ report ∈ empty.reports acts, report.1 ≠ index := by
  rintro ⟨_, told⟩ member rfl
  obtain ⟨length, before, rest, again, unended⟩ := mem_reports.mp member
  obtain ⟨_, same⟩ := called.unique again
  rcases same_or_earlier same with rfl | fired | early
  · cases ordered
  · exact waited fired
  · rw [(unended order early).1] at ordered
    cases ordered

/-- Whatever is called and whenever delays are over, at most one timer is waited for: the one that
was called for last, if nothing was ordered since. A call leads to one report at most, for its own
loop, namely if its delay is over before anything else is ordered; a timer that is ended by an order
before that never fires. -/
theorem one_timer_at_most (acts : List Act) :
    (empty.after acts).live.length ≤ 1 ∧
      (∀ (index : Nat) ticket delay,
        (empty.after acts).started[index]? = some ⟨ticket, delay, .live⟩ ↔
          ∃ later, Called acts index ticket delay later ∧ Unended index later) ∧
      ((empty.reports acts).map Prod.fst).Nodup ∧
      (∀ index ticket, (index, ticket) ∈ empty.reports acts ↔
        ∃ delay meanwhile later, Called acts index ticket delay (meanwhile ++ .fire index :: later) ∧
          Unended index meanwhile) ∧
      ∀ index ticket delay meanwhile order later,
        Called acts index ticket delay (meanwhile ++ order :: later) → order.isOrder = true →
          .fire index ∉ meanwhile → ∀ report ∈ empty.reports acts, report.1 ≠ index :=
  ⟨live_length_le acts, fun _ _ _ => live_iff_called, nodup_reports acts, fun _ _ => mem_reports,
    fun _ _ _ _ _ _ called ordered waited => unreported_of_order called ordered waited⟩

/-- A timer is replaced by another, which fires; the next one is let go of with its scheduler. All
three delays end. -/
def replacingRun : List Act :=
  [.schedule ⟨⟨"a"⟩, 1⟩ 100, .schedule ⟨⟨"b"⟩, 2⟩ 10, .fire 0, .fire 1, .cancel,
    .schedule ⟨⟨"b"⟩, 2⟩ 5, .drop, .fire 2]

theorem one_timer_at_most_replaced :
    (empty.after (replacingRun.take 3)).live = [⟨⟨⟨"b"⟩, 2⟩, 10, .live⟩] ∧
      (empty.after replacingRun).live.length ≤ 1 ∧
      empty.reports replacingRun = [(1, ⟨⟨"b"⟩, 2⟩)] ∧
      Called replacingRun 1 ⟨⟨"b"⟩, 2⟩ 10 ([.fire 0] ++ .fire 1 :: replacingRun.drop 4) ∧
      (1, ⟨⟨"b"⟩, 2⟩) ∈ empty.reports replacingRun ∧
      Called replacingRun 0 ⟨⟨"a"⟩, 1⟩ 100 ([] ++ replacingRun[1] :: replacingRun.drop 2) ∧
      (∀ report ∈ empty.reports replacingRun, report.1 ≠ 0) ∧
      Called replacingRun 2 ⟨⟨"b"⟩, 2⟩ 5 ([] ++ .drop :: replacingRun.drop 7) ∧
      ∀ report ∈ empty.reports replacingRun, report.1 ≠ 2 := by
  obtain ⟨single, _, _, fires, ended⟩ := one_timer_at_most replacingRun
  have told : Called replacingRun 1 ⟨⟨"b"⟩, 2⟩ 10 ([.fire 0] ++ .fire 1 :: replacingRun.drop 4) :=
    ⟨replacingRun.take 1, rfl, rfl⟩
  have replaced : Called replacingRun 0 ⟨⟨"a"⟩, 1⟩ 100
      ([] ++ replacingRun[1] :: replacingRun.drop 2) := ⟨[], rfl, rfl⟩
  have dropped : Called replacingRun 2 ⟨⟨"b"⟩, 2⟩ 5 ([] ++ .drop :: replacingRun.drop 7) :=
    ⟨replacingRun.take 5, rfl, rfl⟩
  have waited : Unended 1 [.fire 0] := by simp [Unended, Act.isOrder]
  exact ⟨by decide, single, by decide, told, (fires _ _).mpr ⟨_, _, _, told, waited⟩, replaced,
    ended _ _ _ _ _ _ replaced rfl List.not_mem_nil, dropped,
    ended _ _ _ _ _ _ dropped rfl List.not_mem_nil⟩

end ScanWatch.Timers
