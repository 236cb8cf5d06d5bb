import ScanWatch.Engine.Timers

namespace ScanWatch.Timers

def waiting (timers : Timers) (ticket : PollTicket) : Nat :=
  timers.live.countP fun timer => timer.ticket == ticket

private theorem waiting_eq (timers : Timers) (ticket : PollTicket) :
    timers.waiting ticket =
      timers.started.countP fun timer => timer.ticket == ticket && timer.phase = .live :=
  List.countP_filter

private theorem countP_modify_le {α : Type} {test : α → Bool} {change : α → α}
    (lost : ∀ item, test (change item) = true → test item = true) (items : List α) (index : Nat) :
    (items.modify index change).countP test ≤ items.countP test := by
  induction items generalizing index with
  | nil => simp
  | cons head rest ih =>
    cases index with
    | zero =>
      simp only [List.modify_zero_cons, List.countP_cons]
      have := lost head
      split <;> simp_all
    | succ index =>
      simp only [List.modify_succ_cons, List.countP_cons]
      have := ih index
      omega

private theorem ended_phase (timer : Timer) : (ended timer).phase ≠ .live := by
  unfold ended
  split
  · simp
  · assumption

theorem waiting_cancel_le (timers : Timers) (ticket : PollTicket) :
    timers.cancel.waiting ticket ≤ timers.waiting ticket := by
  rw [waiting_eq, waiting_eq]
  unfold cancel
  cases timers.handle with
  | none => exact Nat.le_refl _
  | some index =>
    refine countP_modify_le ?_ timers.started index
    intro timer live
    simp [ended_phase] at live

theorem waiting_schedule (timers : Timers) (ticket other : PollTicket) (delay : UInt64) :
    (timers.schedule ticket delay).waiting other =
      timers.cancel.waiting other + if ticket = other then 1 else 0 := by
  simp [waiting_eq, schedule]

theorem waiting_fire {timers next : Timers} {index : Nat} {fired : PollTicket}
    (fires : timers.fire? index = some (fired, next)) (ticket : PollTicket) :
    timers.waiting ticket = next.waiting ticket + if fired = ticket then 1 else 0 := by
  unfold fire? at fires
  split at fires
  · next timer found =>
    split at fires
    · next live =>
      obtain ⟨rfl, rfl⟩ := Prod.mk.inj (Option.some.inj fires)
      obtain ⟨inside, same⟩ := List.getElem?_eq_some_iff.mp found
      rw [waiting_eq, waiting_eq, List.countP_set inside, same]
      simp only [live, decide_true, Bool.and_true, beq_iff_eq, reduceCtorEq, decide_false,
        Bool.and_false, Bool.false_eq_true, ↓reduceIte, Nat.add_zero]
      split
      · next own =>
        have present : 0 < timers.started.countP
            fun timer => timer.ticket == ticket && timer.phase = .live :=
          List.countP_pos_iff.mpr ⟨timer, List.mem_of_getElem? found, by simp [own, live]⟩
        omega
      · rfl
    · cases fires
  · cases fires

/-- A live timer is the one whose handle is kept. -/
def Single (timers : Timers) : Prop :=
  ∀ (index : Nat) (timer : Timer), timers.started[index]? = some timer → timer.phase = .live →
    timers.handle = some index

variable {timers other : Timers}

theorem mem_live {timer : Timer} : timer ∈ timers.live ↔
    ∃ index : Nat, timers.started[index]? = some timer ∧ timer.phase = .live := by
  rw [live, List.mem_filter, List.mem_iff_getElem?, decide_eq_true_eq]
  exact exists_and_right.symm

theorem single_empty : Timers.empty.Single := by
  intro index timer found
  simp [Timers.empty] at found

theorem Single.live_cancel (single : timers.Single) : timers.cancel.live = [] := by
  refine List.eq_nil_iff_forall_not_mem.mpr fun timer member => ?_
  obtain ⟨index, found, live⟩ := mem_live.mp member
  unfold cancel at found
  split at found
  · next unkept =>
    have kept := single index timer found live
    rw [unkept] at kept
    cases kept
  · next place kept =>
    simp only [List.getElem?_modify] at found
    split at found
    · obtain ⟨before, _, rfl⟩ := Option.map_eq_some_iff.mp found
      exact ended_phase before live
    · next elsewhere =>
      have same := single index timer (by simpa using found) live
      rw [kept] at same
      exact elsewhere (Option.some.inj same)

theorem Single.live_schedule (single : timers.Single) (ticket : PollTicket) (delay : UInt64) :
    (timers.schedule ticket delay).live = [⟨ticket, delay, .live⟩] := by
  have none : timers.cancel.started.filter (fun timer => timer.phase = .live) = [] :=
    single.live_cancel
  simp [live, schedule, none]

theorem single_of_live_nil (none : timers.live = []) : timers.Single := by
  intro index timer found live
  have member : timer ∈ timers.live := mem_live.mpr ⟨index, found, live⟩
  rw [none] at member
  cases member

theorem Single.schedule (single : timers.Single) (ticket : PollTicket) (delay : UInt64) :
    (timers.schedule ticket delay).Single := by
  intro index timer found live
  have started : (timers.schedule ticket delay).started =
      timers.cancel.started ++ [⟨ticket, delay, .live⟩] := rfl
  rw [started, List.getElem?_append] at found
  split at found
  · have member : timer ∈ timers.cancel.live := mem_live.mpr ⟨index, found, live⟩
    rw [single.live_cancel] at member
    cases member
  · have last : index = timers.cancel.started.length := by
      obtain ⟨inside, _⟩ := List.getElem?_eq_some_iff.mp found
      simp only [List.length_singleton] at inside
      omega
    rw [last]
    rfl

theorem Single.live_fire (single : timers.Single) {index : Nat} {fired : PollTicket}
    (fires : timers.fire? index = some (fired, other)) : other.live = [] := by
  unfold fire? at fires
  split at fires
  · next timer found =>
    split at fires
    · next live =>
      obtain ⟨rfl, rfl⟩ := Prod.mk.inj (Option.some.inj fires)
      refine List.eq_nil_iff_forall_not_mem.mpr fun rival member => ?_
      obtain ⟨place, set, alive⟩ := mem_live.mp member
      rw [List.getElem?_set] at set
      split at set
      · split at set
        · obtain rfl := Option.some.inj set
          cases alive
        · cases set
      · next elsewhere =>
        have kept := single index timer found live
        rw [single place rival set alive] at kept
        exact elsewhere (Option.some.inj kept).symm
    · cases fires
  · cases fires

end ScanWatch.Timers
