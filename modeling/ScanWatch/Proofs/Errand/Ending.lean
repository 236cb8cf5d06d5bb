import ScanWatch.Errand
import ScanWatch.Proofs.Session.Turn

namespace ScanWatch.Errand

structure UpToDate (errand : Errand) : Prop where
  seen : errand.session.Seen
  view : errand.view = errand.session.tracker.view

variable {errand : Errand}

theorem UpToDate.tell (upToDate : errand.UpToDate) (message : Message) :
    (errand.tell message).1.UpToDate where
  seen := errand.session.seen_dispatch message
  view := by
    change (errand.session.dispatch message).view.getD errand.view = _
    rw [upToDate.view]
    exact upToDate.seen.view_dispatch message

theorem UpToDate.tell_tick (upToDate : errand.UpToDate) : errand.tell .tick = (errand, {}) := by
  simp [Errand.tell, upToDate.seen.dispatch_tick]

private theorem tellAll_cons (errand : Errand) (message : Message) (rest : List Message) :
    errand.tellAll (message :: rest) =
      (((errand.tell message).1.tellAll rest).1,
        (errand.tell message).2.followedBy ((errand.tell message).1.tellAll rest).2) := rfl

theorem UpToDate.tellAll (upToDate : errand.UpToDate) (messages : List Message) :
    errand.tellAll messages =
      (⟨errand.goal, errand.session.after messages, (errand.session.after messages).tracker.view⟩,
        errand.session.reaction messages) := by
  induction messages generalizing errand with
  | nil =>
    have same : errand = { errand with view := errand.session.tracker.view } := by
      rw [← upToDate.view]
    exact congrArg (fun errand => (errand, _)) same
  | cons message rest ih =>
    rw [tellAll_cons, ih (upToDate.tell message)]
    rfl

private theorem UpToDate.follow (upToDate : errand.UpToDate) (messages : List Message) :
    (errand.follow messages).1.UpToDate := by
  induction messages generalizing errand with
  | nil => exact upToDate
  | cons message rest ih =>
    rw [Errand.follow]
    split
    · exact upToDate
    · exact ih (upToDate.tell message)

private theorem follow_of_isDone (done : errand.isDone = true) (messages : List Message) :
    errand.follow messages = (errand, {}) := by
  cases messages with
  | nil => rfl
  | cons message rest => rw [follow, if_pos done]

theorem follow_cons (pending : errand.isDone = false) (message : Message) (rest : List Message) :
    errand.follow (message :: rest) =
      (((errand.tell message).1.follow rest).1,
        (errand.tell message).2.followedBy ((errand.tell message).1.follow rest).2) := by
  rw [follow, if_neg (by simp [pending])]

/-- Whether the goal is reached once the session was told some messages. -/
def reachedAfter (errand : Errand) (messages : List Message) : Bool :=
  errand.goal.isReached (errand.session.after messages).tracker.view

theorem UpToDate.isDone (upToDate : errand.UpToDate) :
    errand.isDone = errand.goal.isReached errand.session.tracker.view := by
  rw [Errand.isDone, upToDate.view]

/-- An errand is followed over the shortest beginning of the messages that reaches its goal, or over
all of them. -/
theorem UpToDate.follow_shortest (upToDate : errand.UpToDate) (messages : List Message) :
    ∃ told, told <+: messages ∧
      (∀ part, part <+: told → part ≠ told → errand.reachedAfter part = false) ∧
      (told = messages ∨ errand.reachedAfter told = true) ∧
      errand.follow messages = errand.tellAll told := by
  induction messages generalizing errand with
  | nil =>
    refine ⟨[], List.nil_prefix, fun part first proper => ?_, .inl rfl, rfl⟩
    exact absurd (List.prefix_nil.mp first) proper
  | cons message rest ih =>
    cases done : errand.isDone with
    | true =>
      have reached := upToDate.isDone.symm.trans done
      refine ⟨[], List.nil_prefix, fun part first proper => ?_, .inr reached,
        follow_of_isDone done _⟩
      exact absurd (List.prefix_nil.mp first) proper
    | false =>
      obtain ⟨told, begins, before, ends, same⟩ := ih (upToDate.tell message)
      refine ⟨message :: told, (List.prefix_cons_inj message).mpr begins, ?_, ?_, ?_⟩
      · intro part first proper
        rcases List.prefix_cons_iff.mp first with rfl | ⟨tail, rfl, inside⟩
        · exact upToDate.isDone.symm.trans done
        · exact before tail inside fun whole => proper (congrArg (message :: ·) whole)
      · exact ends.imp_left (congrArg (message :: ·))
      · rw [follow_cons done, same]
        rfl

/-- Ticks among the messages make no difference. -/
theorem UpToDate.follow_skip_ticks (upToDate : errand.UpToDate) (messages : List Message) :
    errand.follow (messages.filter fun message => !message.isTick) = errand.follow messages := by
  induction messages generalizing errand with
  | nil => rfl
  | cons message rest ih =>
    cases done : errand.isDone with
    | true => rw [follow_of_isDone done, follow_of_isDone done]
    | false =>
      rw [List.filter_cons]
      cases quiet : message.isTick with
      | true =>
        obtain rfl := Message.eq_tick quiet
        simp only [Bool.not_true, Bool.false_eq_true, ↓reduceIte, ih upToDate, follow_cons done,
          upToDate.tell_tick, Reaction.nil_followedBy]
      | false =>
        simp only [Bool.not_false, ↓reduceIte, follow_cons done, ih (upToDate.tell message)]

variable (settings : PollSettings) (route : Route) (goal : Goal)

def new : Errand :=
  ⟨goal, .new settings, (Session.new settings).tracker.view⟩

private theorem upToDate_new : (new settings goal).UpToDate :=
  ⟨rfl, rfl⟩

theorem view_run (messages : List Message) : (run settings route goal messages).1.view =
    ((start settings route goal).1.follow messages).1.view := rfl

theorem start_told : start settings route goal =
    (⟨goal, (Session.new settings).after (opening route goal),
      ((Session.new settings).after (opening route goal)).tracker.view⟩,
      (Session.new settings).reaction (opening route goal)) := by
  change ({ ((new settings goal).tellAll (opening route goal)).1 with
      view := ((new settings goal).tellAll (opening route goal)).1.session.tracker.view },
    ((new settings goal).tellAll (opening route goal)).2) = _
  rw [(upToDate_new settings goal).tellAll]
  rfl

theorem upToDate_start : (start settings route goal).1.UpToDate := by
  rw [start_told]
  exact ⟨(Session.seen_new settings).after _, rfl⟩

private theorem opening_unreached {part : List Message} (first : part <+: opening route goal)
    (proper : part ≠ opening route goal) : (new settings goal).reachedAfter part = false := by
  have short : (opening route goal).length ≤ 2 := by cases goal <;> simp [opening, Goal.request?]
  have less : part.length < (opening route goal).length :=
    Nat.lt_of_le_of_ne first.length_le fun same => proper (first.eq_of_length same)
  rw [List.prefix_iff_eq_take.mp first]
  match size : part.length with
  | 0 => cases goal <;> rfl
  | 1 => cases goal <;> cases route <;> rfl
  | more + 2 => omega

/-- At every moment of an errand the view seen last is that of the session, whose tracker has been
updated with each message and looked at. The errand ends with the shortest sequence of messages that
reaches its goal, or when no more come; it keeps the view of that moment when the page is left.
Ticks make no difference, wherever they come. -/
theorem run_ends_with_goal (messages : List Message) :
    (∀ part, ((start settings route goal).1.follow part).1.view =
      ((start settings route goal).1.follow part).1.session.tracker.view) ∧
    (∀ told, ((Session.new settings).after told).tracker =
      told.foldl (fun tracker message => (tracker.update message).1.consumeDirty.2)
        (Tracker.withSettings settings)) ∧
    (∃ told, told <+: opening route goal ++ messages ∧
      (∀ part, part <+: told → part ≠ told →
        goal.isReached ((Session.new settings).after part).tracker.view = false) ∧
      (told = opening route goal ++ messages ∨
        goal.isReached ((Session.new settings).after told).tracker.view = true) ∧
      (run settings route goal messages).1.view =
        ((Session.new settings).after told).tracker.view ∧
      (run settings route goal messages).1.session =
        (Session.new settings).after (told ++ [.unmounted]) ∧
      (run settings route goal messages).2 =
        (Session.new settings).reaction (told ++ [.unmounted])) ∧
    run settings route goal (messages.filter fun message => !message.isTick) =
      run settings route goal messages := by
  have started := upToDate_start settings route goal
  refine ⟨fun part => (started.follow part).view, Session.tracker_after_eq_foldl _, ?_, ?_⟩
  · obtain ⟨told, begins, before, ends, same⟩ := started.follow_shortest messages
    have opened := start_told settings route goal
    have later : ∀ part, (start settings route goal).1.reachedAfter part =
        goal.isReached
          ((Session.new settings).after (opening route goal ++ part)).tracker.view := by
      intro part
      rw [opened, Session.after_append]
      rfl
    refine ⟨opening route goal ++ told, (List.prefix_append_right_inj _).mpr begins, ?_, ?_, ?_⟩
    · intro part first proper
      rcases List.prefix_or_prefix_of_prefix first (List.prefix_append ..) with inside | ⟨rest, rfl⟩
      · by_cases whole : part = opening route goal
        · rw [whole, ← List.append_nil (opening route goal), ← later]
          refine before [] List.nil_prefix fun nothing => proper ?_
          rw [whole, ← nothing, List.append_nil]
        · exact opening_unreached settings route goal inside whole
      · rw [← later]
        refine before rest ((List.prefix_append_right_inj _).mp first) fun whole => proper ?_
        rw [whole]
    · exact ends.imp (congrArg (opening route goal ++ ·)) fun reached => later told ▸ reached
    · have followed := same.trans (started.tellAll told)
      rw [Session.after_append, Session.after_append, Session.reaction_append,
        Session.reaction_append, Session.reaction_singleton, Session.after_append]
      simp only [run, followed, finish]
      rw [opened]
      exact ⟨rfl, rfl, rfl⟩
  · simp only [run, started.follow_skip_ticks]

end ScanWatch.Errand
