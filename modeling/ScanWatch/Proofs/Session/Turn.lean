import ScanWatch.Proofs.Tracker.Coherence
import ScanWatch.Proofs.Tracker.Looking
import ScanWatch.Session

namespace ScanWatch

/-- Whether a message says that nothing happened. -/
def Message.isTick : Message → Bool
  | .tick => true
  | _ => false

theorem Message.eq_tick {message : Message} (quiet : message.isTick = true) : message = .tick := by
  cases message with
  | tick => rfl
  | _ => cases quiet

namespace Reaction

@[simp] theorem nil_followedBy (reaction : Reaction) : Reaction.followedBy {} reaction = reaction :=
  rfl

@[simp] theorem followedBy_nil (reaction : Reaction) : reaction.followedBy {} = reaction := by
  simp [followedBy]

private theorem followedBy_assoc (first second third : Reaction) :
    (first.followedBy second).followedBy third = first.followedBy (second.followedBy third) := by
  simp [followedBy]

end Reaction

namespace Session

def after (session : Session) (messages : List Message) : Session :=
  messages.foldl (fun session message => (session.dispatch message).session) session

/-- What all messages have the session do, in order. -/
def reaction (session : Session) : List Message → Reaction
  | [] => {}
  | message :: rest =>
    (session.dispatch message).reaction.followedBy
      ((session.dispatch message).session.reaction rest)

theorem after_cons (session : Session) (message : Message) (rest : List Message) :
    session.after (message :: rest) = (session.dispatch message).session.after rest := rfl

theorem after_append (session : Session) (first last : List Message) :
    session.after (first ++ last) = (session.after first).after last :=
  List.foldl_append

theorem reaction_append (session : Session) (first last : List Message) :
    session.reaction (first ++ last) =
      (session.reaction first).followedBy ((session.after first).reaction last) := by
  induction first generalizing session with
  | nil => rfl
  | cons message rest ih =>
    rw [List.cons_append, reaction, reaction, ih, Reaction.followedBy_assoc, after_cons]

theorem reaction_singleton (session : Session) (message : Message) :
    session.reaction [message] = (session.dispatch message).reaction :=
  Reaction.followedBy_nil _

/-- What a session does to its tracker as it is told messages: after each it takes a look. -/
def acts (messages : List Message) : List Tracker.Act :=
  messages.flatMap fun message => [.tell message, .look]

theorem tracker_after (session : Session) (messages : List Message) :
    (session.after messages).tracker = session.tracker.after (acts messages) := by
  induction messages generalizing session with
  | nil => rfl
  | cons message rest ih => exact ih _

theorem tracker_after_eq_foldl (session : Session) (messages : List Message) :
    (session.after messages).tracker =
      messages.foldl (fun tracker message => (tracker.update message).1.consumeDirty.2)
        session.tracker := by
  induction messages generalizing session with
  | nil => rfl
  | cons message rest ih => exact ih _

theorem coherent_after (settings : PollSettings) (messages : List Message) :
    ((new settings).after messages).tracker.Coherent := by
  rw [tracker_after]
  exact (Tracker.Initial.withSettings settings).coherent.after _

def Seen (session : Session) : Prop :=
  session.tracker.dirty = false

theorem seen_new (settings : PollSettings) : (Session.new settings).Seen := rfl

theorem seen_dispatch (session : Session) (message : Message) :
    (session.dispatch message).session.Seen := rfl

theorem Seen.after {session : Session} (seen : session.Seen) (messages : List Message) :
    (session.after messages).Seen := by
  induction messages generalizing session with
  | nil => exact seen
  | cons message rest ih => exact ih (session.seen_dispatch message)

variable {session : Session} {message : Message}

/-- A message that marks the tracker is followed by a look. -/
theorem view_dispatch_of_marked (marked : (session.tracker.update message).1.dirty = true) :
    (session.dispatch message).view = some (session.dispatch message).session.tracker.view := by
  simp [dispatch, Tracker.consumeDirty, marked]

namespace Seen

theorem dispatch_of_same (seen : session.Seen)
    (same : (session.tracker.update message).1 = session.tracker) :
    (session.dispatch message).session.tracker = session.tracker ∧
      (session.dispatch message).session.lastLine = session.lastLine ∧
      (session.dispatch message).view = none ∧ (session.dispatch message).reaction.lines = [] := by
  have clean : session.tracker.dirty = false := seen
  have kept : { session.tracker with dirty := false } = session.tracker := by rw [← clean]
  simp [dispatch, Tracker.consumeDirty, same, clean, kept, line?]

/-- The view seen last is up to date, also where no look is taken. -/
theorem view_dispatch (seen : session.Seen) (message : Message) :
    (session.dispatch message).view.getD session.tracker.view =
      (session.dispatch message).session.tracker.view := by
  rcases session.tracker.update_marks message with same | marked
  · obtain ⟨kept, _, unlooked, _⟩ := seen.dispatch_of_same same
    rw [unlooked, kept]
    rfl
  · rw [view_dispatch_of_marked marked]
    rfl

/-- A tick leaves everything as it is. -/
theorem dispatch_tick (seen : session.Seen) : session.dispatch .tick = ⟨session, none, {}⟩ := by
  obtain ⟨tracker, location, lastLine⟩ := session
  have clean : tracker.dirty = false := seen
  have kept : { tracker with dirty := false } = tracker := by rw [← clean]
  simp [dispatch, Tracker.update, Tracker.consumeDirty, clean, kept, line?]

end Seen

end Session

end ScanWatch
