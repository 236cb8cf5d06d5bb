import Mathlib.Data.List.Destutter
import ScanWatch.Proofs.Errand.Ending

namespace ScanWatch

namespace Session

variable {session : Session} {message : Message}

/-- The line that sums up what the session shows now. -/
def summary (session : Session) : String :=
  session.tracker.view.statusLine

/-- The summaries after each of some messages, in order. -/
def summaries (session : Session) : List Message → List String
  | [] => []
  | message :: rest =>
    let next := (session.dispatch message).session
    next.summary :: next.summaries rest

/-- The line written last sums up what the session shows now. -/
structure Announced (session : Session) : Prop where
  seen : session.Seen
  line : session.lastLine = some session.summary

private theorem line?_some (session : Session) (view : View) : session.line? (some view) =
    if session.lastLine = some view.statusLine then none else some view.statusLine := by
  by_cases written : session.lastLine = some view.statusLine <;> simp [line?, written]

/-- After a look the line written last is up to date; it is written now, unless it was already. -/
theorem announced_of_look
    (looked : (session.dispatch message).view =
      some (session.dispatch message).session.tracker.view) :
    (session.dispatch message).session.Announced ∧ (session.dispatch message).reaction.lines =
      if session.lastLine = some (session.dispatch message).session.summary then []
      else [(session.dispatch message).session.summary] := by
  have last : (session.dispatch message).session.lastLine =
      (session.line? (session.dispatch message).view).or session.lastLine := rfl
  have lines : (session.dispatch message).reaction.lines =
      (session.line? (session.dispatch message).view).toList := rfl
  have summed : (session.dispatch message).session.tracker.view.statusLine =
      (session.dispatch message).session.summary := rfl
  rw [looked, line?_some, summed] at last lines
  by_cases written : session.lastLine = some (session.dispatch message).session.summary
  · rw [if_pos written] at last lines ⊢
    exact ⟨⟨session.seen_dispatch message, last.trans written⟩, lines⟩
  · rw [if_neg written] at last lines ⊢
    exact ⟨⟨session.seen_dispatch message, last⟩, lines⟩

/-- Each message writes the summary after it, unless this is the one before it. -/
theorem Announced.dispatch (announced : session.Announced) (message : Message) :
    (session.dispatch message).session.Announced ∧ (session.dispatch message).reaction.lines =
      if session.summary = (session.dispatch message).session.summary then []
      else [(session.dispatch message).session.summary] := by
  rcases session.tracker.update_marks message with same | marked
  · obtain ⟨tracker, lastLine, _, silent⟩ := announced.seen.dispatch_of_same same
    have summary : (session.dispatch message).session.summary = session.summary :=
      congrArg (fun tracker => tracker.view.statusLine) tracker
    refine ⟨⟨session.seen_dispatch message, ?_⟩, ?_⟩
    · rw [lastLine, summary]
      exact announced.line
    · rw [silent, summary, if_pos rfl]
  · have looked := announced_of_look (view_dispatch_of_marked marked)
    simpa only [announced.line, Option.some.injEq] using looked

private theorem Announced.lines_reaction (announced : session.Announced) (messages : List Message) :
    session.summary :: (session.reaction messages).lines =
      (session.summaries messages).destutter' (· ≠ ·) session.summary := by
  induction messages generalizing session with
  | nil => rfl
  | cons message rest ih =>
    obtain ⟨next, written⟩ := announced.dispatch message
    have lines : (session.reaction (message :: rest)).lines =
        (session.dispatch message).reaction.lines ++
          ((session.dispatch message).session.reaction rest).lines := rfl
    rw [lines, written, summaries]
    by_cases same : session.summary = (session.dispatch message).session.summary
    · rw [if_pos same, List.nil_append, List.destutter'_cons_neg _ (not_not_intro same), same]
      exact ih next
    · rw [if_neg same, List.singleton_append, List.destutter'_cons_pos _ same]
      exact congrArg _ (ih next)

private theorem lines_reaction_new (settings : PollSettings) (route : Route)
    (messages : List Message) :
    ((new settings).reaction (.mounted route :: messages)).lines =
      ((new settings).summaries (.mounted route :: messages)).destutter (· ≠ ·) := by
  have marked : ((new settings).tracker.update (.mounted route)).1.dirty = true := rfl
  obtain ⟨opened, written⟩ := announced_of_look (view_dispatch_of_marked marked)
  have lines : ((new settings).reaction (.mounted route :: messages)).lines =
      ((new settings).dispatch (.mounted route)).reaction.lines ++
        (((new settings).dispatch (.mounted route)).session.reaction messages).lines := rfl
  have unwritten : (new settings).lastLine = none := rfl
  rw [lines, written, unwritten, if_neg (Option.some_ne_none _).symm, List.singleton_append,
    summaries, List.destutter_cons']
  exact opened.lines_reaction messages

end Session

namespace Errand

variable (settings : PollSettings) (route : Route) (goal : Goal)

/-- An errand is a session that is told the messages up to the one that reaches the goal, and then
that the page is left. -/
theorem reaction_run (messages : List Message) :
    ∃ told, told <+: messages ∧
      (∀ part, part <+: told → part ≠ told →
        (start settings route goal).1.reachedAfter part = false) ∧
      (told = messages ∨ (start settings route goal).1.reachedAfter told = true) ∧
      (run settings route goal messages).2 =
        (Session.new settings).reaction (opening route goal ++ told ++ [.unmounted]) := by
  have started := upToDate_start settings route goal
  obtain ⟨told, begins, before, ends, same⟩ := started.follow_shortest messages
  have followed := same.trans (started.tellAll told)
  refine ⟨told, begins, before, ends, ?_⟩
  rw [Session.reaction_append, Session.reaction_append, Session.reaction_singleton,
    Session.after_append]
  simp only [run, followed, finish]
  rw [start_told]

/-- Whatever messages a session is told after its page was opened, it writes the summaries after all
of them, each run of equal ones once; so no two lines in a row are the same. An errand writes the
lines of the messages it was told, from the opening of the page until it is left. -/
theorem lines_sum_up :
    (∀ messages, ((Session.new settings).reaction (.mounted route :: messages)).lines =
        ((Session.new settings).summaries (.mounted route :: messages)).destutter (· ≠ ·) ∧
      ((Session.new settings).reaction (.mounted route :: messages)).lines.IsChain (· ≠ ·)) ∧
    ∀ messages, ∃ told, told <+: messages ∧
      (∀ part, part <+: told → part ≠ told →
        (start settings route goal).1.reachedAfter part = false) ∧
      (told = messages ∨ (start settings route goal).1.reachedAfter told = true) ∧
      (run settings route goal messages).2.lines =
        ((Session.new settings).summaries
          (opening route goal ++ told ++ [.unmounted])).destutter (· ≠ ·) ∧
      (run settings route goal messages).2.lines.IsChain (· ≠ ·) := by
  constructor
  · intro messages
    rw [Session.lines_reaction_new]
    exact ⟨rfl, List.isChain_destutter _ _⟩
  · intro messages
    obtain ⟨told, begins, before, ends, same⟩ := reaction_run settings route goal messages
    have lines := Session.lines_reaction_new settings route
      (goal.request?.toList ++ told ++ [.unmounted])
    refine ⟨told, begins, before, ends, ?_⟩
    rw [same]
    refine ⟨lines, ?_⟩
    rw [show opening route goal ++ told ++ [.unmounted] =
      .mounted route :: (goal.request?.toList ++ told ++ [.unmounted]) from rfl, lines]
    exact List.isChain_destutter _ _

end Errand

end ScanWatch
