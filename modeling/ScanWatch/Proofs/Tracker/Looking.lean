import Mathlib.Data.List.DropRight
import Mathlib.Data.List.Induction
import ScanWatch.Proofs.Tracker.Run
import ScanWatch.Tracker.View

namespace ScanWatch.Tracker

/-- Whatever a message changes, it asks for a look at it. -/
theorem update_marks (tracker : Tracker) (message : Message) :
    (tracker.update message).1 = tracker ∨ (tracker.update message).1.dirty = true := by
  have chosen : ∀ hash rawQuery, (tracker.chooseJob hash rawQuery).1.dirty = true := by
    intro hash rawQuery
    cases hash <;> rfl
  cases message with
  | mounted | unmounted | datasetsLoaded | collapseToggled | backendStatusLoaded
  | backendStatusFailed => exact .inr rfl
  | backendStatusRequested | tick => exact .inl rfl
  | querySubmitted hash rawQuery | jobChosen hash rawQuery => exact .inr (chosen _ _)
  | jobQueryLoaded hash rawQuery | jobQueryFailed hash reason =>
    simp only [update]
    split
    · exact .inr (chosen _ _)
    · exact .inl rfl
  | compileRequested | submitRequested | queryCompiled | queryFailed =>
    simp only [update]
    split
    · exact .inl rfl
    · exact .inr rfl
  | pollDue ticket =>
    simp only [update, onPollDue]
    split <;> exact .inl rfl
  | matchesLoaded ticket page =>
    simp only [update, onMatchesLoaded]
    split
    · split <;> exact .inr rfl
    · exact .inl rfl
  | matchesFailed ticket reason =>
    simp only [update, onMatchesFailed]
    split
    · exact .inr rfl
    · exact .inl rfl

/-- A mark that is there stays. -/
theorem update_keeps_mark {tracker : Tracker} (marked : tracker.dirty = true) (message : Message) :
    (tracker.update message).1.dirty = true := by
  rcases tracker.update_marks message with same | marks
  · rw [same]
    exact marked
  · exact marks

def Act.isTell : Act → Bool
  | tell _ => true
  | look => false

/-- A run up to its last look; nothing of it, if there is none. -/
def upToLook (run : List Act) : List Act :=
  run.rdropWhile Act.isTell

private theorem upToLook_look (run : List Act) : upToLook (run ++ [.look]) = run ++ [.look] :=
  List.rdropWhile_concat_neg _ _ _ Bool.false_ne_true

private theorem upToLook_tell (run : List Act) (message : Message) :
    upToLook (run ++ [.tell message]) = upToLook run :=
  List.rdropWhile_concat_pos _ _ _ rfl

/-- A tracker that is not marked is the one that was left by the last look. -/
theorem after_upToLook {start : Tracker} {run : List Act}
    (unmarked : (start.after run).dirty = false) :
    start.after run = start.after (upToLook run) := by
  induction run using List.reverseRecOn with
  | nil => rfl
  | append_singleton run act ih =>
    cases act with
    | look => rw [upToLook_look]
    | tell message =>
      rw [after_append] at unmarked ⊢
      change ((start.after run).update message).1.dirty = false at unmarked
      change ((start.after run).update message).1 = _
      rcases (start.after run).update_marks message with same | marked
      · rw [same] at unmarked ⊢
        rw [upToLook_tell]
        exact ih unmarked
      · rw [marked] at unmarked
        cases unmarked

/-- Whatever a message changes is marked, and no message takes a mark away. So in any run of
messages and looks, a look that finds no mark shows what was shown right after the look before it,
or at the beginning. -/
theorem unmarked_shows_nothing_new :
    (∀ (tracker : Tracker) (message : Message),
      ((tracker.update message).1 ≠ tracker → (tracker.update message).1.dirty = true) ∧
        (tracker.dirty = true → (tracker.update message).1.dirty = true)) ∧
      ∀ (start : Tracker) (run : List Act), (start.after run).consumeDirty.1 = false →
        (start.after run).view = (start.after (upToLook run)).view ∧
          (start.after run).consumeDirty.2.view = (start.after (upToLook run)).view := by
  constructor
  · intro tracker message
    exact ⟨(tracker.update_marks message).resolve_left, fun marked => update_keeps_mark marked _⟩
  · intro start run unmarked
    have same : start.after run = start.after (upToLook run) := after_upToLook unmarked
    have looked : (start.after run).consumeDirty.2 = start.after run := by
      have clean : (start.after run).dirty = false := unmarked
      rw [consumeDirty, ← clean]
    rw [looked, same]
    exact ⟨rfl, rfl⟩

/-- A job is opened and looked at; then a page of another loop comes, and nothing for a while. -/
def quietRun : List Act :=
  [.tell (.jobChosen (some ⟨"a"⟩) none), .look,
    .tell (.matchesLoaded ⟨⟨"b"⟩, 1⟩ ⟨[.null], .ofStatus .done⟩), .tell .tick]

theorem unmarked_shows_nothing_new_stale :
    (fresh.update (.jobChosen (some ⟨"a"⟩) none)).1 ≠ fresh ∧
      (fresh.update (.jobChosen (some ⟨"a"⟩) none)).1.dirty = true ∧
      ((fresh.update (.jobChosen (some ⟨"a"⟩) none)).1.update .tick).1.dirty = true ∧
      (fresh.after quietRun).consumeDirty.1 = false ∧
      upToLook quietRun = [.tell (.jobChosen (some ⟨"a"⟩) none), .look] ∧
      (fresh.after quietRun).view =
        (fresh.after [.tell (.jobChosen (some ⟨"a"⟩) none), .look]).view := by
  obtain ⟨messages, looks⟩ := unmarked_shows_nothing_new
  have changed : (fresh.update (.jobChosen (some ⟨"a"⟩) none)).1 ≠ fresh := by
    intro same
    cases congrArg Tracker.jobHash same
  have marked := (messages fresh (.jobChosen (some ⟨"a"⟩) none)).1 changed
  exact ⟨changed, marked, (messages _ .tick).2 marked, rfl, rfl, (looks fresh quietRun rfl).1⟩

end ScanWatch.Tracker
