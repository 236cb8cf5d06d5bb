import ScanWatch.Tracker.Update

namespace ScanWatch.Tracker

/-- What may be done to a tracker. -/
inductive Act where
  | tell (message : Message)
  | look

def act (tracker : Tracker) : Act → Tracker
  | .tell message => (tracker.update message).1
  | .look => tracker.consumeDirty.2

def after (tracker : Tracker) (run : List Act) : Tracker :=
  run.foldl act tracker

/-- The trackers that a run may begin with. -/
inductive Initial : Tracker → Prop where
  | fresh : Initial .fresh
  | withSettings (settings : PollSettings) : Initial (.withSettings settings)

/-- The job that a message makes the tracker open a polling loop for. -/
def opening? (tracker : Tracker) : Message → Option JobHash
  | .jobQueryLoaded hash _ | .jobQueryFailed hash _ =>
    if tracker.jobHash = some hash then some hash else none
  | .querySubmitted hash _ => some hash
  | .jobChosen hash _ => hash
  | _ => none

def opens (tracker : Tracker) : Act → Bool
  | .tell message => (tracker.opening? message).isSome
  | .look => false

def opened (tracker : Tracker) : List Act → Nat
  | [] => 0
  | act :: rest => (tracker.opens act).toNat + (tracker.act act).opened rest

def effectsOf (tracker : Tracker) : Act → List Effect
  | .tell message => (tracker.update message).2
  | .look => []

def effects (tracker : Tracker) : List Act → List Effect
  | [] => []
  | act :: rest => tracker.effectsOf act ++ (tracker.act act).effects rest

@[simp] theorem after_nil (tracker : Tracker) : tracker.after [] = tracker := rfl

theorem after_append (tracker : Tracker) (first last : List Act) :
    tracker.after (first ++ last) = (tracker.after first).after last :=
  List.foldl_append

theorem opened_append (tracker : Tracker) (first last : List Act) :
    tracker.opened (first ++ last) = tracker.opened first + (tracker.after first).opened last := by
  induction first generalizing tracker with
  | nil => simp [opened]
  | cons act rest ih =>
    rw [List.cons_append, opened, opened, ih, Nat.add_assoc]
    rfl

theorem effects_append (tracker : Tracker) (first last : List Act) :
    tracker.effects (first ++ last) =
      tracker.effects first ++ (tracker.after first).effects last := by
  induction first generalizing tracker with
  | nil => rfl
  | cons act rest ih =>
    rw [List.cons_append, effects, effects, ih, List.append_assoc]
    rfl

theorem effects_told (tracker : Tracker) (message : Message) :
    tracker.effects [.tell message, .look] = (tracker.update message).2 :=
  List.append_nil _

end ScanWatch.Tracker
