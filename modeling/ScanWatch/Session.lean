import ScanWatch.Display.StatusLine
import ScanWatch.Engine.Basic
import ScanWatch.Tracker.Update

/-! A session keeps a tracker up to date. It hands the tracker's effects on, and writes a line
whenever the summary of its view changes. -/

namespace ScanWatch

structure Session where
  tracker : Tracker
  /-- Where the session points; navigation alone moves it. -/
  location : Route := .compose
  /-- The line written last. -/
  lastLine : Option String := none

/-- What a message has a session do: commands for the engine, and lines to write. -/
structure Reaction where
  commands : List Command := []
  lines : List String := []
deriving DecidableEq, Repr

def Reaction.followedBy (first second : Reaction) : Reaction :=
  ⟨first.commands ++ second.commands, first.lines ++ second.lines⟩

def Effect.moves (location : Route) : Effect → Route
  | .navigate route => route
  | _ => location

/-- What follows a message: the session after it, a view if a look was due, and the reaction. -/
structure Turn where
  session : Session
  view : Option View
  reaction : Reaction

namespace Session

def new (settings : PollSettings) : Session :=
  { tracker := .withSettings settings }

/-- The line that a view calls for, unless it is the one written last. -/
def line? (session : Session) (view : Option View) : Option String :=
  (view.map View.statusLine).filter fun line => session.lastLine ≠ some line

/-- Tells the tracker a message. Only after a change is it looked at. -/
def dispatch (session : Session) (message : Message) : Turn :=
  let (updated, effects) := session.tracker.update message
  let (changed, tracker) := updated.consumeDirty
  let view := if changed then some tracker.view else none
  let line := session.line? view
  { session :=
      { tracker
        location := effects.foldl Effect.moves session.location
        lastLine := line.or session.lastLine }
    view
    reaction := ⟨effects.filterMap Effect.command?, line.toList⟩ }

end Session

end ScanWatch
