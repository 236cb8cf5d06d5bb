import ScanWatch.Goal
import ScanWatch.Session

namespace ScanWatch

structure Errand where
  goal : Goal
  session : Session
  /-- The view seen last. -/
  view : View

namespace Errand

def isDone (errand : Errand) : Bool :=
  errand.goal.isReached errand.view

/-- Tells the session a message; without a new look the view stays. -/
def tell (errand : Errand) (message : Message) : Errand × Reaction :=
  let turn := errand.session.dispatch message
  ({ errand with session := turn.session, view := turn.view.getD errand.view }, turn.reaction)

/-- The messages that an errand begins with. -/
def opening (route : Route) (goal : Goal) : List Message :=
  .mounted route :: goal.request?.toList

def tellAll (errand : Errand) : List Message → Errand × Reaction
  | [] => (errand, {})
  | message :: rest =>
    let (next, reaction) := errand.tell message
    let (last, others) := next.tellAll rest
    (last, reaction.followedBy others)

/-- Opens a location, and asks for what the goal needs. -/
def start (settings : PollSettings) (route : Route) (goal : Goal) : Errand × Reaction :=
  let session := Session.new settings
  let (errand, reaction) :=
    tellAll ⟨goal, session, session.tracker.view⟩ (opening route goal)
  ({ errand with view := errand.session.tracker.view }, reaction)

/-- Tells messages as they come, until the goal is reached or no more come. -/
def follow (errand : Errand) : List Message → Errand × Reaction
  | [] => (errand, {})
  | message :: rest =>
    if errand.isDone then (errand, {})
    else
      let (next, reaction) := errand.tell message
      let (last, others) := next.follow rest
      (last, reaction.followedBy others)

/-- Leaves the page; the view stays the one seen before. -/
def finish (errand : Errand) : Errand × Reaction :=
  let turn := errand.session.dispatch .unmounted
  ({ errand with session := turn.session }, turn.reaction)

def run (settings : PollSettings) (route : Route) (goal : Goal) (messages : List Message) :
    Errand × Reaction :=
  let (started, first) := start settings route goal
  let (followed, others) := started.follow messages
  let (finished, last) := followed.finish
  (finished, (first.followedBy others).followedBy last)

end Errand

end ScanWatch
