import ScanWatch.Errand

namespace ScanWatch

structure Pursuit where
  errand : Errand
  engine : Engine

namespace Pursuit

def start (settings : PollSettings) (route : Route) (goal : Goal) : Pursuit :=
  let (errand, reaction) := Errand.start settings route goal
  ⟨errand, Engine.idle.issue reaction.commands⟩

def tell (pursuit : Pursuit) (message : Message) : Pursuit :=
  let (errand, reaction) := pursuit.errand.tell message
  ⟨errand, pursuit.engine.issue reaction.commands⟩

/-- One step of the whole: the engine works by itself, or, until the goal is reached, its next event
arrives, or nothing does for a while. -/
inductive Step : Pursuit → Pursuit → Prop
  | work {pursuit : Pursuit} {engine : Engine} (moves : pursuit.engine.Step engine) :
      Step pursuit { pursuit with engine }
  | receive {pursuit : Pursuit} {event : Event} {engine : Engine}
      (pending : pursuit.errand.isDone = false)
      (delivered : pursuit.engine.deliver? = some (event, engine)) :
      Step pursuit ({ pursuit with engine }.tell event.message)
  | wait {pursuit : Pursuit} (pending : pursuit.errand.isDone = false) :
      Step pursuit (pursuit.tell .tick)

end Pursuit

end ScanWatch
