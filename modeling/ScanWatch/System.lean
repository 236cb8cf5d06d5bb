import ScanWatch.Session

namespace ScanWatch

structure System where
  session : Session
  engine : Engine

namespace System

def new (settings : PollSettings) : System :=
  ⟨.new settings, .idle⟩

def tell (system : System) (message : Message) : System :=
  let turn := system.session.dispatch message
  ⟨turn.session, system.engine.issue turn.reaction.commands⟩

def receive? (system : System) : Option System :=
  system.engine.deliver?.map fun (event, engine) =>
    { system with engine }.tell event.message

end System

/-- Messages that only the engine's polling may cause. -/
def Message.isPolled : Message → Bool
  | .pollDue _ | .matchesLoaded _ _ | .matchesFailed _ _ => true
  | _ => false

/-- One step of the whole: the engine works by itself, its next event arrives, or the user says
something. -/
inductive System.Step : System → System → Prop
  | work {system : System} {engine : Engine} (moves : system.engine.Step engine) :
      Step system { system with engine }
  | receive {system next : System} (received : system.receive? = some next) : Step system next
  | tell {system : System} (message : Message) (free : message.isPolled = false) :
      Step system (system.tell message)

end ScanWatch
