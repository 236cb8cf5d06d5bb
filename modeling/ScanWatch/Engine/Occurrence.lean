import ScanWatch.Engine.Basic
import ScanWatch.Service.Client

namespace ScanWatch

inductive Occurrence where
  /-- A running request got a response, or failed to. -/
  | answered (request : Request) (outcome : Http.Outcome)
  /-- The delay of a timer is over. -/
  | expired (index : Nat)
  /-- Nothing happened for a while. -/
  | quiet

def Engine.undergo (engine : Engine) (client : Client) : Occurrence → Engine
  | .answered request outcome => engine.complete request (client.answer request outcome)
  | .expired index => engine.expire index
  | .quiet => engine

end ScanWatch
