import ScanWatch.Http.Exchange
import ScanWatch.Service.Failure

namespace ScanWatch

def Failure.ofTransport (failure : Http.TransportFailure) : Failure :=
  ⟨if failure.timedOut then .timeout else .network, failure.message⟩

namespace Http

/-- Reads on from the bytes held so far, and stops at the chunk that would exceed the limit. -/
def Body.readFrom (maxBytes : Nat) (held : List UInt8) : Body → Except Failure (List UInt8)
  | .finished => .ok held
  | .broken failure => .error (.ofTransport failure)
  | .chunk bytes rest =>
    let length := held.length + bytes.length
    if maxBytes < length then .error (.tooLarge maxBytes length)
    else rest.readFrom maxBytes (held ++ bytes)

/-- Reads the whole body, unless its declared or actual length exceeds the limit. -/
def Response.read (response : Response) (maxBytes : Nat) : Except Failure (List UInt8) :=
  match response.declaredLength with
  | some length =>
    if maxBytes < length then .error (.tooLarge maxBytes length)
    else response.body.readFrom maxBytes []
  | none => response.body.readFrom maxBytes []

end Http

end ScanWatch
