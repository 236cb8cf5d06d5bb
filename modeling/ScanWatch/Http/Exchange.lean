import ScanWatch.Url.Basic

namespace ScanWatch.Http

inductive Method where
  | get
  | post
deriving DecidableEq, Repr

def Method.text : Method → String
  | get => "GET"
  | post => "POST"

/-- A request for JSON; a body is JSON too. -/
structure Request where
  method : Method
  url : Url
  body : Option String
deriving DecidableEq, Repr

/-- A request that got no response, or not all of it. -/
structure TransportFailure where
  timedOut : Bool
  message : String
deriving DecidableEq, Repr

/-- The pieces that a body comes in, up to the first that could not be read. -/
inductive Body where
  | finished
  | broken (failure : TransportFailure)
  | chunk (bytes : List UInt8) (rest : Body)
deriving DecidableEq, Repr

/-- A response; its length may be declared before the body comes. -/
structure Response where
  status : Nat
  declaredLength : Option Nat
  body : Body
deriving DecidableEq, Repr

/-- What becomes of a request. -/
abbrev Outcome := Except TransportFailure Response

/-- The most bytes that the address of a request may have. -/
def longestAddress : Nat := 65534

/-- Whether a request can be put on a connection. Some signs that a domain name may have must not
stand in the host of a request. -/
def Request.isSendable (request : Request) : Bool :=
  ["http", "https"].contains request.url.scheme &&
    !((request.url.host.getD "").toList.any "\"\x60\x7b\x7d".toList.contains) &&
    request.url.withoutUser.text.utf8ByteSize ≤ longestAddress

def unreachable (request : Request) : TransportFailure :=
  let trouble := if request.isSendable then "error sending request" else "builder error"
  ⟨false, trouble ++ " for url (" ++ request.url.withoutUser.text ++ ")"⟩

end ScanWatch.Http
