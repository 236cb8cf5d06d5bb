import ScanWatch.Http.Status

namespace ScanWatch

inductive FailureKind where
  | invalidUrl
  | httpStatus (code : Nat)
  | timeout
  /-- A body beyond the limit, with its length as far as it is known. -/
  | tooLarge (maxBytes : Nat) (actual : Option Nat)
  | decode
  | network
deriving DecidableEq, Repr

structure Failure where
  kind : FailureKind
  message : String
deriving DecidableEq, Repr

namespace FailureKind

def lengthText : Option Nat → String
  | some length => "Some(" ++ length.repr ++ ")"
  | none => "None"

def text : FailureKind → String
  | invalidUrl => "invalid url"
  | httpStatus code => "http status " ++ code.repr
  | timeout => "timeout"
  | tooLarge maxBytes actual =>
    "response too large (max " ++ maxBytes.repr ++ ", actual " ++ lengthText actual ++ ")"
  | decode => "malformed response"
  | network => "network error"

end FailureKind

namespace Failure

def text (failure : Failure) : String :=
  failure.kind.text ++ ": " ++ failure.message

def ofStatus (status : Nat) : Failure :=
  ⟨.httpStatus status, Http.statusText status⟩

def tooLarge (maxBytes actual : Nat) : Failure :=
  ⟨.tooLarge maxBytes (some actual), "response too large"⟩

/-- A body that is not what was asked for. The message is always the same: it stands in place of the
words in which a reader of JSON says what it found and where. -/
def malformed : Failure :=
  ⟨.decode, "unexpected content"⟩

end Failure

end ScanWatch
