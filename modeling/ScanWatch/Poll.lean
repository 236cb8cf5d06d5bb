import ScanWatch.Payload.Job

namespace ScanWatch

/-- Matches asked for at a time, and the delays after a full and after any other page. -/
structure PollSettings where
  pageSize : UInt64
  shortDelay : UInt64
  longDelay : UInt64
deriving DecidableEq, Repr

inductive PollStep where
  | again (delay : UInt64)
  | stop
deriving DecidableEq, Repr

/-- One polling loop. Answers that carry another ticket than the current one are dropped. -/
structure PollTicket where
  hash : JobHash
  epoch : UInt64
deriving DecidableEq, Repr, Inhabited

inductive PollStatus where
  | idle
  | polling
  | finished
  /-- A request failed; the loop is not tried again. -/
  | stalled (reason : String)
deriving DecidableEq, Repr, Inhabited

namespace PollSettings

def default : PollSettings :=
  ⟨50, 50, 1000⟩

instance : Inhabited PollSettings := ⟨default⟩

/-- An empty request never drains a job, so a page holds at least one match. -/
def raised (settings : PollSettings) : PollSettings :=
  { settings with pageSize := max settings.pageSize 1 }

theorem pageSize_raised (settings : PollSettings) : 1 ≤ settings.raised.pageSize := by
  change 1 ≤ ite (settings.pageSize ≤ 1) 1 settings.pageSize
  split
  · exact UInt64.le_refl 1
  · next more => exact UInt64.le_of_lt (UInt64.not_le.mp more)

def fields : List String :=
  ["page_size", "short_delay_ms", "long_delay_ms"]

open Payload in
def decode : Decoder PollSettings := Decoder.record fields fun depth members => do
  let pageSize ← members.withDefault "page_size" default.pageSize (Decoder.count depth)
  let shortDelay ← members.withDefault "short_delay_ms" default.shortDelay (Decoder.count depth)
  let longDelay ← members.withDefault "long_delay_ms" default.longDelay (Decoder.count depth)
  return ⟨pageSize, shortDelay, longDelay⟩

open Payload in
def encode (settings : PollSettings) : Json :=
  .object [("page_size", countJson settings.pageSize),
    ("short_delay_ms", countJson settings.shortDelay),
    ("long_delay_ms", countJson settings.longDelay)]

/-- What follows a page of `size` matches. Only a terminal job whose page is empty is drained;
a full page is followed after the short delay. -/
def nextStep (settings : PollSettings) (status : JobStatus) (size : Nat) : PollStep :=
  if status.isTerminal && size == 0 then .stop
  else if settings.pageSize.toNat ≤ size then .again settings.shortDelay
  else .again settings.longDelay

theorem nextStep_eq_stop (settings : PollSettings) (status : JobStatus) (size : Nat) :
    settings.nextStep status size = .stop ↔ status.isTerminal = true ∧ size = 0 := by
  unfold nextStep
  split
  · next drained => simpa using drained
  · next pending =>
    constructor
    · intro stop
      split at stop <;> cases stop
    · rintro ⟨terminal, rfl⟩
      simp [terminal] at pending

def delayAfter (settings : PollSettings) (size : Nat) : UInt64 :=
  if settings.pageSize.toNat ≤ size then settings.shortDelay else settings.longDelay

theorem nextStep_of_pending {settings : PollSettings} {status : JobStatus} {size : Nat}
    (pending : ¬(status.isTerminal = true ∧ size = 0)) :
    settings.nextStep status size = .again (settings.delayAfter size) := by
  have more : ¬(status.isTerminal && size == 0) = true := by simpa using pending
  rw [nextStep, if_neg more, delayAfter]
  split <;> rfl

end PollSettings

end ScanWatch
