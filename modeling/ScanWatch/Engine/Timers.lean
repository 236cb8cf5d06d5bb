import ScanWatch.Poll

/-! Poll timers. The handle of the latest one is kept, so that a new timer or a cancellation ends
it; a timer that was ended or has fired stays so. -/

namespace ScanWatch

inductive TimerPhase where
  | live
  | fired
  | cancelled
deriving DecidableEq, Repr

structure Timer where
  ticket : PollTicket
  delay : UInt64
  phase : TimerPhase
deriving DecidableEq, Repr

/-- All timers ever started, in order, and the handle of the one that can be cancelled. -/
structure Timers where
  started : List Timer
  handle : Option Nat
deriving DecidableEq, Repr

namespace Timers

def empty : Timers :=
  ⟨[], none⟩

instance : Inhabited Timers := ⟨empty⟩

/-- A timer that has fired is not cancelled any more. -/
def ended (timer : Timer) : Timer :=
  if timer.phase = .live then { timer with phase := .cancelled } else timer

/-- Ends the timer whose handle is kept, and forgets the handle. -/
def cancel (timers : Timers) : Timers :=
  match timers.handle with
  | none => timers
  | some index => ⟨timers.started.modify index ended, none⟩

/-- Starts a timer in place of the one whose handle is kept. -/
def schedule (timers : Timers) (ticket : PollTicket) (delay : UInt64) : Timers :=
  let started := timers.cancel.started
  ⟨started ++ [⟨ticket, delay, .live⟩], some started.length⟩

/-- Lets a live timer fire: the ticket it fires for, and the timers after it. -/
def fire? (timers : Timers) (index : Nat) : Option (PollTicket × Timers) :=
  match timers.started[index]? with
  | some timer =>
    if timer.phase = .live then
      some (timer.ticket,
        { timers with
          started := timers.started.set index { timer with phase := .fired } })
    else none
  | none => none

def live (timers : Timers) : List Timer :=
  timers.started.filter fun timer => timer.phase = .live

/-- The place of the first live timer that fires without delay. -/
def due? (timers : Timers) : Option Nat :=
  timers.started.findIdx? fun timer => timer.phase = .live && timer.delay == 0

end Timers

end ScanWatch
