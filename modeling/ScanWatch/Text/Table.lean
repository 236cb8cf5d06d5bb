import ScanWatch.Text.Digits

/-! Tables of character codes, written as text: codes in hexadecimal, entries between blanks. -/

namespace ScanWatch.Text

structure Run where
  first : Nat
  last : Nat
deriving DecidableEq, Repr

namespace Run

def holds (run : Run) (code : Nat) : Bool :=
  run.first ≤ code && code ≤ run.last

def anyHolds (runs : List Run) (code : Nat) : Bool :=
  runs.any fun run => run.holds code

end Run

/-- What becomes of the codes of a run: those at each `step` from the first become the codes at the
same distance from `target`. -/
structure Shift where
  run : Run
  step : Nat
  target : Nat
deriving DecidableEq, Repr

def Shift.get? (shift : Shift) (code : Nat) : Option Nat :=
  let distance := code - shift.run.first
  if shift.run.holds code && distance % shift.step == 0 then some (shift.target + distance)
  else none

structure Listing where
  first : Nat
  targets : List (List Nat)
deriving DecidableEq, Repr

def Listing.get? (listing : Listing) (code : Nat) : Option (List Nat) :=
  if listing.first ≤ code then listing.targets[code - listing.first]? else none

namespace Table

def parts (isSeparator : Char → Bool) (cs : List Char) : List (List Char) :=
  let (part, others) := cs.foldr
    (fun c (part, others) =>
      if !isSeparator c then (c :: part, others)
      else if part.isEmpty then ([], others)
      else ([], part :: others))
    (([], []) : List Char × List (List Char))
  if part.isEmpty then others else part :: others

def entries (text : String) : List (List Char) :=
  parts Char.isWhitespace text.toList

def code? (cs : List Char) : Option Nat :=
  ofDigits? 16 cs

/-- A run as `first-last`, or as its only code. -/
def run? (cs : List Char) : Option Run :=
  match (parts (· == '-') cs).mapM code? with
  | some [only] => some ⟨only, only⟩
  | some [first, last] => some ⟨first, last⟩
  | _ => none

def runs (text : String) : List Run :=
  (entries text).filterMap run?

/-- Runs with the number of their class, as `run:class`. -/
def classes (text : String) : List (Run × Nat) :=
  (entries text).filterMap fun entry =>
    match parts (· == ':') entry with
    | [run, number] => (run? run).bind fun run => (code? number).map fun number => (run, number)
    | _ => none

/-- Shifts of all codes of a run as `first-last>target`, of every other code as
`first/last>target`. -/
def shifts (text : String) : List Shift :=
  (entries text).filterMap fun entry =>
    match (parts (fun c => c == '-' || c == '/' || c == '>') entry).mapM code? with
    | some [first, last, target] =>
      some ⟨⟨first, last⟩, if entry.contains '/' then 2 else 1, target⟩
    | _ => none

/-- Listings as `first:target,target`, the codes of a target being joined by plus signs. -/
def listings (text : String) : List Listing :=
  (entries text).filterMap fun entry =>
    match parts (· == ':') entry with
    | [first, targets] =>
      (code? first).map fun first =>
        ⟨first, (parts (· == ',') targets).map fun target =>
          (parts (· == '+') target).filterMap code?⟩
    | _ => none

end Table

end ScanWatch.Text
