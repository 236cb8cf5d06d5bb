/-! International labels as ASCII: the insertions of the characters beyond ASCII, in order, as
numbers of variable length after the ASCII characters. -/

namespace ScanWatch.Url.Punycode

def initialBias : Nat := 72

/-- The first character that needs an insertion. -/
def firstInserted : Nat := 0x80

/-- The digit from which on, at a position, another digit follows. -/
def threshold (position bias : Nat) : Nat :=
  if position ≤ bias then 1 else if bias + 26 ≤ position then 26 else position - bias

def digitValue? (c : Char) : Option Nat :=
  if 'a' ≤ c ∧ c ≤ 'z' then some (c.toNat - 'a'.toNat)
  else if 'A' ≤ c ∧ c ≤ 'Z' then some (c.toNat - 'A'.toNat)
  else if '0' ≤ c ∧ c ≤ '9' then some (c.toNat - '0'.toNat + 26)
  else none

def digit (value : Nat) : Char :=
  if value < 26 then Char.ofNat ('a'.toNat + value) else Char.ofNat ('0'.toNat + (value - 26))

/-- Divides by 35 until the quotient is small; the answer is the quotient with the steps taken,
36 each. -/
def shrink (delta steps : Nat) : Nat × Nat :=
  if small : delta ≤ 455 then (delta, steps) else shrink (delta / 35) (steps + 36)
termination_by delta
decreasing_by exact Nat.div_lt_self (by omega) (by decide)

/-- The bias after an insertion at distance `delta`, with `count` characters now in place. -/
def adapt (delta count : Nat) (first : Bool) : Nat :=
  let damped := if first then delta / 700 else delta / 2
  let (rest, steps) := shrink (damped + damped / count) 0
  steps + 36 * rest / (rest + 38)

def distanceDigits (bias position value : Nat) : List Char :=
  let least := threshold position bias
  if big : least ≤ value ∧ least < 35 then
    digit (least + (value - least) % (36 - least)) ::
      distanceDigits bias (position + 36) ((value - least) / (36 - least))
  else [digit value]
termination_by value
decreasing_by
  have positive : 0 < threshold position bias := by unfold threshold; split <;> (try split) <;> omega
  have smaller : (value - threshold position bias) / (36 - threshold position bias) ≤
      value - threshold position bias := Nat.div_le_self _ _
  omega

structure Progress where
  delta : Nat
  bias : Nat
  placed : Nat
  text : List Char

/-- Handles one character while those equal to `code` are inserted. -/
def insertEqual (code basic : Nat) (progress : Progress) (c : Char) : Progress :=
  if c.toNat < code then { progress with delta := progress.delta + 1 }
  else if c.toNat = code then
    { delta := 0
      bias := adapt progress.delta (progress.placed + 1) (progress.placed == basic)
      placed := progress.placed + 1
      text := progress.text ++ distanceDigits progress.bias 36 progress.delta }
  else progress

/-- Inserts the characters of the given codes, which increase; `reached` is the code before. -/
def encodeFrom (cs : List Char) (basic reached : Nat) (progress : Progress) :
    (codes : List Nat) → List Char
  | [] => progress.text
  | code :: codes =>
    let skipped := (code - reached) * (progress.placed + 1)
    let inserted := cs.foldl (insertEqual code basic)
      { progress with delta := progress.delta + skipped }
    encodeFrom cs basic (code + 1) { inserted with delta := inserted.delta + 1 } codes

def place (value : Nat) : List Nat → List Nat
  | [] => [value]
  | head :: rest =>
    if value < head then value :: head :: rest
    else if value = head then head :: rest
    else head :: place value rest

def encode (cs : List Char) : List Char :=
  let basic := cs.filter fun c => c.toNat < firstInserted
  let inserted := cs.filter fun c => firstInserted ≤ c.toNat
  let codes := inserted.foldl (fun codes c => place c.toNat codes) []
  let start := if basic.isEmpty then [] else basic ++ ['-']
  encodeFrom cs basic.length firstInserted ⟨0, initialBias, basic.length, start⟩ codes

/-- Reads a distance, from a position on, each digit being worth `weight`. -/
def takeDistance (bias position weight total : Nat) : List Char → Option (Nat × List Char)
  | [] => none
  | c :: rest =>
    (digitValue? c).bind fun value =>
      if value < threshold position bias then some (total + value * weight, rest)
      else takeDistance bias (position + 36) (weight * (36 - threshold position bias))
        (total + value * weight) rest

private theorem takeDistance_shorter {bias position weight total : Nat} {cs : List Char}
    {result : Nat × List Char} (taken : takeDistance bias position weight total cs = some result) :
    result.2.length < cs.length := by
  induction cs generalizing position weight total with
  | nil => simp [takeDistance] at taken
  | cons c rest ih =>
    obtain ⟨value, _, found⟩ := Option.bind_eq_some_iff.mp taken
    split at found
    · exact Option.some.inj found ▸ Nat.lt_succ_self _
    · exact Nat.lt_succ_of_lt (ih found)

/-- Undoes the insertions that are left; a code that is no character is refused. -/
def decodeFrom (placed : List Char) (code index bias : Nat) (cs : List Char) :
    Option (List Char) :=
  match cs with
  | [] => some placed
  | c :: rest =>
    match _taken : takeDistance bias 36 1 index (c :: rest) with
    | none => none
    | some (total, left) =>
      let count := placed.length + 1
      let next := code + total / count
      if next < 0x110000 ∧ ¬ (0xD800 ≤ next ∧ next < 0xE000) then
        let before := placed.take (total % count)
        let after := placed.drop (total % count)
        decodeFrom (before ++ Char.ofNat next :: after) next (total % count + 1)
          (adapt (total - index) count (index == 0)) left
      else none
termination_by cs.length
decreasing_by exact takeDistance_shorter _taken

/-- The label of an ASCII form. The last hyphen ends the ASCII characters, of which there has to be
one at least. -/
def decode? (cs : List Char) : Option (List Char) :=
  let inserted := (cs.reverse.takeWhile (· != '-')).reverse
  let basic := (cs.take (cs.length - inserted.length)).dropLast
  decodeFrom basic firstInserted 0 initialBias (if basic.isEmpty then cs else inserted)

end ScanWatch.Url.Punycode
