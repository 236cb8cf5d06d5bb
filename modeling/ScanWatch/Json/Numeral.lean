import ScanWatch.Binary64.Decimal
import ScanWatch.Json.Basic

namespace ScanWatch.Json

/-- A numeral as spelled: an absent fraction is empty, an exponent has its sign and digits. -/
structure Numeral where
  negative : Bool
  whole : List Char
  fraction : List Char
  exponent : Option (Bool × List Char)

namespace Numeral

/-- Takes a run of digits, at least one. -/
def takeDigits (cs : List Char) : Option (List Char × List Char) :=
  if (cs.takeWhile Char.isDigit).isEmpty then none
  else some (cs.takeWhile Char.isDigit, cs.dropWhile Char.isDigit)

/-- Takes the digits before the point; a leading zero stands alone. -/
def takeWhole (cs : List Char) : Option (List Char × List Char) :=
  match cs with
  | '0' :: next :: rest => if next.isDigit then none else some (['0'], next :: rest)
  | _ => takeDigits cs

def takeFraction (cs : List Char) : Option (List Char × List Char) :=
  match cs with
  | '.' :: rest => takeDigits rest
  | _ => some ([], cs)

/-- Takes an exponent's sign and digits; without a sign it is positive. -/
def takeSigned (cs : List Char) : Option ((Bool × List Char) × List Char) :=
  match cs with
  | '+' :: rest => (takeDigits rest).map fun (digits, rest) => ((false, digits), rest)
  | '-' :: rest => (takeDigits rest).map fun (digits, rest) => ((true, digits), rest)
  | _ => (takeDigits cs).map fun (digits, rest) => ((false, digits), rest)

def takeExponent (cs : List Char) : Option (Option (Bool × List Char) × List Char) :=
  match cs with
  | 'e' :: rest => (takeSigned rest).map fun (exponent, rest) => (some exponent, rest)
  | 'E' :: rest => (takeSigned rest).map fun (exponent, rest) => (some exponent, rest)
  | _ => some (none, cs)

def takeSign (cs : List Char) : Bool × List Char :=
  match cs with
  | '-' :: rest => (true, rest)
  | _ => (false, cs)

/-- Takes a numeral from the front of a text. -/
def take (cs : List Char) : Option (Numeral × List Char) := do
  let (negative, cs) := takeSign cs
  let (whole, cs) ← takeWhole cs
  let (fraction, cs) ← takeFraction cs
  let (exponent, cs) ← takeExponent cs
  return (⟨negative, whole, fraction, exponent⟩, cs)

/-- Appends digits to a significand while it fits in 64 bits, and counts those left over. -/
def absorb (significand : Nat) : List Char → Nat × Nat
  | [] => (significand, 0)
  | digit :: rest =>
    let grown := 10 * significand + (digit.toNat - '0'.toNat)
    if grown < UInt64.size then absorb grown rest else (significand, rest.length + 1)

/-- The double that a numeral names: the digits that fit in 64 bits, scaled by the place they
are left at. -/
def double? (numeral : Numeral) : Option Binary64 :=
  let (whole, wholeLeft) := absorb 0 numeral.whole
  let (significand, fractionLeft) := absorb whole numeral.fraction
  let place : Int := (wholeLeft : Int) - ((numeral.fraction.length : Int) - fractionLeft)
  let shift : Int :=
    match numeral.exponent with
    | none => 0
    | some (false, digits) => Nat.ofDigitChars 10 digits 0
    | some (true, digits) => -(Nat.ofDigitChars 10 digits 0 : Int)
  Binary64.ofScientific? numeral.negative significand (place + shift)

/-- The integer that a numeral without fraction and exponent names, if it has 64 bits; minus
zero is none. -/
def integer? (numeral : Numeral) : Option Int :=
  let magnitude : Int := Nat.ofDigitChars 10 numeral.whole 0
  let value := if numeral.negative then -magnitude else magnitude
  if numeral.fraction.isEmpty && numeral.exponent.isNone && Number.inIntegerRange value &&
      !(numeral.negative && value == 0) then some value
  else none

/-- The number that a numeral names; none when it is too large for a double. -/
def value? (numeral : Numeral) : Option Number :=
  match numeral.integer? with
  | some value => some (.integer value)
  | none => numeral.double?.map .double

private theorem takeDigits_shorter {cs digits rest : List Char}
    (taken : takeDigits cs = some (digits, rest)) : rest.length < cs.length := by
  unfold takeDigits at taken
  split at taken
  · simp at taken
  · next nonempty =>
    obtain ⟨_, rfl⟩ := Prod.mk.inj (Option.some.inj taken)
    cases cs with
    | nil => simp at nonempty
    | cons c rest =>
      by_cases digit : c.isDigit
      · simpa [List.dropWhile_cons, digit] using
          Nat.lt_succ_of_le (List.dropWhile_sublist (l := rest) Char.isDigit).length_le
      · simp [digit] at nonempty

private theorem takeWhole_shorter {cs whole rest : List Char}
    (taken : takeWhole cs = some (whole, rest)) : rest.length < cs.length := by
  unfold takeWhole at taken
  split at taken
  · split at taken
    · simp at taken
    · obtain ⟨_, rfl⟩ := Prod.mk.inj (Option.some.inj taken); simp
  · exact takeDigits_shorter taken

private theorem takeFraction_length {cs fraction rest : List Char}
    (taken : takeFraction cs = some (fraction, rest)) : rest.length ≤ cs.length := by
  unfold takeFraction at taken
  split at taken
  · exact Nat.le_succ_of_le (Nat.le_of_lt (takeDigits_shorter taken))
  · obtain ⟨_, rfl⟩ := Prod.mk.inj (Option.some.inj taken); exact Nat.le_refl _

private theorem takeSigned_length {cs rest : List Char} {exponent : Bool × List Char}
    (taken : takeSigned cs = some (exponent, rest)) : rest.length ≤ cs.length := by
  unfold takeSigned at taken
  split at taken <;>
    obtain ⟨⟨digits, left⟩, found, same⟩ := Option.map_eq_some_iff.mp taken <;>
    obtain ⟨_, rfl⟩ := Prod.mk.inj same
  · exact Nat.le_succ_of_le (Nat.le_of_lt (takeDigits_shorter found))
  · exact Nat.le_succ_of_le (Nat.le_of_lt (takeDigits_shorter found))
  · exact Nat.le_of_lt (takeDigits_shorter found)

private theorem takeExponent_length {cs rest : List Char} {exponent : Option (Bool × List Char)}
    (taken : takeExponent cs = some (exponent, rest)) : rest.length ≤ cs.length := by
  unfold takeExponent at taken
  split at taken
  · obtain ⟨⟨digits, left⟩, found, same⟩ := Option.map_eq_some_iff.mp taken
    obtain ⟨_, rfl⟩ := Prod.mk.inj same
    exact Nat.le_succ_of_le (takeSigned_length found)
  · obtain ⟨⟨digits, left⟩, found, same⟩ := Option.map_eq_some_iff.mp taken
    obtain ⟨_, rfl⟩ := Prod.mk.inj same
    exact Nat.le_succ_of_le (takeSigned_length found)
  · obtain ⟨_, rfl⟩ := Prod.mk.inj (Option.some.inj taken); exact Nat.le_refl _

private theorem takeSign_length (cs : List Char) : (takeSign cs).2.length ≤ cs.length := by
  unfold takeSign
  split <;> simp

theorem take_shorter {cs rest : List Char} {numeral : Numeral}
    (taken : take cs = some (numeral, rest)) : rest.length < cs.length := by
  simp only [take, bind, Option.bind_eq_some_iff, pure, Option.some.injEq, Prod.mk.injEq,
    Prod.exists] at taken
  obtain ⟨_, afterWhole, whole, _, afterFraction, fraction, _, afterExponent, exponent, _, rfl⟩ :=
    taken
  have := takeSign_length cs
  have := takeWhole_shorter whole
  have := takeFraction_length fraction
  have := takeExponent_length exponent
  omega

end Numeral

end ScanWatch.Json
