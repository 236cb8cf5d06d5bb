import Mathlib.Data.List.Basic
import ScanWatch.Json.Numeral
import ScanWatch.Json.Writer
import ScanWatch.Proofs.Text.Digits

namespace ScanWatch.Json

/-- The characters that may go on with a numeral. -/
def carriesOn (c : Char) : Bool :=
  c.isDigit || c == '.' || c == 'e' || c == 'E'

/-- A text that does not go on with a numeral that stands before it. -/
def Apart (rest : List Char) : Prop :=
  ∀ c ∈ rest.head?, carriesOn c = false

namespace Apart

theorem nil : Apart [] := by
  intro c first
  cases first

theorem cons {c : Char} {rest : List Char} (ends : carriesOn c = false) : Apart (c :: rest) := by
  intro first here
  cases here
  exact ends

private theorem noDigit {rest : List Char} (apart : Apart rest) :
    ∀ c ∈ rest.head?, c.isDigit = false := by
  intro c first
  have ends := apart c first
  simp only [carriesOn, Bool.or_eq_false_iff] at ends
  exact ends.1.1.1

end Apart

namespace Numeral

variable {rest : List Char}

private theorem takeDigits_append {digits : List Char} (nonempty : digits ≠ [])
    (run : ∀ c ∈ digits, c.isDigit = true) (ends : ∀ c ∈ rest.head?, c.isDigit = false) :
    takeDigits (digits ++ rest) = some (digits, rest) := by
  have stop : rest.takeWhile Char.isDigit = [] ∧ rest.dropWhile Char.isDigit = rest := by
    cases rest with
    | nil => exact ⟨rfl, rfl⟩
    | cons c rest => simp [ends c rfl]
  rw [takeDigits, List.takeWhile_append_of_pos run, List.dropWhile_append_of_pos run, stop.1,
    stop.2, List.append_nil, if_neg (by simpa using nonempty)]

private theorem head?_toDigits_append (value : Nat) (rest : List Char) :
    (Nat.toDigits 10 value ++ rest).head? = (Nat.toDigits 10 value).head? :=
  List.head?_append_of_ne_nil _ Nat.toDigits_ne_nil

private theorem takeWhole_toDigits (value : Nat) (apart : Apart rest) :
    takeWhole (Nat.toDigits 10 value ++ rest) = some (Nat.toDigits 10 value, rest) := by
  have taken : takeDigits (Nat.toDigits 10 value ++ rest) =
      some (Nat.toDigits 10 value, rest) :=
    takeDigits_append Nat.toDigits_ne_nil (fun _ => Text.isDigit_of_mem_toDigits) apart.noDigit
  rcases Nat.eq_zero_or_pos value with rfl | positive
  · cases rest with
    | nil => exact taken
    | cons next tail =>
      change (if next.isDigit then none else some (['0'], next :: tail)) = _
      rw [apart.noDigit next rfl]
      rfl
  · have leading := Text.head?_toDigits positive
    unfold takeWhole
    split
    · next next tail same =>
      rw [← head?_toDigits_append value rest, same] at leading
      exact absurd rfl leading
    · exact taken

private theorem takeFraction_of_apart (apart : Apart rest) :
    takeFraction rest = some ([], rest) := by
  unfold takeFraction
  split
  · next tail => exact absurd (apart '.' rfl) (by decide)
  · rfl

private theorem takeExponent_of_apart (apart : Apart rest) :
    takeExponent rest = some (none, rest) := by
  unfold takeExponent
  split
  · next tail => exact absurd (apart 'e' rfl) (by decide)
  · next tail => exact absurd (apart 'E' rfl) (by decide)
  · rfl

def ofInt (value : Int) : Numeral :=
  ⟨decide (value < 0), Nat.toDigits 10 value.natAbs, [], none⟩

private theorem takeSign_toDigits (value : Nat) :
    takeSign (Nat.toDigits 10 value ++ rest) = (false, Nat.toDigits 10 value ++ rest) := by
  unfold takeSign
  split
  · next tail same =>
    have first : (Nat.toDigits 10 value).head? = some '-' := by
      rw [← head?_toDigits_append value rest, same]
      rfl
    exact absurd (List.mem_of_head? first) (Text.not_mem_toDigits (by decide))
  · rfl

theorem take_integer (value : Int) (apart : Apart rest) :
    take ((Number.integer value).toChars ++ rest) = some (ofInt value, rest) := by
  rw [Number.toChars, ofInt]
  by_cases negative : value < 0
  · rw [if_pos negative, decide_eq_true negative]
    simp only [take, List.cons_append, takeSign, takeWhole_toDigits _ apart,
      takeFraction_of_apart apart, takeExponent_of_apart apart, Option.bind_eq_bind,
      Option.bind_some, Option.pure_def]
  · rw [if_neg negative, decide_eq_false negative]
    simp only [take, takeSign_toDigits, takeWhole_toDigits _ apart,
      takeFraction_of_apart apart, takeExponent_of_apart apart, Option.bind_eq_bind,
      Option.bind_some, Option.pure_def]

theorem value?_ofInt {value : Int} (inRange : Number.inIntegerRange value = true) :
    (ofInt value).value? = some (.integer value) := by
  have magnitude : (if value < 0 then -(value.natAbs : Int) else value.natAbs) = value := by
    split <;> omega
  have notMinusZero : (decide (value < 0) && value == 0) = false := by
    rw [Bool.and_eq_false_iff, decide_eq_false_iff_not, beq_eq_false_iff_ne]
    omega
  have named : (ofInt value).integer? = some value := by
    simp only [integer?, ofInt, Nat.ofDigitChars_ten_toDigits, decide_eq_true_eq, magnitude, inRange,
      notMinusZero]
    rfl
  rw [value?, named]

end Numeral

end ScanWatch.Json
