import ScanWatch.Binary64.Basic
import ScanWatch.Dictionary

/-! Untyped JSON values. A value is orderly when the members of its objects, at every depth, stand
in the order of their names' UTF-8 bytes, each name once; such values are what texts denote. -/

namespace ScanWatch

/-- An integer of 64 bits, signed or not, or a finite double. -/
inductive Number where
  | integer (value : Int)
  | double (value : Binary64)
deriving DecidableEq, Repr, Inhabited

namespace Number

/-- The integers that are kept as such: those of 64 bits, signed or unsigned. -/
def inIntegerRange (value : Int) : Bool :=
  decide (-9223372036854775808 ≤ value) && decide (value < 18446744073709551616)

/-- Equality by value within a kind: the two zeros are equal doubles, but no double equals an
integer. -/
def equal : Number → Number → Bool
  | integer left, integer right => left == right
  | double left, double right => left.equal right
  | _, _ => false

end Number

inductive Json where
  | null
  | bool (value : Bool)
  | number (value : Number)
  | string (text : String)
  | array (items : List Json)
  | object (members : List (String × Json))
deriving Inhabited, Repr

namespace Json

mutual

/-- Equality of values, numbers being compared by `Number.equal`. -/
def equal : Json → Json → Bool
  | null, null => true
  | bool left, bool right => left == right
  | number left, number right => left.equal right
  | string left, string right => left == right
  | array left, array right => equalItems left right
  | object left, object right => equalMembers left right
  | _, _ => false

def equalItems : List Json → List Json → Bool
  | [], [] => true
  | left :: lefts, right :: rights => equal left right && equalItems lefts rights
  | _, _ => false

def equalMembers : List (String × Json) → List (String × Json) → Bool
  | [], [] => true
  | (name, left) :: lefts, (other, right) :: rights =>
    name == other && equal left right && equalMembers lefts rights
  | _, _ => false

end

instance : BEq Json := ⟨equal⟩

/-- Whether the members of every object stand in order, each name once. -/
inductive Orderly : Json → Prop
  | null : Orderly .null
  | bool (value : Bool) : Orderly (.bool value)
  | number (value : Number) : Orderly (.number value)
  | string (text : String) : Orderly (.string text)
  | array {items : List Json} (each : ∀ item ∈ items, Orderly item) : Orderly (.array items)
  | object {members : List (String × Json)}
      (ordered : members.Pairwise (fun left right => Text.Before left.1 right.1))
      (each : ∀ entry ∈ members, Orderly entry.2) : Orderly (.object members)

def member? (name : String) : Json → Option Json
  | object members => members.lookup name
  | _ => none

end Json

end ScanWatch
