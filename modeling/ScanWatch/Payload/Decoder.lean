import ScanWatch.Json.Reader

/-! Reading typed payloads from syntax trees. A record may come as an object or as the array of
its fields in order; unknown members are passed over, a known one may come only once. -/

namespace ScanWatch.Payload

open Json (Tree)

/-- Reads a tree that may hold a further `depth` levels of arrays and objects. -/
abbrev Decoder (α : Type) := (depth : Nat) → Tree → Option α

namespace Decoder

def text : Decoder String := fun _ tree =>
  match tree with
  | .string value => value
  | _ => none

def flag : Decoder Bool := fun _ tree =>
  match tree with
  | .bool value => some value
  | _ => none

/-- An unsigned integer of 64 bits, written without fraction and exponent. -/
def count : Decoder UInt64 := fun _ tree =>
  match tree with
  | .number (some (.integer value)) =>
    if 0 ≤ value ∧ value < UInt64.size then some (UInt64.ofNat value.toNat) else none
  | _ => none

def any : Decoder Json :=
  Tree.value?

def nullable {α : Type} (decode : Decoder α) : Decoder (Option α) := fun depth tree =>
  match tree with
  | .null => some none
  | _ => (decode depth tree).map some

def list {α : Type} (decode : Decoder α) : Decoder (List α) := fun depth tree =>
  match depth, tree with
  | depth + 1, .array items => items.mapM (decode depth)
  | _, _ => none

end Decoder

abbrev Members := List (String × Tree)

namespace Members

def ofObject? (members : List (Option String × Tree)) : Option Members :=
  members.mapM fun (name, tree) => name.map (·, tree)

/-- Members of a record with these fields: from an object, or from an array that gives the first
few fields in order. -/
def ofTree? (fields : List String) : Tree → Option Members
  | .object members => ofObject? members
  | .array items => if items.length ≤ fields.length then some (fields.zip items) else none
  | _ => none

/-- The member with a name, if there is one; none at all when it is repeated. -/
def field? (members : Members) (name : String) : Option (Option Tree) :=
  match members.filter (fun member => member.1 == name) with
  | [] => some none
  | [(_, tree)] => some (some tree)
  | _ => none

variable {α : Type}

def required (members : Members) (name : String) (decode : Tree → Option α) : Option α := do
  let tree ← ← members.field? name
  decode tree

def withDefault (members : Members) (name : String) (absent : α) (decode : Tree → Option α) :
    Option α := do
  match ← members.field? name with
  | none => return absent
  | some tree => decode tree

/-- The values of members by name; of several members with one name the last counts. -/
def dictionary? (members : Members) (decode : Tree → Option α) : Option (Dictionary α) :=
  (members.mapM fun member => (decode member.2).map (Prod.mk member.1)).map Dictionary.ofList

def others (members : Members) (own : List String) : Members :=
  members.filter fun member => !own.contains member.1

end Members

namespace Decoder

variable {α : Type}

/-- A record that passes over members it does not know. -/
def record (fields : List String) (build : Nat → Members → Option α) : Decoder α :=
  fun depth tree =>
    match depth with
    | 0 => none
    | depth + 1 => (Members.ofTree? fields tree).bind (build depth)

/-- A record that keeps members it does not know, and so comes as an object only. -/
def openRecord (build : Nat → Members → Option α) : Decoder α := fun depth tree =>
  match depth, tree with
  | depth + 1, .object members => (Members.ofObject? members).bind (build depth)
  | _, _ => none

def dictionary (decode : Decoder α) : Decoder (Dictionary α) := fun depth tree =>
  match depth, tree with
  | depth + 1, .object members =>
    (Members.ofObject? members).bind fun members => members.dictionary? (decode depth)
  | _, _ => none

def ofText? (decode : Decoder α) (text : String) : Option α :=
  (Tree.parse? text).bind (decode Tree.nestingLimit)

def ofJson? (decode : Decoder α) (value : Json) : Option α :=
  decode (Tree.ofJson value).depth (Tree.ofJson value)

def ofBytes? (decode : Decoder α) (encoded : List UInt8) : Option α :=
  (Tree.ofBytes? encoded).bind (decode Tree.nestingLimit)

end Decoder

end ScanWatch.Payload
