import ScanWatch.Json.Token

/-! Syntax trees of JSON texts. A tree keeps what the text says: repeated members, their order,
and leaves that denote nothing. -/

namespace ScanWatch.Json

inductive Tree where
  | null
  | bool (value : Bool)
  | number (value : Option Number)
  | string (text : Option String)
  | array (items : List Tree)
  | object (members : List (Option String × Tree))
deriving Inhabited, Repr

namespace Tree

/-- The number of arrays and objects that may stand inside each other. -/
def nestingLimit : Nat := 127

mutual

/-- The value of a tree nested at most `depth` deep; of members with one name the last counts. -/
def value? (depth : Nat) : Tree → Option Json
  | null => some .null
  | bool value => some (.bool value)
  | number value => value.map .number
  | string text => text.map .string
  | array items =>
    match depth with
    | 0 => none
    | depth + 1 => (values? depth items).map .array
  | object members =>
    match depth with
    | 0 => none
    | depth + 1 =>
      (memberValues? depth members).map fun values => .object (Dictionary.ofList values).entries

def values? (depth : Nat) : List Tree → Option (List Json)
  | [] => some []
  | item :: rest => do
    let value ← value? depth item
    let values ← values? depth rest
    return value :: values

def memberValues? (depth : Nat) : List (Option String × Tree) → Option (List (String × Json))
  | [] => some []
  | (name, item) :: rest => do
    let name ← name
    let value ← value? depth item
    let values ← memberValues? depth rest
    return (name, value) :: values

end

mutual

def depth : Tree → Nat
  | array items => itemDepth items + 1
  | object members => memberDepth members + 1
  | null | bool _ | number _ | string _ => 0

def itemDepth : List Tree → Nat
  | [] => 0
  | item :: rest => max (depth item) (itemDepth rest)

def memberDepth : List (Option String × Tree) → Nat
  | [] => 0
  | (_, item) :: rest => max (depth item) (memberDepth rest)

end

mutual

/-- The tree that says just what a value is. -/
def ofJson : Json → Tree
  | .null => null
  | .bool value => bool value
  | .number value => number (some value)
  | .string text => string (some text)
  | .array items => array (ofItems items)
  | .object members => object (ofMembers members)

def ofItems : List Json → List Tree
  | [] => []
  | item :: rest => ofJson item :: ofItems rest

def ofMembers : List (String × Json) → List (Option String × Tree)
  | [] => []
  | (name, value) :: rest => (some name, ofJson value) :: ofMembers rest

end

end Tree

end ScanWatch.Json
