import ScanWatch.Configuration.Ignored

/-! Configuration files as they are written: a record of named fields in round brackets, some of
them records again, others counts and texts. -/

namespace ScanWatch.Configuration

/-- A value that settings are made of, as it is written. -/
inductive Written where
  | count (value : UInt64)
  | text (value : String)
  | record (fields : List (String × Written))

namespace Written

/-- Takes a value from the start of a text. -/
abbrev Taker := List Char → Option (Written × List Char)

/-- Takes a number of 64 bits; no other type may be written behind it. -/
def takeCount? : Taker := fun cs => do
  let (value, type, rest) ← takeInteger? cs
  if type.getD "u64" = "u64" ∧ 0 ≤ value ∧ value < UInt64.size then
    return (count (UInt64.ofNat value.toNat), rest)
  else none

def takeText? : Taker := fun cs =>
  (Configuration.takeText? cs).map fun (value, rest) => (text value, rest)

/-- What follows the name of a record: that of its type or, unless names are asked for, none. -/
def afterTypeName? (style : Style) (type : String) (cs : List Char) : Option (List Char) :=
  if cs.head?.any Text.isIdentifierPart then do
    let (name, rest) ← takeKey? cs
    if name = type then return rest else none
  else if style.namedRecords then none
  else some cs

/-- Takes fields up to the closing bracket; the first number bounds them. Values of unknown fields
are passed over. -/
def takeFields? (known : List (String × Taker)) (unknown : Ignored.Skipper) :
    (limit : Nat) → List Char → Option (List (String × Written) × List Char)
  | 0, _ => none
  | _ + 1, ')' :: rest => some ([], rest)
  | limit + 1, cs => do
    let (name, rest) ← takeKey? cs
    let contents ← afterSign? ':' rest
    let (field, rest) ←
      match known.lookup name with
      | some take? => (take? contents).map fun (value, rest) => ([(name, value)], rest)
      | none => (unknown contents).map fun rest => ([], rest)
    match ← takeComma? rest with
    | (true, rest) =>
      let (fields, rest) ← takeFields? known unknown limit rest
      return (field ++ fields, rest)
    | (false, ')' :: rest) => return (field, rest)
    | (false, _) => none

/-- Takes a record of a type with known fields. Unknown ones stand two levels below the record. -/
def takeRecord? (style : Style) (depth : Nat) (type : String) (known : List (String × Taker)) :
    Taker := fun cs => do
  let contents ← afterSign? '(' (← afterTypeName? style type cs)
  let (fields, rest) ←
    takeFields? known (Ignored.after? style (depth - 2)) (contents.length + 1) contents
  return (record fields, rest)

/-- The levels that a file may have: each pair of brackets is one, and each thing in it another. -/
def levels : Nat :=
  128

/-- The value of a whole file, whose style is told at its start. -/
def parse? (root : Style → Taker) (text : String) : Option Written := do
  let cs ← skip? text.toList
  let (style, cs) ← Style.takeAll? {} (cs.length + 1) cs
  let (value, rest) ← root style cs
  match ← skip? rest with
  | [] => return value
  | _ => none

end Written

end ScanWatch.Configuration
