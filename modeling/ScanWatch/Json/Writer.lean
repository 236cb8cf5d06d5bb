import ScanWatch.Binary64.Decimal
import ScanWatch.Json.Basic
import ScanWatch.Json.Quoted

namespace ScanWatch

def Number.toChars : Number → List Char
  | .integer value =>
    if value < 0 then '-' :: Nat.toDigits 10 value.natAbs else Nat.toDigits 10 value.natAbs
  | .double value => value.toChars

namespace Json

mutual

def toChars : Json → List Char
  | .null => ['n', 'u', 'l', 'l']
  | .bool true => ['t', 'r', 'u', 'e']
  | .bool false => ['f', 'a', 'l', 's', 'e']
  | .number value => value.toChars
  | .string text => Quoted.encode text
  | .array items => '[' :: (itemChars items ++ [']'])
  | .object members => '{' :: (memberChars members ++ ['}'])

def itemChars : List Json → List Char
  | [] => []
  | [item] => toChars item
  | item :: next :: rest => toChars item ++ ',' :: itemChars (next :: rest)

def memberChars : List (String × Json) → List Char
  | [] => []
  | [(name, value)] => Quoted.encode name ++ ':' :: toChars value
  | (name, value) :: next :: rest =>
    Quoted.encode name ++ ':' :: (toChars value ++ ',' :: memberChars (next :: rest))

end

/-- The compact text of a value. -/
def compact (value : Json) : String :=
  String.ofList value.toChars

/-- A line break, and two blanks for each level. -/
def newLine (level : Nat) : List Char :=
  '\n' :: List.replicate (2 * level) ' '

mutual

/-- The spread form: each item and member on a line of its own, one level further in. -/
def spreadChars (level : Nat) : Json → List Char
  | .array [] => ['[', ']']
  | .array (item :: rest) =>
    '[' :: (spreadItems (level + 1) (item :: rest) ++ newLine level ++ [']'])
  | .object [] => ['{', '}']
  | .object (member :: rest) =>
    '{' :: (spreadMembers (level + 1) (member :: rest) ++ newLine level ++ ['}'])
  | .null => toChars .null
  | .bool value => toChars (.bool value)
  | .number value => toChars (.number value)
  | .string text => toChars (.string text)

def spreadItems (level : Nat) : List Json → List Char
  | [] => []
  | [item] => newLine level ++ spreadChars level item
  | item :: next :: rest =>
    newLine level ++ spreadChars level item ++ ',' :: spreadItems level (next :: rest)

def spreadMembers (level : Nat) : List (String × Json) → List Char
  | [] => []
  | [(name, value)] =>
    newLine level ++ Quoted.encode name ++ ':' :: ' ' :: spreadChars level value
  | (name, value) :: next :: rest =>
    newLine level ++ Quoted.encode name ++ ':' :: ' ' ::
      (spreadChars level value ++ ',' :: spreadMembers level (next :: rest))

end

/-- The text of a value spread over lines. -/
def spread (value : Json) : String :=
  String.ofList (spreadChars 0 value)

end Json

end ScanWatch
