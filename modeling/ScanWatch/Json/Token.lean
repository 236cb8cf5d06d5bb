import ScanWatch.Json.Numeral
import ScanWatch.Json.Quoted

/-! The tokens of a JSON text. A numeral beyond the range of numbers and a quoted text with half
a character are tokens without a value: they are well spelled but denote nothing. -/

namespace ScanWatch.Json

inductive Token where
  | openArray
  | closeArray
  | openObject
  | closeObject
  | comma
  | colon
  | null
  | bool (value : Bool)
  | number (value : Option Number)
  | string (text : Option String)
deriving DecidableEq, Repr

namespace Token

/-- Blank, line feed, carriage return and tab may stand between tokens. -/
def isSpace (c : Char) : Bool :=
  c == ' ' || c == '\n' || c == '\r' || c == '\t'

def takeNumber (cs : List Char) : Option (Token × List Char) :=
  (Numeral.take cs).map fun (numeral, rest) => (number numeral.value?, rest)

def takeString (cs : List Char) : Option (Token × List Char) :=
  (Quoted.take cs).map fun (pieces, rest) =>
    (string ((Quoted.denote? pieces).map String.ofList), rest)

def take (cs : List Char) : Option (Token × List Char) :=
  match cs with
  | '[' :: rest => some (openArray, rest)
  | ']' :: rest => some (closeArray, rest)
  | '{' :: rest => some (openObject, rest)
  | '}' :: rest => some (closeObject, rest)
  | ',' :: rest => some (comma, rest)
  | ':' :: rest => some (colon, rest)
  | '"' :: rest => takeString rest
  | 'n' :: 'u' :: 'l' :: 'l' :: rest => some (null, rest)
  | 't' :: 'r' :: 'u' :: 'e' :: rest => some (bool true, rest)
  | 'f' :: 'a' :: 'l' :: 's' :: 'e' :: rest => some (bool false, rest)
  | _ => takeNumber cs

private theorem take_shorter {cs rest : List Char} {token : Token}
    (taken : take cs = some (token, rest)) :
    rest.length < cs.length := by
  unfold take at taken
  split at taken
  case h_7 =>
    obtain ⟨⟨pieces, left⟩, found, same⟩ := Option.map_eq_some_iff.mp taken
    obtain ⟨_, rfl⟩ := Prod.mk.inj same
    exact Nat.lt_succ_of_lt (Quoted.take_shorter found)
  case h_11 =>
    obtain ⟨⟨numeral, left⟩, found, same⟩ := Option.map_eq_some_iff.mp taken
    obtain ⟨_, rfl⟩ := Prod.mk.inj same
    exact Numeral.take_shorter found
  all_goals
    obtain ⟨_, rfl⟩ := Prod.mk.inj (Option.some.inj taken)
    simp only [List.length_cons]
    omega

/-- The tokens of a text; none if it is not made of tokens and spaces. -/
def scan? (cs : List Char) : Option (List Token) :=
  match cs with
  | [] => some []
  | c :: tail =>
    if isSpace c then scan? tail
    else
      match _taken : take (c :: tail) with
      | none => none
      | some (token, rest) => (scan? rest).map (token :: ·)
termination_by cs.length
decreasing_by
  · simp
  · exact take_shorter _taken

end Token

end ScanWatch.Json
