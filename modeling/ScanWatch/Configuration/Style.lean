import ScanWatch.Configuration.Blank
import ScanWatch.Configuration.Name
import ScanWatch.Configuration.Quoted

namespace ScanWatch.Configuration

/-- Ways of writing that a file may ask for. -/
structure Style where
  /-- A value that is there need not be put into brackets. -/
  bareSome : Bool := false
  /-- What is in the brackets of a value that is there needs no brackets of its own. -/
  openSome : Bool := false
  /-- Records have to be named by their type. -/
  namedRecords : Bool := false
deriving DecidableEq, Repr

namespace Style

/-- The style with one more way of writing, by its name. -/
def extended? (style : Style) (name : String) : Option Style :=
  match name with
  | "implicit_some" => some { style with bareSome := true }
  | "unwrap_variant_newtypes" => some { style with openSome := true }
  | "explicit_struct_names" => some { style with namedRecords := true }
  | "unwrap_newtypes" => some style
  | _ => none

/-- Takes the names of ways of writing; the first number bounds them. -/
def takeNames? (style : Style) : (limit : Nat) → List Char → Option (Style × List Char)
  | 0, _ => none
  | limit + 1, cs => do
    let (name, rest) ← takeKey? cs
    let style ← style.extended? name
    let (comma, rest) ← takeComma? rest
    if !rest.head?.any Text.isIdentifierPart then return (style, rest)
    else if comma then takeNames? style limit rest
    else none

/-- Takes what is in the square brackets of an attribute. The type or the schema of a file may be
told, but makes no difference. -/
def takeAttribute? (style : Style) (cs : List Char) : Option (Style × List Char) :=
  match Text.after? "enable".toList cs with
  | some rest => do
    let names ← afterSign? '(' rest
    let (style, rest) ← takeNames? style (names.length + 1) names
    return (style, ← afterSign? ')' rest)
  | none => do
    let rest ← ["type", "schema"].findSome? (afterWord? · cs)
    let (_, rest) ← takeText? (← afterSign? '=' rest)
    return (style, rest)

/-- Takes the attributes, with the blanks after them; the first number bounds them. -/
def takeAll? (style : Style) : (limit : Nat) → List Char → Option (Style × List Char)
  | 0, _ => none
  | limit + 1, cs =>
    match cs with
    | '#' :: rest => do
      let (style, rest) ← takeAttribute? style (← afterSign? '[' (← afterSign? '!' rest))
      takeAll? style limit (← afterSign? ']' rest)
    | _ => some (style, cs)

end Style

end ScanWatch.Configuration
