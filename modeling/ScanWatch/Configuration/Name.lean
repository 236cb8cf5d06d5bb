import ScanWatch.Text.Identifier
import ScanWatch.Text.Split

namespace ScanWatch.Configuration

def isNameStart (c : Char) : Bool :=
  c == '_' || Text.isIdentifierStart c

/-- A name behind the mark `r#` may have points and signs in it. -/
def isRawPart (c : Char) : Bool :=
  Text.isIdentifierPart c || c == '.' || c == '+' || c == '-'

/-- What follows a word, when a whole one stands here. -/
def afterWord? (word : String) (cs : List Char) : Option (List Char) :=
  (Text.after? word.toList cs).filter fun rest => !rest.head?.any Text.isIdentifierPart

/-- Whether something looks like a name but starts a text or a character. -/
def startsQuoted (cs : List Char) : Bool :=
  ["b\"", "b'", "br\"", "br#", "r\"", "r#\"", "r##"].any fun beginning =>
    (Text.after? beginning.toList cs).isSome

def takeName? (cs : List Char) : Option (String × List Char) :=
  if startsQuoted cs then none
  else
    match Text.after? "r#".toList cs with
    | some raw =>
      let name := raw.takeWhile isRawPart
      if name.isEmpty then none else some (String.ofList name, raw.drop name.length)
    | none =>
      let name := cs.takeWhile Text.isIdentifierPart
      if cs.head?.any isNameStart then some (String.ofList name, cs.drop name.length) else none

/-- Takes the name of a field or a type. It has to bear its mark if it goes on with a point or a
sign. -/
def takeKey? (cs : List Char) : Option (String × List Char) :=
  (takeName? cs).filter fun (_, rest) =>
    (Text.after? "r#".toList cs).isSome || !rest.head?.any isRawPart

end ScanWatch.Configuration
