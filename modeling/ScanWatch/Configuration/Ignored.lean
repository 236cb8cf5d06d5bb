import ScanWatch.Configuration.Number
import ScanWatch.Configuration.Style

/-! Values in configuration files that no setting is made of. They have to be well written too. -/

namespace ScanWatch.Configuration.Ignored

/-- What follows something that stands at the start of a text. -/
abbrev Skipper := List Char → Option (List Char)

/-- What follows entries with commas between them and a closing sign; the first number bounds the
entries. -/
def afterEntries? (entry : Skipper) (closing : Char) : (limit : Nat) → Skipper
  | 0, _ => none
  | limit + 1, cs =>
    if cs.head? = some closing then some (cs.drop 1)
    else do
      match ← takeComma? (← entry cs) with
      | (true, rest) => afterEntries? entry closing limit rest
      | (false, rest) => if rest.head? = some closing then some (rest.drop 1) else none

/-- What follows two values with a colon between them. -/
def afterPair? (value : Skipper) : Skipper := fun cs => do
  value (← afterSign? ':' (← value cs))

/-- Whether the first thing in brackets is a name with a colon. -/
def startsField (cs : List Char) : Bool :=
  match (takeName? cs).bind fun (_, rest) => skip? rest with
  | some (':' :: _) => true
  | _ => false

/-- What follows the contents of brackets, the opening one being gone: fields, or values. -/
def afterContents? (value : Skipper) (cs : List Char) : Option (List Char) :=
  afterEntries? (if startsField cs then afterPair? value else value) ')' (cs.length + 1) cs

/-- What is left when a character, a text or a text of bytes that stands here is passed over. -/
def pastQuoted (cs : List Char) : List Char :=
  let cs :=
    match cs with
    | '\x27' :: rest => (afterCharacter? takeCharacterEscape? (fun _ => true) rest).getD cs
    | _ => cs
  let cs := ((takeText? cs).map Prod.snd).getD cs
  (afterByteText? cs).getD cs

/-- Whether a comma with something behind it comes before the closing bracket; `level` further
brackets are open, and the first number bounds the steps. -/
def hasComma? : (limit level : Nat) → List Char → Option Bool
  | 0, _, _ => none
  | limit + 1, level, cs => do
    match pastQuoted (← skip? cs) with
    | [] => none
    | c :: rest =>
      if ['(', '[', '\x7b'].contains c then hasComma? limit (level + 1) rest
      else if [')', ']', '\x7d'].contains c then
        if level = 0 then return false else hasComma? limit (level - 1) rest
      else if c = ',' && level = 0 then return (← skip? rest).head? != some ')'
      else hasComma? limit level rest

/-- Whether the contents of brackets are several values, the first of which may start with a
name. -/
def holdSeveral? (cs : List Char) : Option Bool := do
  let start ← match takeName? cs with
    | some (_, rest) => skip? rest
    | none => some cs
  hasComma? (start.length + 1) 0 start

/-- The readings of values so many levels below, as far as there are levels. -/
abbrev Levels := Nat → Option Skipper

/-- What follows the contents of brackets that stand so many levels below; what they hold stands
one level deeper. -/
def afterGroup? (below : Levels) (step : Nat) (contents : Skipper → Skipper) (cs : List Char) :
    Option (List Char) := do
  let _ ← below step
  contents ((below (step + 1)).getD fun _ => none) (← skip? cs)

/-- What follows the contents of the brackets of a value that is there. Those may be the contents
of brackets of its own: nothing, fields, or several values. -/
def afterPresent? (style : Style) (below : Levels) (value : Skipper) (cs : List Char) :
    Option (List Char) := do
  let isOpen ←
    if !style.openSome then some false
    else if cs.head? = some ')' || startsField cs then some true
    else holdSeveral? cs
  if isOpen then afterGroup? below 2 afterContents? cs
  else
    match ← takeComma? (← value cs) with
    | (_, ')' :: rest) => return rest
    | _ => none

def afterSome? (style : Style) (below : Levels) (cs : List Char) : Option (List Char) := do
  let value ← below 1
  match ← skip? cs with
  | '(' :: rest => afterPresent? style below value (← skip? rest)
  | rest => if style.bareSome then value rest else none

/-- What follows a value. The values within it stand one level below when it is one that is there,
and two levels below when it is in brackets. -/
def afterValue? (style : Style) (below : Levels) (cs : List Char) : Option (List Char) :=
  match ["true", "false", "None"].findSome? (afterWord? · cs) with
  | some rest => some rest
  | none =>
    match afterWord? "Some" cs with
    | some rest => afterSome? style below rest
    | none =>
      if startsNumber cs || (Text.after? ['.', '.'] cs).isSome then afterRange? cs
      else
        match takeName? cs with
        | some (_, rest) =>
          match skip? rest with
          | some ('(' :: contents) => afterGroup? below 1 afterContents? contents
          | some _ => some rest
          | none => none
        | none =>
          match cs with
          | '(' :: ')' :: rest => some rest
          | '(' :: rest => afterGroup? below 1 afterContents? rest
          | '[' :: rest =>
            afterGroup? below 1 (fun value => afterEntries? value ']' (rest.length + 1)) rest
          | '\x7b' :: rest =>
            afterGroup? below 1
              (fun value => afterEntries? (afterPair? value) '\x7d' (rest.length + 1)) rest
          | '\x27' :: rest => afterCharacter? takeCharacterEscape? (fun _ => true) rest
          | 'b' :: _ => afterByteText? cs
          | _ => (takeText? cs).map Prod.snd

/-- What follows a value that may hold others down to a depth. -/
def after? (style : Style) (depth : Nat) (cs : List Char) : Option (List Char) :=
  afterValue? style
    (fun step => if _bounded : 0 < step ∧ step ≤ depth then some (after? style (depth - step))
      else none)
    cs
termination_by depth

end ScanWatch.Configuration.Ignored
