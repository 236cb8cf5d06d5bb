import ScanWatch.Configuration.Blank
import ScanWatch.Configuration.Name
import ScanWatch.Configuration.Quoted

namespace ScanWatch.Configuration

/-- A type that an integer may name behind its digits, and the numbers that it has. -/
structure IntegerType where
  name : String
  least : Int
  most : Int
deriving DecidableEq, Repr

def signedType (name : String) (bits : Nat) : IntegerType :=
  ⟨name, -(Nat.pow 2 (bits - 1) : Nat), (Nat.pow 2 (bits - 1) : Nat) - 1⟩

def unsignedType (name : String) (bits : Nat) : IntegerType :=
  ⟨name, 0, (Nat.pow 2 bits : Nat) - 1⟩

def integerTypes : List IntegerType :=
  [signedType "i8" 8, signedType "i16" 16, signedType "i32" 32, signedType "i64" 64,
    unsignedType "u8" 8, unsignedType "u16" 16, unsignedType "u32" 32, unsignedType "u64" 64]

def isIntegerChar (c : Char) : Bool :=
  (Text.hexDigit? c).isSome || c == '_'

/-- The base that a number is marked with, and what follows the mark. -/
def takeBase (cs : List Char) : Nat × List Char :=
  match cs with
  | '0' :: 'b' :: rest => (2, rest)
  | '0' :: 'o' :: rest => (8, rest)
  | '0' :: 'x' :: rest => (16, rest)
  | _ => (10, cs)

/-- The number of digits in a base; underscores after the first digit do not count. -/
def digitsValue? (base : Nat) (cs : List Char) : Option Nat :=
  if cs.isEmpty || cs.head? == some '_' then none
  else Text.ofDigits? base (cs.filter (· != '_'))

/-- The type behind the digits and what follows it; the mark of a base stands before no type, unless
it could be a digit itself. -/
def takeType? (cs : List Char) : Option (IntegerType × List Char) :=
  let rest := cs.dropWhile isIntegerChar
  integerTypes.findSome? fun type => (afterWord? type.name rest).map fun rest => (type, rest)

/-- Takes a sign; whether it is that of negative numbers. -/
def takeSign (cs : List Char) : Bool × List Char :=
  match cs with
  | '-' :: rest => (true, rest)
  | '+' :: rest => (false, rest)
  | _ => (false, cs)

/-- Takes an integer and the type it names. It has to be a number of that type; without one, a
number of 64 bits. -/
def takeInteger? (cs : List Char) : Option (Int × Option String × List Char) := do
  let (negative, unsigned) := takeSign cs
  let (base, marked) := takeBase unsigned
  let digits := marked.takeWhile isIntegerChar
  let magnitude ← digitsValue? base digits
  let value : Int := if negative then -(magnitude : Int) else magnitude
  let plainType := if negative then signedType "" 64 else unsignedType "" 64
  let (type, name, rest) :=
    match takeType? unsigned with
    | some (type, rest) => (type, some type.name, rest)
    | none => (plainType, none, marked.drop digits.length)
  if type.least ≤ value ∧ value ≤ type.most then return (value, name, rest) else none

def isDecimalChar (c : Char) : Bool :=
  c.isDigit || c == 'e' || c == 'E' || c == '.' || c == '+' || c == '-' || c == '_'

/-- The characters that a decimal number could have; two points are those of a range. -/
def decimalRun : List Char → List Char
  | [] => []
  | '.' :: '.' :: _ => []
  | c :: rest => if isDecimalChar c then c :: decimalRun rest else []

/-- Whether each underscore follows a digit or the mark of an exponent, with signs and other
underscores in between. -/
def underscoresFit : (allowed : Bool) → List Char → Bool
  | _, [] => true
  | allowed, '_' :: rest => allowed && underscoresFit allowed rest
  | allowed, c :: rest =>
    underscoresFit (c.isDigit || c == 'e' || c == 'E' || (c != '.' && allowed)) rest

/-- Whether characters spell digits with a fraction or an exponent, or both, or none. -/
def isDecimal (cs : List Char) : Bool :=
  let unsigned := (takeSign cs).2
  let mantissa := unsigned.takeWhile fun c => c != 'e' && c != 'E'
  let digits := mantissa.filter (· != '.')
  let mantissaFits :=
    !digits.isEmpty && digits.all Char.isDigit && mantissa.length ≤ digits.length + 1
  match unsigned.drop mantissa.length with
  | [] => mantissaFits
  | _ :: exponent =>
    let places := (takeSign exponent).2
    mantissaFits && !places.isEmpty && places.all Char.isDigit

/-- The types that a decimal number may name. -/
def decimalTypes : List String :=
  ["f32", "f64"]

/-- The words that stand for decimal numbers without digits. -/
def decimalWords : List String :=
  ["inf", "NaN"]

/-- What follows a word for a decimal number, with or without a type. -/
def afterDecimalWord? (cs : List Char) : Option (List Char) :=
  decimalWords.findSome? fun word =>
    ("" :: decimalTypes).findSome? fun type => afterWord? (word ++ type) cs

def afterDecimal? (cs : List Char) : Option (List Char) :=
  match afterDecimalWord? (takeSign cs).2 with
  | some rest => some rest
  | none =>
    let run := decimalRun cs
    let rest := cs.drop run.length
    if underscoresFit false run && isDecimal (run.filter (· != '_')) then
      some ((decimalTypes.findSome? (afterWord? · rest)).getD rest)
    else none

/-- What follows a number: a decimal one when its characters go further than those of an integer,
or when they spell no integer. -/
def afterNumber? (cs : List Char) : Option (List Char) :=
  let unsigned := (takeSign cs).2
  if (unsigned.takeWhile isIntegerChar).length < (decimalRun unsigned).length then afterDecimal? cs
  else
    match takeInteger? cs with
    | some (_, _, rest) => some rest
    | none => (afterByte? cs).or (afterDecimal? cs)

def startsNumber (cs : List Char) : Bool :=
  match cs with
  | 'b' :: '\x27' :: _ => true
  | '.' :: '.' :: _ => false
  | c :: _ => c.isDigit || c == '+' || c == '-' || c == '.' || (afterDecimalWord? cs).isSome
  | [] => false

/-- What follows a number or a range; a range may lack its start, and its end unless it includes
it. -/
def afterRange? (cs : List Char) : Option (List Char) := do
  let start ← if startsNumber cs then afterNumber? cs else some cs
  match ← skip? start with
  | '.' :: '.' :: '=' :: rest => afterNumber? (← skip? rest)
  | '.' :: '.' :: rest =>
    let stop ← skip? rest
    if startsNumber stop then afterNumber? stop else return rest
  | _ => return start

end ScanWatch.Configuration
