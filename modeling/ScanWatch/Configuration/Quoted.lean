import ScanWatch.Text.Bytes
import ScanWatch.Text.Digits
import ScanWatch.Text.Split

namespace ScanWatch.Configuration

/-- The character of a code in one to six hexadecimal digits. -/
def codeChar? (digits : List Char) : Option Char := do
  if digits.isEmpty || 6 < digits.length then none
  else
    let code ← Text.ofDigits? 16 digits
    if code < 0xD800 ∨ (0xDFFF < code ∧ code < 0x110000) then some (Char.ofNat code) else none

def shortEscape? : Char → Option Char
  | '\x27' => some '\x27'
  | '"' => some '"'
  | '\\' => some '\\'
  | 'n' => some '\n'
  | 'r' => some '\r'
  | 't' => some '\t'
  | '0' => some '\x00'
  | _ => none

/-- Takes an escape of a character by its sign or its code, the backslash being gone. -/
def takeEscape? : List Char → Option (Char × List Char)
  | 'u' :: '\x7b' :: rest =>
    let digits := rest.takeWhile (· != '\x7d')
    (codeChar? digits).map fun c => (c, rest.drop (digits.length + 1))
  | c :: rest => (shortEscape? c).map fun c => (c, rest)
  | [] => none

def takeByte? : List Char → Option (UInt8 × List Char)
  | high :: low :: rest => do
    let high ← Text.hexDigit? high
    let low ← Text.hexDigit? low
    return (UInt8.ofNat (16 * high + low), rest)
  | _ => none

/-- Takes a character escaped by its bytes, each with the mark `\x`, of which the first is gone;
`further` more may follow. -/
def takeByByte? : (further : Nat) → (bytes : List UInt8) → List Char → Option (Char × List Char)
  | further, bytes, cs => do
    let (byte, rest) ← takeByte? cs
    match (Text.ofBytes? (bytes ++ [byte])).map String.toList, further, rest with
    | some [c], _, _ => return (c, rest)
    | _, further + 1, '\\' :: 'x' :: rest => takeByByte? further (bytes ++ [byte]) rest
    | _, _, _ => none

def takeTextEscape? : List Char → Option (Char × List Char)
  | 'x' :: rest => takeByByte? 3 [] rest
  | cs => takeEscape? cs

/-- Takes an escape of a single character, which has one byte if it is escaped by that. -/
def takeCharacterEscape? : List Char → Option (Char × List Char)
  | 'x' :: rest => takeByByte? 0 [] rest
  | cs => takeEscape? cs

/-- Takes an escape within a text of bytes. -/
def takeByteTextEscape? : List Char → Option (Char × List Char)
  | 'x' :: rest => (takeByte? rest).map fun (byte, rest) => (Char.ofNat byte.toNat, rest)
  | cs => takeEscape? cs

/-- What follows the line break after a backslash, and the blanks after it. -/
def afterBreak? (cs : List Char) : Option (List Char) :=
  let dropped := List.dropWhile [' ', '\t', '\n', '\r'].contains
  match cs with
  | '\n' :: rest => some (dropped rest)
  | '\r' :: '\n' :: rest => some (dropped rest)
  | _ => none

/-- Takes the characters up to the closing quote. The first number bounds those still to be
taken. -/
def takeQuoted? (escape : List Char → Option (Char × List Char)) :
    (limit : Nat) → List Char → Option (List Char × List Char)
  | 0, _ => none
  | _ + 1, [] => none
  | _ + 1, '"' :: rest => some ([], rest)
  | limit + 1, '\\' :: rest =>
    match afterBreak? rest with
    | some rest => takeQuoted? escape limit rest
    | none => do
      let (c, rest) ← escape rest
      let (cs, rest) ← takeQuoted? escape limit rest
      return (c :: cs, rest)
  | limit + 1, c :: rest => do
    let (cs, rest) ← takeQuoted? escape limit rest
    return (c :: cs, rest)

/-- Takes the characters of a raw text, up to a quote with as many hashes as it began with. -/
def takeRawBody? (closing : List Char) : List Char → Option (List Char × List Char)
  | [] => none
  | c :: rest =>
    match Text.after? closing (c :: rest) with
    | some rest => some ([], rest)
    | none => (takeRawBody? closing rest).map fun (cs, rest) => (c :: cs, rest)

/-- Takes a raw text, its mark being gone. -/
def takeRaw? (cs : List Char) : Option (List Char × List Char) :=
  let hashes := cs.takeWhile (· == '#')
  match cs.drop hashes.length with
  | '"' :: rest => takeRawBody? ('"' :: hashes) rest
  | _ => none

def takeText? : List Char → Option (String × List Char)
  | '"' :: rest =>
    (takeQuoted? takeTextEscape? (rest.length + 1) rest).map fun (cs, rest) =>
      (String.ofList cs, rest)
  | 'r' :: rest => (takeRaw? rest).map fun (cs, rest) => (String.ofList cs, rest)
  | _ => none

def afterByteText? : List Char → Option (List Char)
  | 'b' :: '"' :: rest =>
    (takeQuoted? takeByteTextEscape? (rest.length + 1) rest).map Prod.snd
  | 'b' :: 'r' :: rest => (takeRaw? rest).map Prod.snd
  | _ => none

/-- What follows a character in apostrophes, of which the first is gone. -/
def afterCharacter? (escape : List Char → Option (Char × List Char)) (allowed : Char → Bool)
    (cs : List Char) : Option (List Char) :=
  let taken :=
    match cs with
    | '\\' :: rest => (escape rest).map Prod.snd
    | c :: rest => if allowed c then some rest else none
    | [] => none
  match taken with
  | some ('\x27' :: rest) => some rest
  | _ => none

/-- What follows a byte written as a character of ASCII, or by an escape that is no code. -/
def afterByte? (cs : List Char) : Option (List Char) :=
  match Text.after? ['b', '\x27'] cs with
  | some ('\\' :: 'u' :: _) => none
  | some rest => afterCharacter? takeByteTextEscape? (fun c => c.toNat < 0x80) rest
  | none => none

end ScanWatch.Configuration
