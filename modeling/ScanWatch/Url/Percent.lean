import ScanWatch.Text.Bytes
import ScanWatch.Text.Digits

namespace ScanWatch.Url.Percent

/-- Control characters and everything beyond ASCII. -/
def inControls (byte : UInt8) : Bool :=
  byte < 0x20 || 0x7E < byte

def isOneOf (marks : String) (byte : UInt8) : Bool :=
  (Text.bytes marks).contains byte

def inFragment (byte : UInt8) : Bool :=
  inControls byte || isOneOf " \"<>\x60" byte

def inQuery (byte : UInt8) : Bool :=
  inControls byte || isOneOf " \"#<>" byte

/-- In an address with a well-known scheme the apostrophe is encoded too. -/
def inSpecialQuery (byte : UInt8) : Bool :=
  inQuery byte || isOneOf "'" byte

def inPath (byte : UInt8) : Bool :=
  inFragment byte || isOneOf "#?\x7b\x7d" byte

def inUserinfo (byte : UInt8) : Bool :=
  inPath byte || isOneOf "/:;=@[\\]^|" byte

/-- A segment put into a path as a whole must not be taken for several. -/
def inSegment (byte : UInt8) : Bool :=
  inPath byte || isOneOf "/%" byte

def inSpecialSegment (byte : UInt8) : Bool :=
  inSegment byte || isOneOf "\\" byte

def upperHexDigit (value : Nat) : Char :=
  (Nat.digitChar value).toUpper

def encodeByte (byte : UInt8) : List Char :=
  ['%', upperHexDigit (byte.toNat / 16), upperHexDigit (byte.toNat % 16)]

/-- Encodes the bytes of a class; the class has to hold all bytes beyond ASCII. -/
def encodeBytes (inClass : UInt8 → Bool) (bytes : List UInt8) : List Char :=
  bytes.flatMap fun byte => if inClass byte then encodeByte byte else [Char.ofNat byte.toNat]

def encode (inClass : UInt8 → Bool) (cs : List Char) : List Char :=
  encodeBytes inClass (Text.bytes (String.ofList cs))

/-- The bytes of a text in which a percent sign and two hexadecimal digits stand for a byte; a
percent sign before anything else stands for itself. -/
def decode : List Char → List UInt8
  | [] => []
  | '%' :: high :: low :: rest =>
    match Text.hexDigit? high, Text.hexDigit? low with
    | some high, some low => UInt8.ofNat (16 * high + low) :: decode rest
    | _, _ => Text.bytes "%" ++ decode (high :: low :: rest)
  | c :: rest => Text.bytes (String.singleton c) ++ decode rest

end ScanWatch.Url.Percent
