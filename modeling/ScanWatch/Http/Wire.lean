import ScanWatch.Http.Exchange
import ScanWatch.Text.Base64
import ScanWatch.Text.Blank
import ScanWatch.Text.Bytes
import ScanWatch.Text.Digits
import ScanWatch.Text.Split

/-! Requests and responses as the bytes of a connection that serves a single request. -/

namespace ScanWatch.Http

/-- The path and query that a request asks for. -/
def target (url : Url) : String :=
  url.path ++ (url.query.map ("?" ++ ·)).getD ""

/-- The host, with the port unless it is the scheme's own. -/
def hostText (url : Url) : String :=
  url.host.getD "" ++ (url.port.map fun port => ":" ++ port.repr).getD ""

/-- The name and password of the user, as a header shows them. -/
def credentialsText? (url : Url) : Option String :=
  url.user?.map fun (username, password) =>
    "Basic " ++ String.ofList (Text.Base64.encode (Text.bytes (username ++ ":" ++ password.getD "")))

def Request.fields (request : Request) : List (String × String) :=
  let credentials := (credentialsText? request.url).toList.map fun text => ("authorization", text)
  let content :=
    match request.body with
    | some body =>
      [("content-type", "application/json"), ("content-length", body.utf8ByteSize.repr)]
    | none => []
  ("host", hostText request.url) :: ("accept", "application/json") ::
    (credentials ++ content ++ [("connection", "close")])

def Request.wire (request : Request) : String :=
  let lines :=
    (request.method.text ++ " " ++ target request.url ++ " HTTP/1.1") ::
      request.fields.map fun field => field.1 ++ ": " ++ field.2
  String.join (lines.map (· ++ "\r\n")) ++ "\r\n" ++ request.body.getD ""

/-- How the end of a body is told. -/
inductive Framing where
  | sized (length : Nat)
  | chunked
  /-- The body ends with the connection. -/
  | untilClosed
deriving DecidableEq, Repr

structure Head where
  status : Nat
  framing : Framing
deriving DecidableEq, Repr

namespace Head

/-- The length that a response declares; a chunked one declares none. -/
def declaredLength (head : Head) : Option Nat :=
  match head.framing with
  | .sized length => some length
  | .chunked | .untilClosed => none

/-- Splits what was received at the first empty line. -/
def split? : List UInt8 → Option (List UInt8 × List UInt8)
  | 13 :: 10 :: 13 :: 10 :: rest => some ([], rest)
  | byte :: rest => (split? rest).map fun (head, rest) => (byte :: head, rest)
  | [] => none

def status? (line : List Char) : Option Nat :=
  if "HTTP/1.".toList.isPrefixOf line then
    let code := ((line.dropWhile (· != ' ')).drop 1).takeWhile (· != ' ')
    if code.length = 3 && code.all Char.isDigit then some (Nat.ofDigitChars 10 code 0) else none
  else none

/-- A field's name, in lower case, and its value. -/
def field (line : List Char) : List Char × List Char :=
  let name := line.takeWhile (· != ':')
  (name.map Char.toLower, (Text.trim (String.ofList (line.drop (name.length + 1)))).toList)

/-- The framing that the fields of a response tell; some statuses never have a body. -/
def framing? (status : Nat) (fields : List (List Char × List Char)) : Option Framing :=
  if status < 200 || status = 204 || status = 304 then some (.sized 0)
  else
    match fields.lookup "transfer-encoding".toList, fields.lookup "content-length".toList with
    | some coding, _ =>
      if coding.map Char.toLower = "chunked".toList then some .chunked else none
    | none, some length =>
      if !length.isEmpty && length.all Char.isDigit then
        some (.sized (Nat.ofDigitChars 10 length 0))
      else none
    | none, none => some .untilClosed

def parse? (head : List UInt8) : Option Head := do
  let lines := Text.splitOn '\n' (head.map fun byte => Char.ofNat byte.toNat)
  match lines.map fun line => line.filter (· != '\r') with
  | first :: fields =>
    let status ← status? first
    let framing ← framing? status (fields.map field)
    return ⟨status, framing⟩
  | [] => none

end Head

/-- Where the reading of a body stands. -/
inductive BodyState where
  | sized (left : Nat)
  | untilClosed
  /-- In the line that gives the length of a chunk. -/
  | chunkLine (line : List Char)
  | chunkData (left : Nat)
  /-- In the line break after a chunk. -/
  | chunkBreak
  /-- In the lines after the last chunk; whether the line is empty so far. -/
  | trailer (empty : Bool)
  | finished
deriving DecidableEq, Repr

namespace BodyState

def start : Framing → BodyState
  | .sized 0 => finished
  | .sized length => sized length
  | .chunked => chunkLine []
  | .untilClosed => untilClosed

/-- The length at the start of a line, before any extension. -/
def chunkLength? (line : List Char) : Option Nat :=
  let digits := line.takeWhile fun c => (Text.hexDigit? c).isSome
  if digits.isEmpty then none else Text.ofDigits? 16 digits

/-- What follows the line that gives the length of a chunk. -/
def afterLine (line : List Char) : Option BodyState :=
  (chunkLength? line).map fun length => if length = 0 then trailer true else chunkData length

/-- Takes one byte; whether it belongs to the body. -/
def step (state : BodyState) (byte : UInt8) : Option (BodyState × Bool) :=
  match state with
  | sized left => some (if left ≤ 1 then finished else sized (left - 1), true)
  | untilClosed => some (untilClosed, true)
  | chunkLine line =>
    if byte = 10 then (afterLine line.reverse).map (·, false)
    else some (chunkLine (Char.ofNat byte.toNat :: line), false)
  | chunkData left => some (if left ≤ 1 then chunkBreak else chunkData (left - 1), true)
  | chunkBreak =>
    if byte = 13 then some (chunkBreak, false)
    else if byte = 10 then some (chunkLine [], false)
    else none
  | trailer empty =>
    if byte = 13 then some (trailer empty, false)
    else if byte = 10 then some (if empty then finished else trailer true, false)
    else some (trailer false, false)
  | finished => some (finished, false)

/-- Takes a piece of the connection; the bytes of the body in it. -/
def take? (state : BodyState) : List UInt8 → Option (BodyState × List UInt8)
  | [] => some (state, [])
  | byte :: rest => do
    let (next, inBody) ← state.step byte
    let (last, body) ← next.take? rest
    return (last, if inBody then byte :: body else body)

/-- Whether a connection may end here. -/
def mayEnd : BodyState → Bool
  | untilClosed | finished => true
  | sized _ | chunkLine _ | chunkData _ | chunkBreak | trailer _ => false

end BodyState

end ScanWatch.Http
