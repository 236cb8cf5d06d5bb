import ScanWatch.Http.Wire
import ScanWatch.Service.Client
import Std.Async.DNS
import Std.Async.TCP

/-! Connections to the service: each request has one of its own, without encryption. -/

namespace ScanWatch.Transport

abbrev Socket := Std.Async.TCP.Socket.Client

def pieceSize : UInt64 :=
  16384

/-- Waits for a task: up to a moment, if one is given, and unless it is called off. -/
partial def await? {α : Type} (task : Task (Except IO.Error α)) (deadline : Option Nat) :
    IO (Option α) := do
  if ← IO.hasFinished task then return task.get.toOption
  let now ← IO.monoMsNow
  let late := deadline.any fun deadline => decide (deadline ≤ now)
  if late || (← IO.checkCanceled) then return none
  IO.sleep 1
  await? task deadline

/-- The next piece of a response; none when the connection is closed, or broken. -/
def receive? (socket : Socket) : IO (Option (List UInt8)) := do
  let piece ← await? (← (socket.recv? pieceSize).asTask) none
  return piece.join.map ByteArray.toList

/-- Reads up to the end of the head; the head, and what came with it. -/
partial def readHead (socket : Socket) (received : List UInt8) :
    IO (Option (Http.Head × List UInt8)) := do
  match Http.Head.split? received with
  | some (head, rest) => return (Http.Head.parse? head).map fun head => (head, rest)
  | none =>
    match ← receive? socket with
    | some piece => readHead socket (received ++ piece)
    | none => return none

def brokenOff : Http.TransportFailure :=
  ⟨false, "error decoding response body"⟩

/-- The pieces of a body, the last of them first, with what follows them. -/
def bodyOf (pieces : List (List UInt8)) (ending : Http.Body) : Http.Body :=
  pieces.foldl (fun rest piece => .chunk piece rest) ending

/-- Reads a body, up to its end or until more was read than is wanted. -/
partial def readBody (socket : Socket) (maxBytes length : Nat) (pieces : List (List UInt8))
    (state : Http.BodyState) (received : List UInt8) : IO Http.Body := do
  match state.take? received with
  | none => return bodyOf pieces (.broken brokenOff)
  | some (state, piece) =>
    let pieces := if piece.isEmpty then pieces else piece :: pieces
    let length := length + piece.length
    if state = .finished || maxBytes < length then return bodyOf pieces .finished
    match ← receive? socket with
    | some received => readBody socket maxBytes length pieces state received
    | none => return bodyOf pieces (if state.mayEnd then .finished else .broken brokenOff)

/-- Opens a connection to the first of some addresses that takes one within some milliseconds. -/
def connect? (patience : Nat) (port : UInt16) : List Std.Net.IPAddr → IO (Option Socket)
  | [] => return none
  | address :: others => do
    let socket ← Std.Async.TCP.Socket.Client.mk
    let place : Std.Net.SocketAddress :=
      match address with
      | .v4 address => .v4 ⟨address, port⟩
      | .v6 address => .v6 ⟨address, port⟩
    let deadline := (← IO.monoMsNow) + patience
    match ← await? (← (socket.connect place).asTask) (some deadline) with
    | some () => return some socket
    | none => connect? patience port others

def hostName (host : String) : String :=
  String.ofList (host.toList.filter fun c => c != '[' && c != ']')

def open? (settings : ClientSettings) (url : Url) : IO (Option Socket) := do
  let port := (url.port.or (Url.defaultPort? url.scheme)).getD 0
  let lookup ← (Std.Async.DNS.getAddrInfo (hostName (url.host.getD "")) port.repr).asTask
  match ← await? lookup none with
  | some addresses =>
    connect? (1000 * settings.connectTimeoutSecs.toNat) (UInt16.ofNat port) addresses.toList
  | none => return none

/-- Reads a response. A body whose declared length is too much is left unread. -/
def readResponse (socket : Socket) (maxBytes : Nat) : IO (Option Http.Response) := do
  match ← readHead socket [] with
  | none => return none
  | some (head, rest) =>
    let body ←
      if head.declaredLength.getD 0 ≤ maxBytes then
        readBody socket maxBytes 0 [] (.start head.framing) rest
      else pure .finished
    return some ⟨head.status, head.declaredLength, body⟩

def exchange? (client : Client) (request : Http.Request) : IO (Option Http.Response) := do
  if request.url.scheme != "http" || !request.isSendable then return none
  match ← open? client.settings request.url with
  | none => return none
  | some socket =>
    match ← await? (← (socket.send request.wire.toUTF8).asTask) none with
    | none => return none
    | some () => readResponse socket client.maxBytes

/-- Sends a request; whatever goes wrong on the way is a failure to reach the service. -/
def send (client : Client) (request : Request) : IO Http.Outcome := do
  let wanted := client.send request
  match ← exchange? client wanted with
  | some response => return .ok response
  | none => return .error (Http.unreachable wanted)

end ScanWatch.Transport
