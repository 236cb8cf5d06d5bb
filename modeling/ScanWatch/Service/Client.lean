import ScanWatch.Service.Answer
import ScanWatch.Url.Parser

namespace ScanWatch

structure ClientSettings where
  baseUrl : String
  connectTimeoutSecs : UInt64
  requestTimeoutSecs : UInt64
  maxBytes : UInt64
deriving DecidableEq, Repr

namespace ClientSettings

/-- A service on this machine; ten seconds to connect and thirty to answer, in at most 16 MiB. -/
def default : ClientSettings :=
  ⟨"http://localhost/api", 10, 30, 16 * 1024 * 1024⟩

instance : Inhabited ClientSettings := ⟨default⟩

end ClientSettings

structure Client where
  base : Url
  settings : ClientSettings
deriving DecidableEq, Repr

namespace Client

/-- A client for the service at an address; the address has to be one with a path. -/
def new (settings : ClientSettings) : Except Failure Client :=
  match Url.parse settings.baseUrl with
  | .ok base => .ok ⟨base, settings⟩
  | .error error => .error ⟨.invalidUrl, error.message settings.baseUrl⟩

def maxBytes (client : Client) : Nat :=
  client.settings.maxBytes.toNat

def queryBody (method rawQuery : String) (taint : Option String) : Json :=
  .object [("method", .string method), ("raw_yara", .string rawQuery),
    ("taint", (taint.map Json.string).getD .null)]

def get (client : Client) (names : List String) : Http.Request :=
  ⟨.get, client.base.below names, none⟩

def post (client : Client) (body : Json) : Http.Request :=
  ⟨.post, client.base.below ["query"], some body.compact⟩

def pageUrl (client : Client) (hash : JobHash) (offset limit : Nat) : Url :=
  ((client.base.below ["matches", hash.text]).withParameter "offset" offset.repr).withParameter
    "limit" limit.repr

def send (client : Client) : Request → Http.Request
  | .datasets => client.get ["backend", "datasets"]
  | .jobQuery hash => client.get ["job", hash.text]
  | .page ticket offset limit => ⟨.get, client.pageUrl ticket.hash offset limit, none⟩
  | .compile rawQuery taint => client.post (queryBody "parse" rawQuery taint)
  | .submit rawQuery taint => client.post (queryBody "query" rawQuery taint)
  | .backendStatus => client.get ["backend"]

def answer (client : Client) (request : Request) (outcome : Http.Outcome) :
    Except Failure request.Answer :=
  Service.read client.maxBytes request outcome

end Client

end ScanWatch
