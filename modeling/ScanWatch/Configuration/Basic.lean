import ScanWatch.CommandLine.Basic
import ScanWatch.Configuration.Written
import ScanWatch.Poll
import ScanWatch.Service.Client

/-! The configuration of a run: the defaults, a file over them, and options over both. -/

namespace ScanWatch

structure Configuration where
  client : ClientSettings := .default
  poll : PollSettings := .default
deriving DecidableEq, Repr, Inhabited

/-- Why a configuration file is refused. -/
inductive ConfigurationError where
  /-- The file cannot be read, or is no text. -/
  | unreadable
  | malformed
  /-- Pages that hold no match would never drain a job. -/
  | emptyPages
deriving DecidableEq, Repr

def ConfigurationError.message (path : String) : ConfigurationError → String
  | unreadable => "reading config " ++ path
  | malformed => "parsing config " ++ path
  | emptyPages => "invalid config " ++ path ++ ": poll.page_size must be at least 1"

namespace Configuration

def takeClient? (style : Style) (depth : Nat) : Written.Taker :=
  Written.takeRecord? style depth "ClientConfig"
    [("base_url", Written.takeText?), ("connect_timeout_secs", Written.takeCount?),
      ("request_timeout_secs", Written.takeCount?), ("max_bytes", Written.takeCount?)]

def takePoll? (style : Style) (depth : Nat) : Written.Taker :=
  Written.takeRecord? style depth "PollSettings"
    [("page_size", Written.takeCount?), ("short_delay_ms", Written.takeCount?),
      ("long_delay_ms", Written.takeCount?)]

def take? (style : Style) : Written.Taker :=
  Written.takeRecord? style Written.levels "AppConfig"
    [("client", takeClient? style (Written.levels - 2)),
      ("poll", takePoll? style (Written.levels - 2))]

def fields? : Written → Option (List (String × Written))
  | .record fields => some fields
  | _ => none

def count? : Written → Option UInt64
  | .count value => some value
  | _ => none

def text? : Written → Option String
  | .text value => some value
  | _ => none

/-- The value of a field. It may be missing, but not be given twice. -/
def field? {α : Type} (fields : List (String × Written)) (name : String) (default : α)
    (read : Written → Option α) : Option α :=
  match fields.filter fun field => field.1 = name with
  | [] => some default
  | [(_, value)] => read value
  | _ => none

def clientSettings? (value : Written) : Option ClientSettings := do
  let fields ← fields? value
  let baseUrl ← field? fields "base_url" ClientSettings.default.baseUrl text?
  let connectTimeoutSecs ←
    field? fields "connect_timeout_secs" ClientSettings.default.connectTimeoutSecs count?
  let requestTimeoutSecs ←
    field? fields "request_timeout_secs" ClientSettings.default.requestTimeoutSecs count?
  let maxBytes ← field? fields "max_bytes" ClientSettings.default.maxBytes count?
  return ⟨baseUrl, connectTimeoutSecs, requestTimeoutSecs, maxBytes⟩

def pollSettings? (value : Written) : Option PollSettings := do
  let fields ← fields? value
  let pageSize ← field? fields "page_size" PollSettings.default.pageSize count?
  let shortDelay ← field? fields "short_delay_ms" PollSettings.default.shortDelay count?
  let longDelay ← field? fields "long_delay_ms" PollSettings.default.longDelay count?
  return ⟨pageSize, shortDelay, longDelay⟩

def ofWritten? (value : Written) : Option Configuration := do
  let fields ← fields? value
  let client ← field? fields "client" .default clientSettings?
  let poll ← field? fields "poll" .default pollSettings?
  return ⟨client, poll⟩

def parse (text : String) : Except ConfigurationError Configuration :=
  match (Written.parse? take? text).bind ofWritten? with
  | none => .error .malformed
  | some configuration =>
    if configuration.poll.pageSize = 0 then .error .emptyPages else .ok configuration

/-- Options win over the file. -/
def withOptions (configuration : Configuration) (options : Options) : Configuration :=
  { client :=
      { configuration.client with baseUrl := options.baseUrl.getD configuration.client.baseUrl }
    poll :=
      { configuration.poll with
        pageSize := (options.pageSize.map (max · 1)).getD configuration.poll.pageSize } }

end Configuration

end ScanWatch
