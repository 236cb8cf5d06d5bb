import ScanWatch.Url.Percent

namespace ScanWatch

/-- The parts of an address, each already encoded. The path is the list of its segments, each with
a slash before it. A path that could be taken for a host is set apart by a point. -/
structure Url where
  scheme : String
  username : String := ""
  password : Option String := none
  host : Option String := none
  port : Option Nat := none
  setApart : Bool := false
  segments : List String := []
  query : Option String := none
  fragment : Option String := none
deriving DecidableEq, Repr, Inhabited

namespace Url

/-- Schemes whose addresses always have a host and a path, and may use backslashes. -/
def isSpecial (scheme : String) : Bool :=
  ["http", "https", "ws", "wss", "ftp", "file"].contains scheme

def defaultPort? : String → Option Nat
  | "http" | "ws" => some 80
  | "https" | "wss" => some 443
  | "ftp" => some 21
  | _ => none

def path (url : Url) : String :=
  String.join (url.segments.map fun segment => "/" ++ segment)

def credentials (url : Url) : String :=
  match url.password with
  | some password => url.username ++ ":" ++ password ++ "@"
  | none => if url.username.isEmpty then "" else url.username ++ "@"

def authority (url : Url) : String :=
  match url.host with
  | none => if url.setApart then "/." else ""
  | some host =>
    "//" ++ url.credentials ++ host ++ (url.port.map fun port => ":" ++ port.repr).getD ""

def text (url : Url) : String :=
  url.scheme ++ ":" ++ url.authority ++ url.path ++
    (url.query.map ("?" ++ ·)).getD "" ++ (url.fragment.map ("#" ++ ·)).getD ""

/-- The name and password of a user, as far as they can be read as text. A name that cannot be read
makes neither known, and there is no user without a name or password. -/
def user? (url : Url) : Option (String × Option String) := do
  let decoded (part : String) := Text.ofBytes? (Percent.decode part.toList)
  let username ← decoded url.username
  let password := url.password.bind decoded
  if username.isEmpty && password.isNone then none else some (username, password)

def withoutUser (url : Url) : Url :=
  if url.user?.isSome then { url with username := "", password := none } else url

/-- Drops one empty segment at the end of a path, but not the only one. -/
def dropEmptyEnd (segments : List String) : List String :=
  if 2 ≤ segments.length ∧ segments.getLast? = some "" then segments.dropLast else segments

/-- Tabs and line breaks are not part of an address. -/
def isDropped (c : Char) : Bool :=
  c == '\t' || c == '\n' || c == '\r'

def encodeSegment (special : Bool) (cs : List Char) : String :=
  String.ofList
    (Percent.encode (if special then Percent.inSpecialSegment else Percent.inSegment) cs)

/-- Puts a segment at the end of a path; the path of a bare slash is filled. -/
def push (segments : List String) (segment : String) : List String :=
  if segments = [""] then [segment] else segments ++ [segment]

/-- Extends a path by a name. The names `.` and `..` add nothing; a name that becomes one of them
when tabs and line breaks are dropped moves within the path. -/
def extend (special : Bool) (segments : List String) (name : String) : List String :=
  if name = "." ∨ name = ".." then segments
  else
    let cs := name.toList.filter fun c => !isDropped c
    if cs = ['.'] then push segments ""
    else if cs = ['.', '.'] then push segments.dropLast ""
    else push segments (encodeSegment special cs)

def below (base : Url) (names : List String) : Url :=
  { base with
    segments := names.foldl (extend (isSpecial base.scheme)) (dropEmptyEnd base.segments) }

/-- Adds a parameter to the query; name and value are plain ASCII words. -/
def withParameter (url : Url) (name value : String) : Url :=
  let start :=
    match url.query with
    | none => ""
    | some query => if query.isEmpty then "" else query ++ "&"
  { url with query := some (start ++ name ++ "=" ++ value) }

end Url

end ScanWatch
