import ScanWatch.Url.Basic
import ScanWatch.Url.Domain
import ScanWatch.Url.Error
import ScanWatch.Url.Numeric

namespace ScanWatch.Url

/-- Control characters and spaces around an address are not part of it. -/
def isTrimmed (c : Char) : Bool :=
  c.toNat ≤ 0x20

def cleaned (text : String) : List Char :=
  let trimmed := ((text.toList.dropWhile isTrimmed).reverse.dropWhile isTrimmed).reverse
  trimmed.filter fun c => !isDropped c

def isSchemeChar (c : Char) : Bool :=
  c.isAlphanum || c == '+' || c == '-' || c == '.'

/-- The scheme, in lower case, and what follows its colon. -/
def takeScheme? (cs : List Char) : Option (String × List Char) :=
  let scheme := cs.takeWhile isSchemeChar
  match scheme, cs.drop scheme.length with
  | first :: _, ':' :: rest =>
    if first.isAlpha then some (String.ofList (scheme.map Char.toLower), rest) else none
  | _, _ => none

def isSlash (special : Bool) (c : Char) : Bool :=
  c == '/' || (special && c == '\\')

def endsAuthority (special : Bool) (c : Char) : Bool :=
  isSlash special c || c == '?' || c == '#'

/-- Takes name and password before the last at sign of the authority. -/
def takeCredentials (special : Bool) (cs : List Char) :
    Except Error (String × Option String × List Char) :=
  let authority := cs.takeWhile fun c => !endsAuthority special c
  let after := cs.drop authority.length
  if authority.contains '@' then
    let host := (authority.reverse.takeWhile (· != '@')).reverse
    let user := (authority.take (authority.length - host.length)).dropLast
    let name := user.takeWhile (· != ':')
    let password := user.drop (name.length + 1)
    if user.isEmpty && host.isEmpty && !after.isEmpty then .error .emptyHost
    else
      let encode := fun part => String.ofList (Percent.encode Percent.inUserinfo part)
      .ok (encode name, if password.isEmpty then none else some (encode password), host ++ after)
  else .ok ("", none, cs)

/-- The host as it is written: up to a colon outside of brackets. -/
def takeHost (special : Bool) : (inBrackets : Bool) → List Char → List Char × List Char
  | _, [] => ([], [])
  | inBrackets, c :: rest =>
    if (c == ':' && !inBrackets) || endsAuthority special c then ([], c :: rest)
    else
      let inside := if c == '[' then true else if c == ']' then false else inBrackets
      let (host, left) := takeHost special inside rest
      (c :: host, left)

def bracketed (cs : List Char) : Except Error String :=
  match cs.reverse with
  | ']' :: inner =>
    match IPv6.parse? (inner.reverse.drop 1) with
    | some groups => .ok (String.ofList (IPv6.write groups))
    | none => .error .invalidIPv6
  | _ => .error .invalidIPv6

def specialHost (cs : List Char) : Except Error String :=
  match cs with
  | [] => .error .emptyHost
  | '[' :: _ => bracketed cs
  | _ =>
    match (Text.ofBytes? (Percent.decode cs)).bind fun text => Domain.ascii? text.toList with
    | none => .error .invalidDomain
    | some [] => .error .emptyHost
    | some domain =>
      if IPv4.endsInNumber domain then
        match IPv4.parse? domain with
        | some bytes => .ok (String.ofList (IPv4.write bytes))
        | none => .error .invalidIPv4
      else .ok (String.ofList domain)

def otherHost (cs : List Char) : Except Error String :=
  match cs with
  | '[' :: _ => bracketed cs
  | _ =>
    if cs.any fun c => c.toNat == 0 || " #/:<>?@[\\]^|".toList.contains c then
      .error .invalidHostCharacter
    else .ok (String.ofList (Percent.encode Percent.inControls cs))

/-- Takes the port after a colon; the scheme's own port counts as none. -/
def takePort (scheme : String) (cs : List Char) : Except Error (Option Nat × List Char) :=
  match cs with
  | ':' :: rest =>
    let digits := rest.takeWhile Char.isDigit
    let after := rest.drop digits.length
    let port := Nat.ofDigitChars 10 digits 0
    let ends := match after with
      | [] => true
      | c :: _ => endsAuthority true c
    if 65535 < port || !ends then .error .invalidPort
    else .ok (if digits.isEmpty || defaultPort? scheme == some port then none else some port, after)
  | _ => .ok (none, cs)

def isSingleDot (segment : String) : Bool :=
  [".", "%2e", "%2E"].contains segment

def isDoubleDot (segment : String) : Bool :=
  ["..", "%2e%2e", "%2e%2E", "%2E%2e", "%2E%2E", "%2e.", "%2E.", ".%2e", ".%2E"].contains segment

/-- A drive of a file system: a letter with a colon or a bar. -/
def isDrive (cs : List Char) : Bool :=
  match cs with
  | [letter, mark] => letter.isAlpha && (mark == ':' || mark == '|')
  | _ => false

/-- The segments above the last one, the last standing first. A drive is the highest place. -/
def parent (read : List String) : List String :=
  match read with
  | [] => []
  | last :: above => if isDrive (last.toList.takeWhile (· != '\\')) then last :: above else above

def driveName (segment : String) : String :=
  String.ofList (segment.toList.take 1 ++ [':'])

/-- Resolves the dot segments of a path, the segments read so far standing last first; at the end
a dot segment leaves an empty one. -/
def resolveDots (ofFile : Bool) (read : List String) : List String → List String
  | [] => read.reverse
  | segment :: rest =>
    let following := if rest.isEmpty then [""] else []
    if isDoubleDot segment then resolveDots ofFile (following ++ parent read) rest
    else if isSingleDot segment then resolveDots ofFile (following ++ read) rest
    else if ofFile && read.isEmpty && isDrive segment.toList then
      resolveDots ofFile [driveName segment] rest
    else resolveDots ofFile (segment :: read) rest

/-- The segments of a path that starts with a slash, or of one that is said to. -/
def segmentsOf (scheme : String) (cs : List Char) : List String :=
  let slashed := cs.map fun c => if isSlash (isSpecial scheme) c then '/' else c
  let parts := Text.splitOn '/' slashed
  let parts := if slashed.head? = some '/' then parts.drop 1 else parts
  resolveDots (scheme == "file") []
    (parts.map fun part => String.ofList (Percent.encode Percent.inPath part))

/-- A path without the empty segments at its start; there is always one segment. -/
def dropEmptyStart (segments : List String) : List String :=
  match segments.dropWhile String.isEmpty with
  | [] => [""]
  | filled => filled

/-- Splits what follows the authority into path, query and fragment. -/
def splitTail (cs : List Char) : List Char × Option (List Char) × Option (List Char) :=
  let beforeFragment := cs.takeWhile (· != '#')
  let fragment :=
    match cs.drop beforeFragment.length with
    | _ :: fragment => some fragment
    | [] => none
  let path := beforeFragment.takeWhile (· != '?')
  let query :=
    match beforeFragment.drop path.length with
    | _ :: query => some query
    | [] => none
  (path, query, fragment)

def withTail (url : Url) (cs : List Char) : Url :=
  let special := isSpecial url.scheme
  let (path, query, fragment) := splitTail cs
  let segments := if path.isEmpty && !special then [] else segmentsOf url.scheme path
  let inQuery := if special then Percent.inSpecialQuery else Percent.inQuery
  { url with
    segments
    setApart := url.host.isNone && segments.head? == some "" && 1 < segments.length
    query := query.map fun query => String.ofList (Percent.encode inQuery query)
    fragment := fragment.map fun fragment =>
      String.ofList (Percent.encode Percent.inFragment fragment) }

def ofAuthority (scheme : String) (cs : List Char) : Except Error Url := do
  let special := isSpecial scheme
  let (username, password, cs) ← takeCredentials special cs
  let (written, cs) := takeHost special false cs
  let host ← if special then specialHost written else otherHost written
  if host.isEmpty && (cs.head? == some ':' || !username.isEmpty || password.isSome) then
    throw .emptyHost
  let (port, cs) ← takePort scheme cs
  return withTail { scheme, username, password, host := some host, port } cs

/-- A file's address. A drive at the start of the path has no host, and empty segments there are
dropped. -/
def ofFilePath (host : String) (cs : List Char) : Url :=
  let url := withTail { scheme := "file", host := some host } cs
  let startsWithDrive := url.segments.head?.any fun segment => isDrive segment.toList
  { url with
    host := some (if startsWithDrive then "" else host)
    segments := dropEmptyStart url.segments }

/-- Reads a file's address; its host may be empty. A drive in place of the host belongs to the
path. Without a host the path is taken to start behind a slash of its own, so that a drive behind
three slashes does not stand at the start. -/
def ofFile (cs : List Char) : Except Error Url :=
  match cs with
  | first :: second :: rest =>
    if isSlash true first && isSlash true second then
      let written := rest.takeWhile fun c => !endsAuthority true c
      if isDrive written || written.isEmpty then .ok (ofFilePath "" ('/' :: rest))
      else do
        let host ← specialHost written
        let after := rest.drop written.length
        return if host = "localhost" then ofFilePath "" ('/' :: after) else ofFilePath host after
    else .ok (ofFilePath "" cs)
  | _ => .ok (ofFilePath "" cs)

def parse (text : String) : Except Error Url :=
  match takeScheme? (cleaned text) with
  | none => .error .noScheme
  | some (scheme, cs) =>
    if scheme = "file" then ofFile cs
    else if isSpecial scheme then ofAuthority scheme (cs.dropWhile (isSlash true))
    else
      match cs with
      | '/' :: '/' :: rest => ofAuthority scheme rest
      | '/' :: _ => .ok (withTail { scheme } cs)
      | _ => .error .opaquePath

end ScanWatch.Url
