import ScanWatch.Payload.Job
import ScanWatch.Text.Blank

namespace ScanWatch

inductive Route where
  | compose
  | job (hash : JobHash)
deriving DecidableEq, Repr, Inhabited

namespace Route

def jobRoot : List Char :=
  "/query/".toList

/-- The job that a path names: one non-empty segment below the root of jobs, with any number of
slashes after it. -/
def jobOf? (path : List Char) : Option JobHash :=
  if jobRoot.isPrefixOf path then
    let hash := Text.dropEndWhile (· == '/') (path.drop jobRoot.length)
    if hash.isEmpty || hash.contains '/' then none else some ⟨String.ofList hash⟩
  else none

def parse? (text : String) : Option Route :=
  let path := (Text.trim text).toList
  if path.isEmpty || path == ['/'] then some compose else (jobOf? path).map job

def path : Route → String
  | compose => "/"
  | job hash => String.ofList (jobRoot ++ hash.text.toList)

def hash? : Route → Option JobHash
  | compose => none
  | job hash => some hash

end Route

end ScanWatch
