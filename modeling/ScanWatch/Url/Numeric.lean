import ScanWatch.Text.Split
import ScanWatch.Url.Percent

namespace ScanWatch.Url

namespace IPv4

/-- A part: decimal, octal after a zero, or hexadecimal after `0x`. -/
def part? : List Char → Option Nat
  | [] => none
  | '0' :: 'x' :: rest => Text.ofDigits? 16 rest
  | '0' :: 'X' :: rest => Text.ofDigits? 16 rest
  | ['0'] => some 0
  | '0' :: rest => Text.ofDigits? 8 rest
  | cs => Text.ofDigits? 10 cs

/-- The parts of a host between its points; a point at the end adds none. -/
def parts (host : List Char) : List (List Char) :=
  let all := Text.splitOn '.' host
  if all.getLast? = some [] then all.dropLast else all

/-- A host whose last part is a number has to be an IPv4 address. -/
def endsInNumber (host : List Char) : Bool :=
  match (parts host).getLast? with
  | none => false
  | some last => (!last.isEmpty && last.all Char.isDigit) || (part? last).isSome

def bytesOf (count value : Nat) : List Nat :=
  (List.range count).reverse.map fun place => value / Nat.pow 256 place % 256

/-- Four bytes: each part but the last gives one, the last gives all that are left. -/
def parse? (host : List Char) : Option (List Nat) := do
  let numbers ← (parts host).mapM part?
  let last ← numbers.getLast?
  let leading := numbers.dropLast
  if leading.length < 4 ∧ leading.all (· < 256) ∧ last < Nat.pow 256 (4 - leading.length) then
    some (leading ++ bytesOf (4 - leading.length) last)
  else none

def write (bytes : List Nat) : List Char :=
  ['.'].intercalate (bytes.map (Nat.toDigits 10))

end IPv4

namespace IPv6

def group? (cs : List Char) : Option Nat :=
  if cs.isEmpty || 4 < cs.length then none else Text.ofDigits? 16 cs

def decimalByte? (cs : List Char) : Option Nat :=
  match cs with
  | [] => none
  | ['0'] => some 0
  | '0' :: _ => none
  | _ => (Text.ofDigits? 10 cs).bind fun value => if value < 256 then some value else none

def embedded? (cs : List Char) : Option (List Nat) := do
  match ← (Text.splitOn '.' cs).mapM decimalByte? with
  | [first, second, third, fourth] => some [256 * first + second, 256 * third + fourth]
  | _ => none

/-- Groups between colons; the last part of the address may be an embedded IPv4 address. -/
def groups? (isLast : Bool) : List (List Char) → Option (List Nat)
  | [] => some []
  | [part] =>
    if isLast && part.contains '.' then embedded? part else (group? part).map fun group => [group]
  | part :: rest => do
    let group ← group? part
    let groups ← groups? isLast rest
    return group :: groups

def side? (isLast : Bool) (cs : List Char) : Option (List Nat) :=
  if cs.isEmpty then some [] else groups? isLast (Text.splitOn ':' cs)

def splitGap : List Char → Option (List Char × List Char)
  | [] => none
  | ':' :: ':' :: rest => some ([], rest)
  | c :: rest => (splitGap rest).map fun (left, right) => (c :: left, right)

/-- Eight groups; a pair of colons stands for one or more groups of zero. -/
def parse? (cs : List Char) : Option (List Nat) :=
  match splitGap cs with
  | none => do
    let groups ← groups? true (Text.splitOn ':' cs)
    if groups.length = 8 then some groups else none
  | some (left, right) => do
    let left ← side? false left
    let right ← side? true right
    if left.length + right.length < 8 then
      some (left ++ List.replicate (8 - left.length - right.length) 0 ++ right)
    else none

def zeros (groups : List Nat) : Nat :=
  (groups.takeWhile (· == 0)).length

def longestGap : (position : Nat) → List Nat → Nat × Nat
  | _, [] => (0, 0)
  | position, group :: rest =>
    let later := longestGap (position + 1) rest
    let here := zeros (group :: rest)
    if later.2 ≤ here then (position, here) else later

def writeGroups (groups : List Nat) : List Char :=
  [':'].intercalate (groups.map (Nat.toDigits 16))

/-- Two or more groups of zero are written as a pair of colons, in one place. -/
def write (groups : List Nat) : List Char :=
  let (start, length) := longestGap 0 groups
  let text :=
    if length < 2 then writeGroups groups
    else writeGroups (groups.take start) ++ [':', ':'] ++ writeGroups (groups.drop (start + length))
  '[' :: text ++ [']']

end IPv6

end ScanWatch.Url
