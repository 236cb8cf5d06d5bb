import ScanWatch.Text.Composition
import ScanWatch.Text.Split
import ScanWatch.Url.Domain.Label
import ScanWatch.Url.Domain.Mapping
import ScanWatch.Url.Punycode

namespace ScanWatch.Url.Domain

def isAscii (cs : List Char) : Bool :=
  cs.all fun c => c.toNat < 0x80

/-- A name with each character replaced, in composed form; none when a character is refused. -/
def mapped? (cs : List Char) : Option (List Char) :=
  if isAscii cs then some (cs.map Char.toLower)
  else (cs.mapM fun c => replacement? c.toNat).map fun codes =>
    (Text.composed codes.flatten).map Char.ofNat

/-- Characters that would end or change the host. -/
def isForbidden (c : Char) : Bool :=
  c.toNat ≤ 0x20 || c.toNat == 0x7F || "%#/:<>?@[\\]^|".toList.contains c

/-- A label as it is read, and its ASCII form. -/
structure Label where
  text : List Char
  ascii : List Char
deriving DecidableEq, Repr

def mark : List Char :=
  "xn--".toList

/-- The most characters that a label may have to be given an ASCII form. -/
def longestText : Nat := 1000

/-- The most characters that an ASCII form may have behind its mark. -/
def longestForm : Nat := 2000

/-- A label; one that bears the mark has to be the ASCII form of a label beyond ASCII whose
characters are all in their plain forms. -/
def label? (cs : List Char) : Option Label :=
  match Text.after? mark cs with
  | none =>
    if isAscii cs then some ⟨cs, cs⟩
    else if cs.length ≤ longestText then some ⟨cs, mark ++ Punycode.encode cs⟩
    else none
  | some form =>
    if isAscii form && form.length ≤ longestForm then do
      let text ← Punycode.decode? form
      if !isAscii text && mapped? text == some text then some ⟨text, cs⟩ else none
    else none

def ascii? (cs : List Char) : Option (List Char) := do
  let labels ← (Text.splitOn '.' (← mapped? cs)).mapM label?
  let texts := labels.map Label.text
  let sound := texts.all fun text => isAscii text || (startsSoundly text && joinersFit [] text)
  let directed := !texts.any hasRightToLeft || texts.all keepsDirection
  let domain := ['.'].intercalate (labels.map Label.ascii)
  if sound && directed && !domain.any isForbidden then some domain else none

end ScanWatch.Url.Domain
