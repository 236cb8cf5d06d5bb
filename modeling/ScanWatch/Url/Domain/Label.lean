import ScanWatch.Text.CombiningClass
import ScanWatch.Text.Direction
import ScanWatch.Text.Joining
import ScanWatch.Text.Mark

/-! What the labels of a domain name have to keep to besides being made of characters that are
allowed: where they may start, where invisible joiners may stand, and how directions may mix. -/

namespace ScanWatch.Url.Domain

/-- A label must not start with a mark, which would combine with what stands before the label. -/
def startsSoundly (cs : List Char) : Bool :=
  !(cs.head?.any Text.isMark)

/-- The sign that keeps the letters beside it apart. -/
def nonJoiner : Char := '\u200c'

/-- The sign that makes the letters beside it join. -/
def joiner : Char := '\u200d'

/-- The class of the signs that take the vowel off a letter. -/
def viramaClass : Nat := 9

/-- Whether the letters around a place would join; the text before it is read backwards. -/
def joinsAround (before after : List Char) : Bool :=
  (before.dropWhile Text.isTransparent).head?.any Text.joinsNext &&
    (after.dropWhile Text.isTransparent).head?.any Text.joinsPrevious

def fitsBetween (before : List Char) (c : Char) (after : List Char) : Bool :=
  let afterVirama := before.head?.any fun last => Text.combiningClass last.toNat == viramaClass
  if c == joiner then afterVirama
  else if c == nonJoiner then afterVirama || joinsAround before after
  else true

def joinersFit (before : List Char) : List Char → Bool
  | [] => true
  | c :: after => fitsBetween before c after && joinersFit (c :: before) after

/-- Whether a label makes the whole name one of both directions. -/
def hasRightToLeft (cs : List Char) : Bool :=
  cs.any fun c => [Text.Direction.rightToLeft, .arabicNumber].contains (Text.direction c)

/-- Whether a label keeps its place and its reading among labels of the other direction. -/
def keepsDirection (cs : List Char) : Bool :=
  let directions := cs.map Text.direction
  let last := (directions.reverse.dropWhile (· == .mark)).head?
  let allOf (allowed : List Text.Direction) := directions.all allowed.contains
  let lastOf (allowed : List Text.Direction) := last.any allowed.contains
  match directions with
  | [] => true
  | .leftToRight :: _ =>
    allOf [.leftToRight, .europeanNumber, .neutral, .mark] &&
      lastOf [.leftToRight, .europeanNumber]
  | .rightToLeft :: _ =>
    allOf [.rightToLeft, .arabicNumber, .europeanNumber, .neutral, .mark] &&
      lastOf [.rightToLeft, .arabicNumber, .europeanNumber] &&
      !(directions.contains .arabicNumber && directions.contains .europeanNumber)
  | _ => false

end ScanWatch.Url.Domain
