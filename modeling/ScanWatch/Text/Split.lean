namespace ScanWatch.Text

/-- The parts between the separators; there is one more of them than of separators. -/
def splitOn (separator : Char) : List Char → List (List Char)
  | [] => [[]]
  | c :: rest =>
    if c = separator then [] :: splitOn separator rest
    else
      match splitOn separator rest with
      | [] => [[c]]
      | part :: others => (c :: part) :: others

def after? : (beginning cs : List Char) → Option (List Char)
  | [], cs => some cs
  | _ :: _, [] => none
  | expected :: beginning, c :: rest => if c = expected then after? beginning rest else none

end ScanWatch.Text
