namespace ScanWatch.Text

/-- Puts a comma after each digit that is followed by a positive multiple of three digits. -/
def groupDigits : List Char → List Char
  | [] => []
  | [digit] => [digit]
  | digit :: next :: rest =>
    if (rest.length + 1) % 3 = 0 then digit :: ',' :: groupDigits (next :: rest)
    else digit :: groupDigits (next :: rest)

def grouped (value : Nat) : String :=
  String.ofList (groupDigits (Nat.toDigits 10 value))

end ScanWatch.Text
