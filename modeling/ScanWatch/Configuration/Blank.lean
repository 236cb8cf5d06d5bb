namespace ScanWatch.Configuration

def isSpace (c : Char) : Bool :=
  let code := c.toNat
  (0x09 ≤ code && code ≤ 0x0D) || code == 0x20 || code == 0x85 || code == 0x200E ||
    code == 0x200F || code == 0x2028 || code == 0x2029

/-- What follows a block comment, of which `level` are open. -/
def afterBlock? (level : Nat) : List Char → Option (List Char)
  | [] => none
  | '/' :: '*' :: rest => afterBlock? (level + 1) rest
  | '*' :: '/' :: rest => if level ≤ 1 then some rest else afterBlock? (level - 1) rest
  | _ :: rest => afterBlock? level rest

private theorem afterBlock?_length {level : Nat} {cs rest : List Char}
    (found : afterBlock? level cs = some rest) : rest.length ≤ cs.length := by
  fun_induction afterBlock? level cs with
  | case1 => simp at found
  | case2 level tail ih => have := ih found; simp only [List.length_cons]; omega
  | case3 => cases found; simp only [List.length_cons]; omega
  | case4 level tail _ ih => have := ih found; simp only [List.length_cons]; omega
  | case5 level c tail _ _ ih => have := ih found; simp only [List.length_cons]; omega

/-- What follows blanks and comments; none when a comment is not closed. -/
def skip? (cs : List Char) : Option (List Char) :=
  match cs with
  | [] => some []
  | '/' :: '/' :: rest => skip? (rest.dropWhile (· != '\n'))
  | '/' :: '*' :: rest =>
    match _found : afterBlock? 1 rest with
    | none => none
    | some rest => skip? rest
  | '/' :: _ => none
  | c :: rest => if isSpace c then skip? rest else some (c :: rest)
termination_by cs.length
decreasing_by
  · have := (List.dropWhile_sublist (l := rest) (· != '\n')).length_le
    simp only [List.length_cons]
    omega
  · have := afterBlock?_length _found
    simp only [List.length_cons]
    omega
  · simp

/-- Skips blanks, a comma, and blanks again; whether there was a comma. -/
def takeComma? (cs : List Char) : Option (Bool × List Char) := do
  match ← skip? cs with
  | ',' :: rest => return (true, ← skip? rest)
  | rest => return (false, rest)

/-- What follows a sign, once blanks before it and after it are skipped. -/
def afterSign? (sign : Char) (cs : List Char) : Option (List Char) := do
  match ← skip? cs with
  | c :: rest => if c = sign then skip? rest else none
  | [] => none

end ScanWatch.Configuration
