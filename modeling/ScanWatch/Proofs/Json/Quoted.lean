import ScanWatch.Json.Quoted

/-! A quoted text is read back whatever its characters are: nothing in it ends it early, and each
character is denoted by the piece that it is written as. -/

namespace ScanWatch.Json.Quoted

/-- The piece that a character is written as; control characters without a short escape are written
as code units. -/
def piece (c : Char) : Piece :=
  if c.toNat < 0x20 ∧ c ∉ ['\x08', '\x0c', '\n', '\r', '\t'] then .codeUnit c.toNat else .char c

private theorem codeUnit?_control : ∀ code < 0x20,
    codeUnit? '0' '0' (Nat.digitChar (code / 16)) (Nat.digitChar (code % 16)) = some code := by
  decide

private theorem take_shortEscape {escape c : Char} (short : shortEscape? escape = some c)
    (rest : List Char) : take ('\\' :: escape :: rest) =
      (take rest).map fun (pieces, left) => (.char c :: pieces, left) := by
  have noUnit : escape ≠ 'u' := by
    rintro rfl
    cases short
  rw [take]
  · rw [short]
    cases take rest <;> rfl
  · intro _ _ _ _ _ unit _
    exact noUnit unit

private theorem take_codeUnit {first second third fourth : Char} {code : Nat}
    (unit : codeUnit? first second third fourth = some code) (rest : List Char) :
    take ('\\' :: 'u' :: first :: second :: third :: fourth :: rest) =
      (take rest).map fun (pieces, left) => (.codeUnit code :: pieces, left) := by
  rw [take, unit]
  cases take rest <;> rfl

private theorem take_plain {c : Char} (noQuote : c ≠ '"') (noEscape : c ≠ '\\')
    (plain : 0x20 ≤ c.toNat) (rest : List Char) :
    take (c :: rest) = (take rest).map fun (pieces, left) => (.char c :: pieces, left) := by
  rw [take]
  · rw [if_neg (not_or.mpr ⟨noEscape, Nat.not_lt.mpr plain⟩)]
    cases take rest <;> rfl
  · exact noQuote
  · intro _ _ _ _ _ escape _
    exact noEscape escape
  · intro _ _ escape _
    exact noEscape escape

private theorem take_encodeChar (c : Char) (rest : List Char) :
    take (encodeChar c ++ rest) =
      (take rest).map fun (pieces, left) => (piece c :: pieces, left) := by
  unfold encodeChar
  split
  case h_1 | h_2 | h_3 | h_4 | h_5 | h_6 | h_7 => exact take_shortEscape rfl rest
  case h_8 noQuote noEscape noBack noFeed noLine noReturn noTab =>
    have long : c ∉ ['\x08', '\x0c', '\n', '\r', '\t'] := by
      simp only [List.mem_cons, List.not_mem_nil, or_false, not_or]
      exact ⟨noBack, noFeed, noLine, noReturn, noTab⟩
    by_cases control : c.toNat < 0x20
    · rw [if_pos control, piece, if_pos ⟨control, long⟩]
      exact take_codeUnit (codeUnit?_control c.toNat control) rest
    · rw [if_neg control, piece, if_neg (fun both => control both.1)]
      exact take_plain noQuote noEscape (Nat.le_of_not_lt control) rest

theorem take_encodeChars (cs rest : List Char) :
    take (cs.flatMap encodeChar ++ '"' :: rest) = some (cs.map piece, rest) := by
  induction cs with
  | nil => rfl
  | cons c cs ih =>
    rw [List.flatMap_cons, List.append_assoc, take_encodeChar, ih]
    rfl

private theorem denote?_codeUnit {code : Nat} (plain : code < 0xD800) (rest : List Piece) :
    denote? (.codeUnit code :: rest) = (denote? rest).map (Char.ofNat code :: ·) := by
  have notHigh : ¬(0xD800 ≤ code ∧ code < 0xDC00) := fun high => by omega
  have notLow : ¬(0xDC00 ≤ code ∧ code < 0xE000) := fun low => by omega
  have whole : ¬(0xD800 ≤ code ∧ code < 0xE000) := fun half => by omega
  match rest with
  | [] | .char c :: rest => simp only [denote?, if_neg whole]
  | .codeUnit low :: rest => simp only [denote?, if_neg notHigh, if_neg notLow]

private theorem denote?_piece (c : Char) (rest : List Piece) :
    denote? (piece c :: rest) = (denote? rest).map (c :: ·) := by
  by_cases unit : c.toNat < 0x20 ∧ c ∉ ['\x08', '\x0c', '\n', '\r', '\t']
  · rw [piece, if_pos unit, denote?_codeUnit (by omega), Char.ofNat_toNat]
  · rw [piece, if_neg unit, denote?]

theorem denote?_pieces (cs : List Char) : denote? (cs.map piece) = some cs := by
  induction cs with
  | nil => rfl
  | cons c cs ih =>
    rw [List.map_cons, denote?_piece, ih]
    rfl

end ScanWatch.Json.Quoted
