import ScanWatch.Text.Digits

namespace ScanWatch.Json

/-- A character that stands for itself or a short escape, or the code unit of a long escape. -/
inductive Piece where
  | char (c : Char)
  | codeUnit (value : Nat)
deriving DecidableEq, Repr

namespace Quoted

/-- The code unit of four hexadecimal digits. -/
def codeUnit? (first second third fourth : Char) : Option Nat :=
  Text.ofDigits? 16 [first, second, third, fourth]

/-- What the character after a backslash stands for. -/
def shortEscape? (c : Char) : Option Char :=
  match c with
  | '"' => some '"'
  | '\\' => some '\\'
  | '/' => some '/'
  | 'b' => some '\x08'
  | 'f' => some '\x0c'
  | 'n' => some '\n'
  | 'r' => some '\r'
  | 't' => some '\t'
  | _ => none

/-- Takes the pieces up to the closing quote; control characters are refused. -/
def take : List Char → Option (List Piece × List Char)
  | [] => none
  | '"' :: rest => some ([], rest)
  | '\\' :: 'u' :: first :: second :: third :: fourth :: rest => do
    let value ← codeUnit? first second third fourth
    let (pieces, rest) ← take rest
    return (.codeUnit value :: pieces, rest)
  | '\\' :: escape :: rest => do
    let c ← shortEscape? escape
    let (pieces, rest) ← take rest
    return (.char c :: pieces, rest)
  | c :: rest =>
    if c = '\\' ∨ c.toNat < 0x20 then none
    else do
      let (pieces, rest) ← take rest
      return (.char c :: pieces, rest)

/-- The characters that pieces denote: two code units may make one character, and a half that
stands alone denotes nothing. -/
def denote? : List Piece → Option (List Char)
  | [] => some []
  | .char c :: rest => (denote? rest).map (c :: ·)
  | .codeUnit high :: .codeUnit low :: rest =>
    if 0xD800 ≤ high ∧ high < 0xDC00 then
      if 0xDC00 ≤ low ∧ low < 0xE000 then
        (denote? rest).map (Char.ofNat (0x10000 + (high - 0xD800) * 0x400 + (low - 0xDC00)) :: ·)
      else none
    else if 0xDC00 ≤ high ∧ high < 0xE000 then none
    else (denote? (.codeUnit low :: rest)).map (Char.ofNat high :: ·)
  | .codeUnit value :: rest =>
    if 0xD800 ≤ value ∧ value < 0xE000 then none
    else (denote? rest).map (Char.ofNat value :: ·)

/-- How a character is written between quotes: only the quote, the backslash and the control
characters are escaped. -/
def encodeChar (c : Char) : List Char :=
  match c with
  | '"' => ['\\', '"']
  | '\\' => ['\\', '\\']
  | '\x08' => ['\\', 'b']
  | '\x0c' => ['\\', 'f']
  | '\n' => ['\\', 'n']
  | '\r' => ['\\', 'r']
  | '\t' => ['\\', 't']
  | c =>
    if c.toNat < 0x20 then
      ['\\', 'u', '0', '0', Nat.digitChar (c.toNat / 16), Nat.digitChar (c.toNat % 16)]
    else [c]

/-- A text between quotes. -/
def encode (text : String) : List Char :=
  '"' :: (text.toList.flatMap encodeChar ++ ['"'])

theorem take_shorter {cs rest : List Char} {pieces : List Piece}
    (taken : take cs = some (pieces, rest)) : rest.length < cs.length := by
  fun_induction take cs generalizing pieces rest with
  | case1 => simp at taken
  | case2 => simp_all
  | case3 first second third fourth tail ih =>
    simp only [bind, Option.bind_eq_some_iff, pure, Option.some.injEq, Prod.mk.injEq,
      Prod.exists] at taken
    obtain ⟨_, _, _, _, found, _, rfl⟩ := taken
    have := ih found
    simp only [List.length_cons]
    omega
  | case4 escape tail _ ih =>
    simp only [bind, Option.bind_eq_some_iff, pure, Option.some.injEq, Prod.mk.injEq,
      Prod.exists] at taken
    obtain ⟨_, _, _, _, found, _, rfl⟩ := taken
    have := ih found
    simp only [List.length_cons]
    omega
  | case5 => simp at taken
  | case6 c tail _ _ _ _ ih =>
    simp only [bind, Option.bind_eq_some_iff, pure, Option.some.injEq, Prod.mk.injEq,
      Prod.exists] at taken
    obtain ⟨_, _, found, _, rfl⟩ := taken
    have := ih found
    simp only [List.length_cons]
    omega

end Quoted

end ScanWatch.Json
