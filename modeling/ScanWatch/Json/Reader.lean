import ScanWatch.Json.Tree

/-! Reading: tokens build a tree on a stack of open arrays and objects. -/

namespace ScanWatch.Json.Reader

/-- An open array, or an open object with the name of the member being read; what was read
already stands last first. -/
inductive Frame where
  | array (items : List Tree)
  | object (members : List (Option String × Tree)) (name : Option String)

/-- What may come next. -/
inductive Expect where
  | value
  /-- A value, or the end of the array just opened. -/
  | firstItem
  /-- A member's name in an object with these members. -/
  | name (members : List (Option String × Tree))
  /-- A member's name, or the end of the object just opened. -/
  | firstName
  /-- The colon after a member's name. -/
  | colon (members : List (Option String × Tree)) (name : Option String)
  /-- A comma, or the end of what is open; the end of the text when nothing is. -/
  | separator (finished : Tree)

structure State where
  frames : List Frame
  expect : Expect

def start : State :=
  ⟨[], .value⟩

/-- Ends an array or object with its last value. -/
def close : Frame → Tree → Token → Option Tree
  | .array items, last, .closeArray => some (.array (last :: items).reverse)
  | .object members name, last, .closeObject => some (.object ((name, last) :: members).reverse)
  | _, _, _ => none

def begin (frames : List Frame) : Token → Option State
  | .openArray => some ⟨frames, .firstItem⟩
  | .openObject => some ⟨frames, .firstName⟩
  | .null => some ⟨frames, .separator .null⟩
  | .bool value => some ⟨frames, .separator (.bool value)⟩
  | .number value => some ⟨frames, .separator (.number value)⟩
  | .string text => some ⟨frames, .separator (.string text)⟩
  | _ => none

def step (state : State) (token : Token) : Option State :=
  match state.expect, token with
  | .value, token => begin state.frames token
  | .firstItem, .closeArray => some ⟨state.frames, .separator (.array [])⟩
  | .firstItem, token => begin (.array [] :: state.frames) token
  | .firstName, .closeObject => some ⟨state.frames, .separator (.object [])⟩
  | .firstName, .string name => some ⟨state.frames, .colon [] name⟩
  | .name members, .string name => some ⟨state.frames, .colon members name⟩
  | .colon members name, .colon => some ⟨.object members name :: state.frames, .value⟩
  | .separator last, .comma =>
    match state.frames with
    | .array items :: outer => some ⟨.array (last :: items) :: outer, .value⟩
    | .object members name :: outer => some ⟨outer, .name ((name, last) :: members)⟩
    | [] => none
  | .separator last, token =>
    match state.frames with
    | frame :: outer => (close frame last token).map fun tree => ⟨outer, .separator tree⟩
    | [] => none
  | _, _ => none

/-- The finished tree, once nothing is open. -/
def finish? : State → Option Tree
  | ⟨[], .separator tree⟩ => some tree
  | _ => none

end Reader

/-- The tree that characters spell, all of them. -/
def Tree.ofChars? (cs : List Char) : Option Tree := do
  let tokens ← Token.scan? cs
  let state ← tokens.foldlM Reader.step Reader.start
  Reader.finish? state

def Tree.parse? (text : String) : Option Tree :=
  ofChars? text.toList

def parse? (text : String) : Option Json :=
  (Tree.parse? text).bind (Tree.value? Tree.nestingLimit)

/-- What stands for a byte that encodes no character. In a quoted text it is half a character, so
that the text denotes nothing and can only be passed over. Right after a backslash, where nothing
but an escape may stand, it is a character that no text may have. -/
def strayByte (escaped : Bool) : List Char :=
  if escaped then ['\x00'] else ['\\', 'u', 'd', '8', '0', '0', '?']

/-- The characters of some bytes from a position on; whether a backslash stands before it. -/
def charsFrom (encoded : ByteArray) (escaped : Bool) (position : Nat) : List Char :=
  if position < encoded.size then
    match encoded.utf8DecodeChar? position with
    | some c => c :: charsFrom encoded (c == '\\' && !escaped) (position + c.utf8Size)
    | none => strayByte escaped ++ charsFrom encoded false (position + 1)
  else []
termination_by encoded.size - position
decreasing_by
  · have := c.utf8Size_pos
    omega
  · omega

/-- The tree of a whole body, which may hold bytes that are no text. -/
def Tree.ofBytes? (encoded : List UInt8) : Option Tree :=
  match Text.ofBytes? encoded with
  | some text => parse? text
  | none => ofChars? (charsFrom ⟨encoded.toArray⟩ false 0)

end ScanWatch.Json
