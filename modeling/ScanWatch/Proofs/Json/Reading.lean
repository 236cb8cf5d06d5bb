import ScanWatch.Json.Reader
import ScanWatch.Proofs.Json.Numeral
import ScanWatch.Proofs.Json.Quoted
import ScanWatch.Proofs.Json.Tree

namespace ScanWatch.Json

/-- Values whose numbers are integers of 64 bits. -/
inductive Integral : Json → Prop
  | null : Integral .null
  | bool (value : Bool) : Integral (.bool value)
  | number {value : Int} (inRange : Number.inIntegerRange value = true) :
      Integral (.number (.integer value))
  | string (text : String) : Integral (.string text)
  | array {items : List Json} (each : ∀ item ∈ items, Integral item) : Integral (.array items)
  | object {members : List (String × Json)} (each : ∀ entry ∈ members, Integral entry.2) :
      Integral (.object members)

attribute [simp] Orderly.null Orderly.bool Orderly.number Orderly.string
  Integral.null Integral.bool Integral.string

@[simp] theorem orderly_array_iff {items : List Json} :
    Orderly (.array items) ↔ ∀ item ∈ items, item.Orderly :=
  ⟨fun | .array each => each, .array⟩

@[simp] theorem orderly_object_iff {members : List (String × Json)} :
    Orderly (.object members) ↔
      members.Pairwise (fun left right => Text.Before left.1 right.1) ∧
        ∀ entry ∈ members, entry.2.Orderly :=
  ⟨fun | .object ordered each => ⟨ordered, each⟩, fun ⟨ordered, each⟩ => .object ordered each⟩

@[simp] theorem integral_integer_iff {value : Int} :
    Integral (.number (.integer value)) ↔ Number.inIntegerRange value = true :=
  ⟨fun | .number inRange => inRange, .number⟩

@[simp] theorem integral_array_iff {items : List Json} :
    Integral (.array items) ↔ ∀ item ∈ items, item.Integral :=
  ⟨fun | .array each => each, .array⟩

@[simp] theorem integral_object_iff {members : List (String × Json)} :
    Integral (.object members) ↔ ∀ entry ∈ members, entry.2.Integral :=
  ⟨fun | .object each => each, .object⟩

mutual

/-- The tokens of a value. -/
def tokens : Json → List Token
  | .null => [.null]
  | .bool value => [.bool value]
  | .number value => [.number (some value)]
  | .string text => [.string (some text)]
  | .array items => .openArray :: (itemTokens items ++ [.closeArray])
  | .object members => .openObject :: (memberTokens members ++ [.closeObject])

def itemTokens : List Json → List Token
  | [] => []
  | [item] => tokens item
  | item :: next :: rest => tokens item ++ .comma :: itemTokens (next :: rest)

def memberTokens : List (String × Json) → List Token
  | [] => []
  | [(name, value)] => .string (some name) :: .colon :: tokens value
  | (name, value) :: next :: rest =>
    .string (some name) :: .colon :: (tokens value ++ .comma :: memberTokens (next :: rest))

end

namespace Token

private theorem take_space {c : Char} (space : isSpace c = true) (rest : List Char) :
    take (c :: rest) = none := by
  simp only [isSpace, Bool.or_eq_true, beq_iff_eq] at space
  rcases space with ((rfl | rfl) | rfl) | rfl <;> rfl

private theorem scan?_of_take {cs rest : List Char} {token : Token}
    (taken : take cs = some (token, rest)) :
    scan? cs = (scan? rest).map (token :: ·) := by
  cases cs with
  | nil => cases taken
  | cons c tail =>
    have solid : isSpace c ≠ true := by
      intro space
      rw [take_space space] at taken
      cases taken
    rw [scan?, if_neg solid]
    split
    · next nothing => cases taken.symm.trans nothing
    · next other left found =>
      cases taken.symm.trans found
      rfl

private theorem take_string (text : String) (rest : List Char) :
    take (Quoted.encode text ++ rest) = some (string (some text), rest) := by
  have body : Quoted.encode text ++ rest =
      '"' :: (text.toList.flatMap Quoted.encodeChar ++ '"' :: rest) := by
    simp [Quoted.encode]
  rw [body, take, takeString, Quoted.take_encodeChars, Option.map_some]
  simp only [Quoted.denote?_pieces, Option.map_some, String.ofList_toList]

private theorem take_numeral {c : Char} (numeric : c = '-' ∨ c.isDigit = true) (tail : List Char) :
    take (c :: tail) = takeNumber (c :: tail) := by
  rw [take]
  all_goals
    intro rest same
    obtain rfl := (List.cons.inj same).1
    exact absurd numeric (by decide)

private theorem integer_head (value : Int) : ∃ c tail, (Number.integer value).toChars = c :: tail ∧
    (c = '-' ∨ c.isDigit = true) := by
  rw [Number.toChars]
  by_cases negative : value < 0
  · rw [if_pos negative]
    exact ⟨'-', _, rfl, .inl rfl⟩
  · rw [if_neg negative]
    obtain ⟨c, tail, digits⟩ := List.exists_cons_of_ne_nil
      (Nat.toDigits_ne_nil (n := value.natAbs) (b := 10))
    have digit : c.isDigit = true := Text.isDigit_of_mem_toDigits (digits ▸ List.mem_cons_self)
    exact ⟨c, tail, digits, .inr digit⟩

private theorem take_integer {value : Int} (inRange : Number.inIntegerRange value = true)
    {rest : List Char} (apart : Apart rest) :
    take ((Number.integer value).toChars ++ rest) =
      some (number (some (.integer value)), rest) := by
  have numeral := Numeral.take_integer value apart
  obtain ⟨c, tail, written, numeric⟩ := integer_head value
  rw [written, List.cons_append] at numeral ⊢
  rw [take_numeral numeric, takeNumber, numeral, Option.map_some]
  simp only [Numeral.value?_ofInt inRange]

end Token

/-- Characters that are split into some tokens, wherever they stand before something that does not
carry them on. -/
def Spells (cs : List Char) (tokens : List Token) : Prop :=
  ∀ rest, Apart rest → Token.scan? (cs ++ rest) = (Token.scan? rest).map (tokens ++ ·)

namespace Spells

variable {cs ds : List Char} {ts us : List Token} {token : Token}

theorem nil : Spells [] [] := by
  intro rest _
  simp

private theorem one (taken : ∀ rest, Apart rest → Token.take (cs ++ rest) = some (token, rest)) :
    Spells cs [token] := by
  intro rest apart
  exact Token.scan?_of_take (taken rest apart)

theorem mark {c : Char} (taken : ∀ rest, Token.take (c :: rest) = some (token, rest))
    (later : Spells cs ts) : Spells (c :: cs) (token :: ts) := by
  intro rest apart
  rw [List.cons_append, Token.scan?_of_take (taken _), later rest apart, Option.map_map]
  rfl

theorem append {c : Char} (first : Spells cs ts) (last : Spells (c :: ds) us)
    (between : carriesOn c = false) : Spells (cs ++ c :: ds) (ts ++ us) := by
  intro rest apart
  have follows : Apart (c :: ds ++ rest) := .cons between
  rw [List.append_assoc, first _ follows, last rest apart, Option.map_map]
  congr 1
  funext tokens
  exact (List.append_assoc ..).symm

end Spells

theorem spells_quoted (text : String) : Spells (Quoted.encode text) [.string (some text)] :=
  .one fun rest _ => Token.take_string text rest

private theorem spells_itemChars {items : List Json}
    (each : ∀ item ∈ items, Spells item.toChars item.tokens) :
    Spells (itemChars items) (itemTokens items) := by
  induction items with
  | nil => exact .nil
  | cons item others ih =>
    obtain ⟨first, later⟩ := List.forall_mem_cons.mp each
    cases others with
    | nil => exact first
    | cons next others => exact first.append (.mark (fun _ => rfl) (ih later)) rfl

private theorem spells_memberChars {members : List (String × Json)}
    (each : ∀ entry ∈ members, Spells entry.2.toChars entry.2.tokens) :
    Spells (memberChars members) (memberTokens members) := by
  induction members with
  | nil => exact .nil
  | cons entry others ih =>
    obtain ⟨name, value⟩ := entry
    obtain ⟨first, later⟩ := List.forall_mem_cons.mp each
    cases others with
    | nil => exact (spells_quoted name).append (.mark (fun _ => rfl) first) rfl
    | cons next others =>
      have following := first.append (.mark (c := ',') (fun _ => rfl) (ih later)) rfl
      exact (spells_quoted name).append (.mark (fun _ => rfl) following) rfl

theorem Integral.spells {value : Json} (integral : value.Integral) :
    Spells value.toChars value.tokens := by
  induction integral with
  | null => exact .one fun _ _ => rfl
  | bool flag => cases flag <;> exact .one fun _ _ => rfl
  | number inRange => exact .one fun _ apart => Token.take_integer inRange apart
  | string text => exact spells_quoted text
  | array each ih =>
    have ends : Spells [']'] [.closeArray] := .mark (fun _ => rfl) .nil
    exact .mark (fun _ => rfl) ((spells_itemChars ih).append ends rfl)
  | object each ih =>
    have ends : Spells ['}'] [.closeObject] := .mark (fun _ => rfl) .nil
    exact .mark (fun _ => rfl) ((spells_memberChars ih).append ends rfl)

/-- Tokens from which a tree is built wherever a value may come. -/
def Builds (tokens : List Token) (tree : Tree) : Prop :=
  ∀ frames rest, (tokens ++ rest).foldlM Reader.step ⟨frames, .value⟩ =
    rest.foldlM Reader.step ⟨frames, .separator tree⟩

namespace Reader

variable {state : State} {token : Token} {rest : List Token}

private theorem foldlM_step (next : State) (stepped : step state token = some next) :
    (token :: rest).foldlM step state = rest.foldlM step next := by
  rw [List.foldlM_cons, stepped]
  rfl

private theorem step_firstItem (frames : List Frame) (opens : token ≠ .closeArray) :
    step ⟨frames, .firstItem⟩ token = step ⟨.array [] :: frames, .value⟩ token := by
  cases token with
  | closeArray => contradiction
  | _ => rfl

end Reader

open Reader

private theorem tokens_head (value : Json) :
    ∃ token rest, value.tokens = token :: rest ∧ token ≠ .closeArray := by
  cases value <;> exact ⟨_, _, rfl, Token.noConfusion⟩

private theorem itemTokens_head (item : Json) (others : List Json) :
    ∃ token rest, itemTokens (item :: others) = token :: rest ∧ token ≠ .closeArray := by
  obtain ⟨token, rest, starts, opens⟩ := item.tokens_head
  cases others with
  | nil => exact ⟨token, rest, starts, opens⟩
  | cons next others =>
    refine ⟨token, rest ++ .comma :: itemTokens (next :: others), ?_, opens⟩
    rw [itemTokens, starts, List.cons_append]

private theorem memberTokens_head (entry : String × Json) (others : List (String × Json)) :
    ∃ rest, memberTokens (entry :: others) = .string (some entry.1) :: rest := by
  cases others <;> exact ⟨_, rfl⟩

private theorem build_items {item : Json} {others : List Json}
    (each : ∀ value ∈ item :: others, Builds value.tokens (Tree.ofJson value))
    (done : List Tree) (frames : List Frame) (rest : List Token) :
    (itemTokens (item :: others) ++ .closeArray :: rest).foldlM step
        ⟨.array done :: frames, .value⟩ =
      rest.foldlM step
        ⟨frames, .separator (.array (done.reverse ++ Tree.ofItems (item :: others)))⟩ := by
  induction others generalizing item done with
  | nil =>
    have last := each item List.mem_cons_self
    rw [itemTokens, last, foldlM_step ⟨frames, .separator (.array _)⟩ rfl,
      List.reverse_cons]
    rfl
  | cons next others ih =>
    obtain ⟨first, later⟩ := List.forall_mem_cons.mp each
    rw [itemTokens, List.append_assoc, first, List.cons_append,
      foldlM_step ⟨.array (Tree.ofJson item :: done) :: frames, .value⟩ rfl, ih later,
      List.reverse_cons, List.append_assoc]
    rfl

private theorem build_members {entry : String × Json} {others : List (String × Json)}
    (each : ∀ member ∈ entry :: others, Builds member.2.tokens (Tree.ofJson member.2))
    (done : List (Option String × Tree)) (frames : List Frame) (rest : List Token) :
    (memberTokens (entry :: others) ++ .closeObject :: rest).foldlM step ⟨frames, .name done⟩ =
      rest.foldlM step
        ⟨frames, .separator (.object (done.reverse ++ Tree.ofMembers (entry :: others)))⟩ := by
  induction others generalizing entry done with
  | nil =>
    obtain ⟨name, value⟩ := entry
    have last := each (name, value) List.mem_cons_self
    rw [memberTokens, List.cons_append, List.cons_append,
      foldlM_step ⟨frames, .colon done (some name)⟩ rfl,
      foldlM_step ⟨.object done (some name) :: frames, .value⟩ rfl, last,
      foldlM_step ⟨frames, .separator (.object _)⟩ rfl, List.reverse_cons]
    rfl
  | cons next others ih =>
    obtain ⟨name, value⟩ := entry
    obtain ⟨first, later⟩ := List.forall_mem_cons.mp each
    rw [memberTokens, List.cons_append, List.cons_append, List.append_assoc,
      foldlM_step ⟨frames, .colon done (some name)⟩ rfl,
      foldlM_step ⟨.object done (some name) :: frames, .value⟩ rfl, first,
      List.cons_append,
      foldlM_step ⟨frames, .name ((some name, Tree.ofJson value) :: done)⟩ rfl,
      ih later, List.reverse_cons, List.append_assoc]
    rfl

/-- From the tokens of a value its tree is built. -/
theorem Integral.builds {value : Json} (integral : value.Integral) :
    Builds value.tokens (Tree.ofJson value) := by
  induction integral with
  | null | bool | number | string => exact fun frames rest => foldlM_step _ rfl
  | @array items each ih =>
    intro frames rest
    rw [tokens, List.cons_append, List.append_assoc,
      foldlM_step ⟨frames, .firstItem⟩ rfl]
    cases items with
    | nil => exact foldlM_step _ rfl
    | cons item others =>
      obtain ⟨token, later, starts, opens⟩ := itemTokens_head item others
      have enters := step_firstItem frames opens
      have items := build_items ih [] frames rest
      rw [starts, List.cons_append, List.foldlM_cons] at items ⊢
      rw [enters]
      exact items
  | @object members each ih =>
    intro frames rest
    rw [tokens, List.cons_append, List.append_assoc,
      foldlM_step ⟨frames, .firstName⟩ rfl]
    cases members with
    | nil => exact foldlM_step _ rfl
    | cons entry others =>
      obtain ⟨later, starts⟩ := memberTokens_head entry others
      have members := build_members ih [] frames rest
      rw [starts, List.cons_append, List.foldlM_cons] at members ⊢
      exact members

/-- Orderly values of integers, nested no deeper than may be read. -/
structure Readable (value : Json) : Prop where
  orderly : value.Orderly
  integral : value.Integral
  shallow : (Tree.ofJson value).depth ≤ Tree.nestingLimit

/-- Characters that spell the tokens of a value say just what the value is. -/
theorem Integral.ofChars?_of_spells {value : Json} (integral : value.Integral) {cs : List Char}
    (spells : Spells cs value.tokens) : Tree.ofChars? cs = some (Tree.ofJson value) := by
  have scanned := spells [] .nil
  have built := integral.builds [] []
  rw [List.append_nil] at scanned built
  rw [Tree.ofChars?, scanned, Token.scan?]
  simp only [Option.map_some, List.append_nil, Option.bind_eq_bind, Option.bind_some, start, built]
  rfl

theorem Integral.parse?_compact_tree {value : Json} (integral : value.Integral) :
    Tree.parse? value.compact = some (Tree.ofJson value) := by
  rw [Tree.parse?, compact, String.toList_ofList, integral.ofChars?_of_spells integral.spells]

/-- A readable value is read back from its compact text. -/
theorem Readable.parse?_compact {value : Json} (readable : value.Readable) :
    parse? value.compact = some value := by
  rw [parse?, readable.integral.parse?_compact_tree, Option.bind_some,
    Tree.value?_ofJson readable.orderly readable.shallow]

theorem mapM_parse?_compact {values : List Json} (readable : ∀ value ∈ values, value.Readable) :
    (values.map compact).mapM parse? = some values := by
  induction values with
  | nil => rfl
  | cons value rest ih =>
    obtain ⟨first, later⟩ := List.forall_mem_cons.mp readable
    rw [List.map_cons, List.mapM_cons, first.parse?_compact, ih later]
    rfl

end ScanWatch.Json
