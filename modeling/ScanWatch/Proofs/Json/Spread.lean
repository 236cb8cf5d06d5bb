import ScanWatch.Proofs.Json.Reading

namespace ScanWatch.Json

namespace Spells

variable {c : Char} {cs : List Char} {ts : List Token}

private theorem blank (space : Token.isSpace c = true) (later : Spells cs ts) :
    Spells (c :: cs) ts := by
  intro rest apart
  rw [List.cons_append, Token.scan?, if_pos space]
  exact later rest apart

private theorem newLine (level : Nat) (later : Spells cs ts) :
    Spells (Json.newLine level ++ cs) ts := by
  have indented : ∀ count, Spells (List.replicate count ' ' ++ cs) ts := by
    intro count
    induction count with
    | zero => exact later
    | succ count ih => exact .blank rfl ih
  exact .blank rfl (indented _)

end Spells

private theorem spells_spreadItems {level : Nat} {items : List Json}
    (each : ∀ item ∈ items, Spells (spreadChars level item) item.tokens) :
    Spells (spreadItems level items) (itemTokens items) := by
  induction items with
  | nil => exact .nil
  | cons item others ih =>
    obtain ⟨first, later⟩ := List.forall_mem_cons.mp each
    cases others with
    | nil => exact first.newLine level
    | cons next others => exact (first.newLine level).append (.mark (fun _ => rfl) (ih later)) rfl

private theorem spells_spreadMembers {level : Nat} {members : List (String × Json)}
    (each : ∀ entry ∈ members, Spells (spreadChars level entry.2) entry.2.tokens) :
    Spells (spreadMembers level members) (memberTokens members) := by
  induction members with
  | nil => exact .nil
  | cons entry others ih =>
    obtain ⟨name, value⟩ := entry
    obtain ⟨first, later⟩ := List.forall_mem_cons.mp each
    have named := (spells_quoted name).newLine level
    cases others with
    | nil => exact named.append (.mark (fun _ => rfl) (first.blank rfl)) rfl
    | cons next others =>
      have following := first.append (.mark (c := ',') (fun _ => rfl) (ih later)) rfl
      exact named.append (.mark (fun _ => rfl) (following.blank rfl)) rfl

/-- The spread text of a value is split into the same tokens as its compact text. -/
theorem Integral.spells_spread {value : Json} (integral : value.Integral) :
    ∀ level, Spells (spreadChars level value) value.tokens := by
  induction integral with
  | null => exact fun _ => Integral.null.spells
  | bool flag => exact fun _ => (Integral.bool flag).spells
  | number inRange => exact fun _ => (Integral.number inRange).spells
  | string text => exact fun _ => (Integral.string text).spells
  | @array items each ih =>
    intro level
    have ends : Spells [']'] [.closeArray] := .mark (fun _ => rfl) .nil
    cases items with
    | nil => exact .mark (fun _ => rfl) ends
    | cons item others =>
      have inner := spells_spreadItems fun item member => ih item member (level + 1)
      rw [spreadChars, List.append_assoc]
      exact .mark (fun _ => rfl) (inner.append (ends.newLine level) rfl)
  | @object members each ih =>
    intro level
    have ends : Spells ['}'] [.closeObject] := .mark (fun _ => rfl) .nil
    cases members with
    | nil => exact .mark (fun _ => rfl) ends
    | cons entry others =>
      have inner := spells_spreadMembers fun entry member => ih entry member (level + 1)
      rw [spreadChars, List.append_assoc]
      exact .mark (fun _ => rfl) (inner.append (ends.newLine level) rfl)

/-- A readable value is read back from its spread text. -/
theorem Readable.parse?_spread {value : Json} (readable : value.Readable) :
    parse? value.spread = some value := by
  rw [parse?, Tree.parse?, spread, String.toList_ofList,
    readable.integral.ofChars?_of_spells (readable.integral.spells_spread 0), Option.bind_some,
    Tree.value?_ofJson readable.orderly readable.shallow]

/-- Items and members stand on lines of their own, and nothing stands between empty brackets. -/
example : (Json.object [("a", .array [.null, .object []])]).spread =
    "\x7b\n  \"a\": [\n    null,\n    \x7b\x7d\n  ]\n\x7d" := by decide

end ScanWatch.Json
