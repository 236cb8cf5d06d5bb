import ScanWatch.Json.Tree
import ScanWatch.Proofs.Dictionary

namespace ScanWatch.Json.Tree

theorem ofItems_eq_map (items : List Json) : ofItems items = items.map ofJson := by
  induction items with
  | nil => rfl
  | cons item rest ih => rw [ofItems, ih, List.map_cons]

theorem ofMembers_eq_map (members : List (String × Json)) :
    ofMembers members = members.map fun entry => (some entry.1, ofJson entry.2) := by
  induction members with
  | nil => rfl
  | cons member rest ih => rw [ofMembers, ih, List.map_cons]

private theorem depth_le_of_mem {items : List Tree} {item : Tree} (member : item ∈ items) :
    item.depth ≤ itemDepth items := by
  induction items with
  | nil => cases member
  | cons head rest ih =>
    rw [itemDepth]
    rcases List.mem_cons.mp member with rfl | later
    · exact Nat.le_max_left ..
    · exact Nat.le_trans (ih later) (Nat.le_max_right ..)

private theorem depth_le_of_mem_members {members : List (Option String × Tree)}
    {entry : Option String × Tree} (member : entry ∈ members) :
    entry.2.depth ≤ memberDepth members := by
  induction members with
  | nil => cases member
  | cons head rest ih =>
    obtain ⟨name, item⟩ := head
    rw [memberDepth]
    rcases List.mem_cons.mp member with rfl | later
    · exact Nat.le_max_left ..
    · exact Nat.le_trans (ih later) (Nat.le_max_right ..)

theorem depth_items {items : List Json} {depth : Nat}
    (deep : (ofJson (.array items)).depth ≤ depth) :
    ∃ inner, depth = inner + 1 ∧ ∀ item ∈ items, (ofJson item).depth ≤ inner := by
  rw [ofJson, Tree.depth, ofItems_eq_map] at deep
  refine ⟨depth - 1, by omega, fun item member => ?_⟩
  have inside := depth_le_of_mem (List.mem_map_of_mem (f := ofJson) member)
  omega

theorem depth_members {members : List (String × Json)} {depth : Nat}
    (deep : (ofJson (.object members)).depth ≤ depth) :
    ∃ inner, depth = inner + 1 ∧ ∀ entry ∈ members, (ofJson entry.2).depth ≤ inner := by
  rw [ofJson, Tree.depth, ofMembers_eq_map] at deep
  refine ⟨depth - 1, by omega, fun entry member => ?_⟩
  have inside : (ofJson entry.2).depth ≤ _ := depth_le_of_mem_members
    (List.mem_map_of_mem (f := fun entry => (some entry.1, ofJson entry.2)) member)
  omega

private theorem values?_map {items : List Json} {depth : Nat}
    (each : ∀ item ∈ items, (ofJson item).value? depth = some item) :
    values? depth (items.map ofJson) = some items := by
  induction items with
  | nil => rfl
  | cons item rest ih =>
    obtain ⟨first, others⟩ := List.forall_mem_cons.mp each
    simp [values?, first, ih others]

private theorem memberValues?_map {members : List (String × Json)} {depth : Nat}
    (each : ∀ entry ∈ members, (ofJson entry.2).value? depth = some entry.2) :
    memberValues? depth (members.map fun entry => (some entry.1, ofJson entry.2)) =
      some members := by
  induction members with
  | nil => rfl
  | cons entry rest ih =>
    obtain ⟨first, others⟩ := List.forall_mem_cons.mp each
    simp [memberValues?, first, ih others]

/-- The tree of an orderly value denotes it. -/
theorem value?_ofJson {value : Json} (orderly : value.Orderly) {depth : Nat}
    (deep : (ofJson value).depth ≤ depth) : (ofJson value).value? depth = some value := by
  induction orderly generalizing depth with
  | null | bool | number | string => rfl
  | array each ih =>
    obtain ⟨inner, rfl, inside⟩ := depth_items deep
    rw [ofJson, ofItems_eq_map, value?,
      values?_map fun item member => ih item member (inside item member)]
    rfl
  | @object members ordered each ih =>
    obtain ⟨inner, rfl, inside⟩ := depth_members deep
    rw [ofJson, ofMembers_eq_map, value?,
      memberValues?_map fun entry member => ih entry member (inside entry member)]
    simp [Dictionary.entries_ofList ordered]

mutual

/-- A tree denotes orderly values only: repeated members have given way, the others are put in
order. -/
theorem orderly_of_value? {depth : Nat} {tree : Tree} {value : Json}
    (denotes : tree.value? depth = some value) : value.Orderly := by
  match tree, depth with
  | .null, _ =>
    obtain rfl := Option.some.inj denotes
    exact .null
  | .bool flag, _ =>
    obtain rfl := Option.some.inj denotes
    exact .bool flag
  | .number _, _ =>
    obtain ⟨found, _, rfl⟩ := Option.map_eq_some_iff.mp denotes
    exact .number found
  | .string _, _ =>
    obtain ⟨found, _, rfl⟩ := Option.map_eq_some_iff.mp denotes
    exact .string found
  | .array items, 0 | .object members, 0 => cases denotes
  | .array items, depth + 1 =>
    obtain ⟨values, each, rfl⟩ := Option.map_eq_some_iff.mp denotes
    exact .array (orderly_of_values? each)
  | .object members, depth + 1 =>
    obtain ⟨values, each, rfl⟩ := Option.map_eq_some_iff.mp denotes
    refine .object (Dictionary.ofList values).ordered fun entry member => ?_
    exact orderly_of_memberValues? each entry (Dictionary.mem_of_mem_ofList member)

theorem orderly_of_values? {depth : Nat} {items : List Tree} {values : List Json}
    (denote : values? depth items = some values) : ∀ value ∈ values, value.Orderly := by
  match items with
  | [] =>
    obtain rfl := Option.some.inj denote
    exact List.forall_mem_nil _
  | item :: rest =>
    simp only [values?, bind, Option.bind_eq_some_iff, pure, Option.some.injEq] at denote
    obtain ⟨first, denotes, others, denote, rfl⟩ := denote
    exact List.forall_mem_cons.mpr ⟨orderly_of_value? denotes, orderly_of_values? denote⟩

theorem orderly_of_memberValues? {depth : Nat} {members : List (Option String × Tree)}
    {values : List (String × Json)} (denote : memberValues? depth members = some values) :
    ∀ entry ∈ values, entry.2.Orderly := by
  match members with
  | [] =>
    obtain rfl := Option.some.inj denote
    exact List.forall_mem_nil _
  | (name, item) :: rest =>
    simp only [memberValues?, bind, Option.bind_eq_some_iff, pure, Option.some.injEq] at denote
    obtain ⟨name, _, first, denotes, others, denote, rfl⟩ := denote
    exact List.forall_mem_cons.mpr ⟨orderly_of_value? denotes, orderly_of_memberValues? denote⟩

end

end ScanWatch.Json.Tree
