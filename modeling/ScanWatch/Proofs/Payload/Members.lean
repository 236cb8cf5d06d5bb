import ScanWatch.Payload.Decoder
import ScanWatch.Proofs.Json.Tree

namespace ScanWatch.Payload

open Json (Tree)

variable {α β : Type}

theorem mapM_map_of_forall {values : List α} {write : α → β} {read : β → Option α}
    (each : ∀ value ∈ values, read (write value) = some value) :
    (values.map write).mapM read = some values := by
  induction values with
  | nil => rfl
  | cons value rest ih =>
    obtain ⟨first, others⟩ := List.forall_mem_cons.mp each
    simp [first, ih others]

theorem exists_of_mem_mapM {items : List β} {read : β → Option α} {values : List α}
    (all : items.mapM read = some values) {value : α} (member : value ∈ values) :
    ∃ item ∈ items, read item = some value := by
  induction items generalizing values with
  | nil =>
    obtain rfl := Option.some.inj all
    cases member
  | cons item rest ih =>
    simp only [List.mapM_cons, bind, Option.bind_eq_some_iff, pure, Option.some.injEq] at all
    obtain ⟨first, here, others, later, rfl⟩ := all
    rcases List.mem_cons.mp member with rfl | member
    · exact ⟨item, List.mem_cons_self, here⟩
    · obtain ⟨source, inside, found⟩ := ih later member
      exact ⟨source, List.mem_cons_of_mem _ inside, found⟩

theorem eq_map_of_mapM {items : List Json} {read : Tree → Option α} {write : α → Json}
    (each : ∀ json value, read (Tree.ofJson json) = some value → json = write value)
    {values : List α} (all : (items.map Tree.ofJson).mapM read = some values) :
    items = values.map write := by
  induction items generalizing values with
  | nil =>
    obtain rfl := Option.some.inj all
    rfl
  | cons item rest ih =>
    simp only [List.map_cons, List.mapM_cons, bind, Option.bind_eq_some_iff, pure,
      Option.some.injEq] at all
    obtain ⟨first, here, others, later, rfl⟩ := all
    rw [List.map_cons, each item first here, ← ih later]

namespace Members

/-- The members of an object, as a record has them. -/
def ofMembers (members : List (String × Json)) : Members :=
  members.map fun entry => (entry.1, Tree.ofJson entry.2)

variable {members : List (String × Json)} {name : String} {json : Json}

theorem ofObject?_ofMembers (members : List (String × Json)) :
    ofObject? (Tree.ofMembers members) = some (ofMembers members) := by
  rw [Tree.ofMembers_eq_map]
  induction members with
  | nil => rfl
  | cons entry rest ih =>
    rw [ofObject?] at ih ⊢
    simp [ih, ofMembers]

private theorem filter_ofMembers (members : List (String × Json)) (name : String) :
    (ofMembers members).filter (fun member => member.1 == name) =
      ofMembers (members.filter fun member => member.1 == name) :=
  List.filter_map

private theorem of_field? {found : Option Tree}
    (read : (ofMembers members).field? name = some found) :
    (found = none ∧ ∀ json, (name, json) ∉ members) ∨
      ∃ json, found = some (Tree.ofJson json) ∧
        ∀ other, (name, other) ∈ members ↔ other = json := by
  have among : ∀ json, (name, json) ∈ members ↔
      (name, json) ∈ members.filter fun member => member.1 == name := fun json => by
    simp
  have spelled : ∀ entry ∈ members.filter fun member => member.1 == name, entry.1 = name :=
    fun entry member => beq_iff_eq.mp (List.mem_filter.mp member).2
  rw [field?, filter_ofMembers] at read
  generalize members.filter (fun member => member.1 == name) = named at among spelled read
  match named with
  | [] =>
    refine .inl ⟨(Option.some.inj read).symm, fun json member => ?_⟩
    simpa using (among json).mp member
  | [(other, json)] =>
    obtain rfl : other = name := spelled _ (List.mem_singleton_self _)
    refine .inr ⟨json, (Option.some.inj read).symm, fun other => ?_⟩
    rw [among, List.mem_singleton, Prod.mk.injEq]
    exact and_iff_right rfl
  | first :: second :: rest => cases read

theorem of_required {value : α} {decode : Tree → Option α}
    (read : (ofMembers members).required name decode = some value) :
    ∃ json, decode (Tree.ofJson json) = some value ∧
      ∀ other, (name, other) ∈ members ↔ other = json := by
  simp only [required, bind, Option.bind_eq_some_iff] at read
  obtain ⟨found, looked, tree, present, decoded⟩ := read
  rcases of_field? looked with ⟨rfl, _⟩ | ⟨json, rfl, single⟩
  · cases present
  · obtain rfl := Option.some.inj present
    exact ⟨json, decoded, single⟩

theorem of_withDefault {value absent : α} {decode : Tree → Option α}
    (read : (ofMembers members).withDefault name absent decode = some value) :
    (value = absent ∧ ∀ json, (name, json) ∉ members) ∨
      ∃ json, decode (Tree.ofJson json) = some value ∧
        ∀ other, (name, other) ∈ members ↔ other = json := by
  simp only [withDefault, bind, Option.bind_eq_some_iff] at read
  obtain ⟨found, looked, decoded⟩ := read
  rcases of_field? looked with ⟨rfl, missing⟩ | ⟨json, rfl, single⟩
  · exact .inl ⟨(Option.some.inj decoded).symm, missing⟩
  · exact .inr ⟨json, decoded, single⟩

theorem exists_of_required {members : Members} {value : α} {decode : Tree → Option α}
    (read : members.required name decode = some value) : ∃ tree, decode tree = some value := by
  simp only [required, bind, Option.bind_eq_some_iff] at read
  obtain ⟨_, _, tree, _, decoded⟩ := read
  exact ⟨tree, decoded⟩

theorem exists_of_withDefault {members : Members} {value absent : α} {decode : Tree → Option α}
    (read : members.withDefault name absent decode = some value) :
    value = absent ∨ ∃ tree, decode tree = some value := by
  simp only [withDefault, bind, Option.bind_eq_some_iff] at read
  obtain ⟨found, _, decoded⟩ := read
  cases found with
  | none => exact .inl (Option.some.inj decoded).symm
  | some tree => exact .inr ⟨tree, decoded⟩

private theorem field?_of_not_mem (missing : ∀ json, (name, json) ∉ members) :
    (ofMembers members).field? name = some none := by
  have none : members.filter (fun member => member.1 == name) = [] := by
    refine List.filter_eq_nil_iff.mpr fun entry member same => ?_
    obtain rfl := beq_iff_eq.mp same
    exact missing entry.2 member
  rw [field?, filter_ofMembers, none]
  rfl

private theorem field?_of_mem (distinct : (members.map Prod.fst).Nodup)
    (member : (name, json) ∈ members) :
    (ofMembers members).field? name = some (some (Tree.ofJson json)) := by
  have single : members.filter (fun member => member.1 == name) = [(name, json)] := by
    induction members with
    | nil => cases member
    | cons head rest ih =>
      rw [List.map_cons, List.nodup_cons] at distinct
      rcases List.mem_cons.mp member with rfl | later
      · have none : rest.filter (fun member => member.1 == name) = [] := by
          refine List.filter_eq_nil_iff.mpr fun entry inside same => distinct.1 ?_
          exact List.mem_map.mpr ⟨entry, inside, beq_iff_eq.mp same⟩
        simp [none]
      · have other : head.1 ≠ name := by
          rintro rfl
          exact distinct.1 (List.mem_map.mpr ⟨_, later, rfl⟩)
        simp [other, ih distinct.2 later]
  rw [field?, filter_ofMembers, single]
  rfl

theorem required_of_mem (distinct : (members.map Prod.fst).Nodup)
    (member : (name, json) ∈ members) (decode : Tree → Option α) :
    (ofMembers members).required name decode = decode (Tree.ofJson json) := by
  simp [required, field?_of_mem distinct member]

theorem withDefault_of_mem (distinct : (members.map Prod.fst).Nodup)
    (member : (name, json) ∈ members) (absent : α) (decode : Tree → Option α) :
    (ofMembers members).withDefault name absent decode = decode (Tree.ofJson json) := by
  simp [withDefault, field?_of_mem distinct member]

theorem withDefault_of_not_mem (missing : ∀ json, (name, json) ∉ members) (absent : α)
    (decode : Tree → Option α) :
    (ofMembers members).withDefault name absent decode = some absent := by
  simp [withDefault, field?_of_not_mem missing]

theorem others_ofMembers (members : List (String × Json)) (own : List String) :
    (ofMembers members).others own =
      ofMembers (members.filter fun entry => !own.contains entry.1) :=
  List.filter_map

theorem dictionary?_ofMembers {entries : List (String × α)} {encode : α → Json}
    {decode : Tree → Option α}
    (each : ∀ entry ∈ entries, decode (Tree.ofJson (encode entry.2)) = some entry.2) :
    (ofMembers (entries.map fun entry => (entry.1, encode entry.2))).dictionary? decode =
      some (Dictionary.ofList entries) := by
  rw [dictionary?, ofMembers, List.map_map, mapM_map_of_forall fun entry member => ?_]
  · rfl
  · simp [each entry member]

theorem of_dictionary? {members : Members} {decode : Tree → Option α} {dictionary : Dictionary α}
    (read : members.dictionary? decode = some dictionary) {entry : String × α}
    (member : entry ∈ dictionary.entries) :
    ∃ tree, (entry.1, tree) ∈ members ∧ decode tree = some entry.2 := by
  obtain ⟨pairs, all, rfl⟩ := Option.map_eq_some_iff.mp read
  obtain ⟨⟨name, tree⟩, inside, paired⟩ :=
    exists_of_mem_mapM all (Dictionary.mem_of_mem_ofList member)
  obtain ⟨value, decoded, rfl⟩ := Option.map_eq_some_iff.mp paired
  exact ⟨tree, inside, decoded⟩

end Members

end ScanWatch.Payload
