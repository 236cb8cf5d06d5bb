import ScanWatch.Proofs.Payload.Members

/-! What decoders read from values, and the laws of reading and writing. Records are read field by
field, and may keep the members that none of their fields is for. -/

namespace ScanWatch.Payload

open Json (Tree)

variable {α : Type}

namespace Decoder

variable {decode : Decoder α}

/-- What a decoder reads from a JSON value, wherever there is room for the depth of it. -/
def Reads (decode : Decoder α) (json : Json) (value : α) : Prop :=
  ∀ depth, (Tree.ofJson json).depth ≤ depth → decode depth (Tree.ofJson json) = some value

private theorem Reads.ofJson? {json : Json} {value : α} (reads : decode.Reads json value) :
    decode.ofJson? json = some value :=
  reads _ (Nat.le_refl _)

theorem text_reads (value : String) : text.Reads (.string value) value :=
  fun _ _ => rfl

theorem eq_string {depth : Nat} {json : Json} {value : String}
    (read : text depth (Tree.ofJson json) = some value) : json = .string value := by
  cases json with
  | string found => exact congrArg Json.string (Option.some.inj read)
  | _ => cases read

theorem flag_reads (value : Bool) : flag.Reads (.bool value) value :=
  fun _ _ => rfl

theorem any_reads {json : Json} (orderly : json.Orderly) : any.Reads json json :=
  fun _ deep => Tree.value?_ofJson orderly deep

theorem nullable_of_ne_null (decode : Decoder α) {json : Json} (present : json ≠ .null)
    (depth : Nat) :
    decode.nullable depth (Tree.ofJson json) = (decode depth (Tree.ofJson json)).map some := by
  cases json with
  | null => exact absurd rfl present
  | _ => rfl

theorem list_reads {values : List α} {encode : α → Json}
    (each : ∀ value ∈ values, decode.Reads (encode value) value) :
    decode.list.Reads (.array (values.map encode)) values := by
  intro depth deep
  obtain ⟨inner, rfl, inside⟩ := Tree.depth_items deep
  rw [Tree.ofJson, Tree.ofItems_eq_map, list, List.map_map]
  refine mapM_map_of_forall fun value member => ?_
  exact each value member inner (inside _ (List.mem_map_of_mem member))

theorem eq_array {encode : α → Json}
    (each : ∀ depth json value, decode depth (Tree.ofJson json) = some value → json = encode value)
    {depth : Nat} {json : Json} {values : List α}
    (read : decode.list depth (Tree.ofJson json) = some values) :
    json = .array (values.map encode) := by
  cases json with
  | array items =>
    cases depth with
    | zero => cases read
    | succ depth =>
      rw [Tree.ofJson, Tree.ofItems_eq_map, list] at read
      exact congrArg Json.array (eq_map_of_mapM (each depth) read)
  | _ => cases depth <;> cases read

theorem dictionary_reads {values : Dictionary α} {encode : α → Json}
    (each : ∀ value ∈ values.values, decode.Reads (encode value) value) :
    decode.dictionary.Reads
      (.object (values.entries.map fun entry => (entry.1, encode entry.2))) values := by
  intro depth deep
  obtain ⟨inner, rfl, inside⟩ := Tree.depth_members deep
  rw [Tree.ofJson, dictionary, Members.ofObject?_ofMembers]
  change (Members.ofMembers _).dictionary? _ = _
  rw [Members.dictionary?_ofMembers fun entry member => ?_, Dictionary.ofList_entries]
  exact each entry.2 (List.mem_map_of_mem member) inner
    (inside _ (List.mem_map_of_mem (f := fun entry => (entry.1, encode entry.2)) member))

section Fields

variable {members : List (String × Json)} {name : String} {json : Json} {value : α} {depth : Nat}

theorem Reads.required (reads : decode.Reads json value)
    (distinct : (members.map Prod.fst).Nodup)
    (inside : ∀ entry ∈ members, (Tree.ofJson entry.2).depth ≤ depth)
    (member : (name, json) ∈ members) :
    (Members.ofMembers members).required name (decode depth) = some value := by
  rw [Members.required_of_mem distinct member]
  exact reads depth (inside _ member)

theorem Reads.withDefault (reads : decode.Reads json value)
    (distinct : (members.map Prod.fst).Nodup)
    (inside : ∀ entry ∈ members, (Tree.ofJson entry.2).depth ≤ depth)
    (member : (name, json) ∈ members) (absent : α) :
    (Members.ofMembers members).withDefault name absent (decode depth) = some value := by
  rw [Members.withDefault_of_mem distinct member]
  exact reads depth (inside _ member)

end Fields

/-- A record is built from the members of an object that lie one level further in. -/
theorem record_reads {fields : List String} {build : Nat → Members → Option α}
    {members : List (String × Json)} {value : α}
    (built : ∀ depth, (∀ entry ∈ members, (Tree.ofJson entry.2).depth ≤ depth) →
      build depth (Members.ofMembers members) = some value) :
    (record fields build).Reads (.object members) value := by
  intro depth deep
  obtain ⟨inner, rfl, inside⟩ := Tree.depth_members deep
  rw [Tree.ofJson, record, Members.ofTree?, Members.ofObject?_ofMembers]
  exact built inner inside

theorem openRecord_reads {build : Nat → Members → Option α} {members : List (String × Json)}
    {value : α} (built : ∀ depth, (∀ entry ∈ members, (Tree.ofJson entry.2).depth ≤ depth) →
      build depth (Members.ofMembers members) = some value) :
    (openRecord build).Reads (.object members) value := by
  intro depth deep
  obtain ⟨inner, rfl, inside⟩ := Tree.depth_members deep
  rw [Tree.ofJson, openRecord, Members.ofObject?_ofMembers]
  exact built inner inside

variable {depth : Nat} {tree : Tree}

theorem of_list {values : List α} (read : decode.list depth tree = some values) {value : α}
    (member : value ∈ values) : ∃ inner item, decode inner item = some value := by
  unfold list at read
  split at read
  · obtain ⟨item, _, found⟩ := exists_of_mem_mapM read member
    exact ⟨_, item, found⟩
  · cases read

theorem of_dictionary {values : Dictionary α} (read : decode.dictionary depth tree = some values)
    {value : α} (member : value ∈ values.values) :
    ∃ inner item, decode inner item = some value := by
  unfold dictionary at read
  split at read
  · obtain ⟨members, _, collected⟩ := Option.bind_eq_some_iff.mp read
    obtain ⟨entry, listed, rfl⟩ := List.mem_map.mp member
    obtain ⟨item, _, found⟩ := Members.of_dictionary? collected listed
    exact ⟨_, item, found⟩
  · cases read

theorem of_record {fields : List String} {build : Nat → Members → Option α} {value : α}
    (read : record fields build depth tree = some value) :
    ∃ inner members, build inner members = some value := by
  unfold record at read
  split at read
  · cases read
  · obtain ⟨members, _, built⟩ := Option.bind_eq_some_iff.mp read
    exact ⟨_, members, built⟩

theorem of_openRecord {build : Nat → Members → Option α} {value : α}
    (read : openRecord build depth tree = some value) :
    ∃ inner members, build inner members = some value := by
  unfold openRecord at read
  split at read
  · obtain ⟨members, _, built⟩ := Option.bind_eq_some_iff.mp read
    exact ⟨_, members, built⟩
  · cases read

theorem of_openRecord_ofJson {build : Nat → Members → Option α} {members : List (String × Json)}
    {value : α} (read : (openRecord build).ofJson? (.object members) = some value) :
    ∃ inner, (∀ entry ∈ members, (Tree.ofJson entry.2).depth ≤ inner) ∧
      build inner (Members.ofMembers members) = some value := by
  have whole : (Tree.ofJson (.object members)).depth ≤ _ := Nat.le_refl _
  obtain ⟨inner, room, inside⟩ := Tree.depth_members whole
  rw [ofJson?, room, Tree.ofJson, openRecord, Members.ofObject?_ofMembers] at read
  exact ⟨inner, inside, read⟩

end Decoder

/-- Members without a record's own fields, as they can be read. -/
structure Foreign (own : List String) (extra : Dictionary Json) : Prop where
  named : ∀ name ∈ extra.keys, name ∉ own
  orderly : ∀ value ∈ extra.values, value.Orderly

private theorem any_of_orderly {members : List (String × Json)} {depth : Nat}
    (orderly : ∀ entry ∈ members, entry.2.Orderly)
    (inside : ∀ entry ∈ members, (Tree.ofJson entry.2).depth ≤ depth) :
    (Members.ofMembers members).dictionary? (Decoder.any depth) =
      some (Dictionary.ofList members) := by
  have each : ∀ entry ∈ members,
      Decoder.any depth (Tree.ofJson (id entry.2)) = some entry.2 := fun entry member =>
    Decoder.any_reads (orderly entry member) depth (inside entry member)
  simpa using Members.dictionary?_ofMembers each

theorem foreign_of_read {own : List String} {members : Members} {depth : Nat}
    {extra : Dictionary Json}
    (read : (members.others own).dictionary? (Decoder.any depth) = some extra) :
    Foreign own extra := by
  constructor
  · intro name listed
    obtain ⟨entry, member, rfl⟩ := List.mem_map.mp listed
    obtain ⟨tree, other, _⟩ := Members.of_dictionary? read member
    simpa using (List.mem_filter.mp other).2
  · intro value listed
    obtain ⟨entry, member, rfl⟩ := List.mem_map.mp listed
    obtain ⟨tree, _, denotes⟩ := Members.of_dictionary? read member
    exact Tree.orderly_of_value? denotes

theorem mem_of_read {own : List String} {members : List (String × Json)} {depth : Nat}
    {extra : Dictionary Json} (distinct : (members.map Prod.fst).Nodup)
    (orderly : ∀ entry ∈ members, entry.2.Orderly)
    (inside : ∀ entry ∈ members, (Tree.ofJson entry.2).depth ≤ depth)
    (read : ((Members.ofMembers members).others own).dictionary? (Decoder.any depth) = some extra)
    {entry : String × Json} : entry ∈ extra.entries ↔ entry ∈ members ∧ entry.1 ∉ own := by
  have part : ∀ entry, entry ∈ members.filter (fun entry => !own.contains entry.1) →
      entry ∈ members := fun entry kept => (List.mem_filter.mp kept).1
  rw [Members.others_ofMembers, any_of_orderly (fun entry kept => orderly entry (part entry kept))
    (fun entry kept => inside entry (part entry kept))] at read
  obtain rfl := Option.some.inj read
  have different := distinct.sublist
    ((List.filter_sublist (p := fun entry => !own.contains entry.1)).map Prod.fst)
  rw [(Dictionary.perm_ofList different).mem_iff, List.mem_filter]
  simp

namespace Foreign

variable {own : List String} {extra : Dictionary Json} {fields : List (String × Json)}

theorem distinct (foreign : Foreign own extra) (known : ∀ entry ∈ fields, entry.1 ∈ own)
    (single : (fields.map Prod.fst).Nodup) : ((fields ++ extra.entries).map Prod.fst).Nodup := by
  rw [List.map_append]
  refine single.append extra.keys_nodup fun name field kept => ?_
  obtain ⟨entry, member, rfl⟩ := List.mem_map.mp field
  exact foreign.named _ kept (known entry member)

theorem mem_own (foreign : Foreign own extra) {name : String} (field : name ∈ own) {json : Json} :
    (name, json) ∈ fields ++ extra.entries ↔ (name, json) ∈ fields := by
  rw [List.mem_append, or_iff_left]
  exact fun kept => foreign.named name (List.mem_map.mpr ⟨_, kept, rfl⟩) field

theorem read (foreign : Foreign own extra) (known : ∀ entry ∈ fields, entry.1 ∈ own) {depth : Nat}
    (inside : ∀ entry ∈ fields ++ extra.entries, (Tree.ofJson entry.2).depth ≤ depth) :
    ((Members.ofMembers (fields ++ extra.entries)).others own).dictionary? (Decoder.any depth) =
      some extra := by
  have others : (fields ++ extra.entries).filter (fun entry => !own.contains entry.1) =
      extra.entries := by
    have dropped : fields.filter (fun entry => !own.contains entry.1) = [] :=
      List.filter_eq_nil_iff.mpr fun entry member => by simpa using known entry member
    have kept : extra.entries.filter (fun entry => !own.contains entry.1) = extra.entries :=
      List.filter_eq_self.mpr fun entry member => by
        simpa using foreign.named entry.1 (List.mem_map_of_mem member)
    rw [List.filter_append, dropped, kept, List.nil_append]
  rw [Members.others_ofMembers, others,
    any_of_orderly (fun entry member => foreign.orderly _ (List.mem_map_of_mem member))
      fun entry member => inside entry (List.mem_append_right _ member),
    Dictionary.ofList_entries]

end Foreign

/-- Sound values are read back from what they are written as, and only sound values are read: so
what is read from any tree stays the same when it is written and read again. -/
structure RoundTrip (decode : Decoder α) (encode : α → Json) (Sound : α → Prop) : Prop where
  returns : ∀ value, Sound value → decode.ofJson? (encode value) = some value
  image : ∀ depth tree value, decode depth tree = some value → Sound value
  again : ∀ depth tree value, decode depth tree = some value →
    decode.ofJson? (encode value) = some value

theorem RoundTrip.of_reads {decode : Decoder α} {encode : α → Json} {Sound : α → Prop}
    (reads : ∀ value, Sound value → decode.Reads (encode value) value)
    (image : ∀ depth tree value, decode depth tree = some value → Sound value) :
    RoundTrip decode encode Sound where
  returns value sound := (reads value sound).ofJson?
  image := image
  again depth tree value read := (reads value (image depth tree value read)).ofJson?

/-- Whatever object can be read, no name of which is repeated, it is written again with the members
that are to be expected, in some order. -/
def Keeps (decode : Decoder α) (encode : α → Json)
    (expected : List (String × Json) → List (String × Json)) : Prop :=
  ∀ members value, (members.map Prod.fst).Nodup → (∀ entry ∈ members, entry.2.Orderly) →
    decode.ofJson? (.object members) = some value →
    ∃ written, encode value = .object written ∧ written.Perm (expected members)

end ScanWatch.Payload
