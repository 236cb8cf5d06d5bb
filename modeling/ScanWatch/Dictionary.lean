import ScanWatch.Text.Bytes

namespace ScanWatch

/-- Entries in strictly increasing order of key, so each key occurs once. -/
structure Dictionary (α : Type) where
  entries : List (String × α)
  ordered : entries.Pairwise (fun left right => Text.Before left.1 right.1)

namespace Dictionary

variable {α : Type}

def empty : Dictionary α :=
  ⟨[], .nil⟩

instance : Inhabited (Dictionary α) := ⟨empty⟩
instance : EmptyCollection (Dictionary α) := ⟨empty⟩

instance [BEq α] : BEq (Dictionary α) := ⟨fun left right => left.entries == right.entries⟩

/-- Puts an entry at its place; an entry with the same key gives way to it. -/
def place (key : String) (value : α) : List (String × α) → List (String × α)
  | [] => [(key, value)]
  | head :: rest =>
    if key = head.1 then (key, value) :: rest
    else if Text.Before key head.1 then (key, value) :: head :: rest
    else head :: place key value rest

theorem mem_place {key : String} {value : α} {entries : List (String × α)} {entry : String × α}
    (member : entry ∈ place key value entries) : entry = (key, value) ∨ entry ∈ entries := by
  induction entries with
  | nil => simpa [place] using member
  | cons head rest ih =>
    unfold place at member
    split at member
    · rcases List.mem_cons.mp member with here | later
      · exact .inl here
      · exact .inr (List.mem_cons_of_mem _ later)
    · split at member
      · rcases List.mem_cons.mp member with here | later
        · exact .inl here
        · exact .inr later
      · rcases List.mem_cons.mp member with here | later
        · exact .inr (here ▸ List.mem_cons_self ..)
        · exact (ih later).imp_right (List.mem_cons_of_mem _)

private theorem place_ordered (key : String) (value : α) (entries : List (String × α))
    (ordered : entries.Pairwise (fun left right => Text.Before left.1 right.1)) :
    (place key value entries).Pairwise (fun left right => Text.Before left.1 right.1) := by
  induction entries with
  | nil => simp [place]
  | cons head rest ih =>
    obtain ⟨headFirst, restOrdered⟩ := List.pairwise_cons.mp ordered
    unfold place
    split
    · next same => exact List.pairwise_cons.mpr ⟨by simpa [same] using headFirst, restOrdered⟩
    · next different =>
      split
      · next before =>
        refine List.pairwise_cons.mpr ⟨fun entry member => ?_, ordered⟩
        rcases List.mem_cons.mp member with rfl | later
        · exact before
        · exact before.trans (headFirst entry later)
      · next notBefore =>
        refine List.pairwise_cons.mpr ⟨fun entry member => ?_, ih restOrdered⟩
        rcases mem_place member with rfl | later
        · exact Text.before_of_not_before different notBefore
        · exact headFirst entry later

/-- Sets the value of a key, in place of the value it had. -/
def insert (dictionary : Dictionary α) (key : String) (value : α) : Dictionary α :=
  ⟨place key value dictionary.entries, place_ordered key value _ dictionary.ordered⟩

/-- Collects pairs; of several with one key the last counts. -/
def ofList (pairs : List (String × α)) : Dictionary α :=
  pairs.foldl (fun dictionary pair => dictionary.insert pair.1 pair.2) empty

def keys (dictionary : Dictionary α) : List String :=
  dictionary.entries.map Prod.fst

def values (dictionary : Dictionary α) : List α :=
  dictionary.entries.map Prod.snd

end Dictionary

end ScanWatch
