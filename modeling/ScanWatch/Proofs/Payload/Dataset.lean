import ScanWatch.Payload.Dataset
import ScanWatch.Proofs.Payload.Decoder

namespace ScanWatch

open Json (Tree)
open Payload

theorem availableTaints_ordered (datasets : DatasetMap) :
    (availableTaints datasets).Pairwise Text.Before :=
  Dictionary.keys_ordered _

theorem mem_availableTaints {datasets : DatasetMap} {taint : String} :
    taint ∈ availableTaints datasets ↔ ∃ dataset ∈ datasets.values, taint ∈ dataset.taints := by
  rw [availableTaints, Dictionary.mem_keys_ofList]
  simp

namespace Dataset

def Sound (dataset : Dataset) : Prop :=
  Foreign fields dataset.extra

variable {dataset : Dataset}

/-- The member that a dataset writes for its taints. -/
def own (dataset : Dataset) : List (String × Json) :=
  [("taints", .array (dataset.taints.map .string))]

private theorem encode_eq (dataset : Dataset) :
    dataset.encode = .object (dataset.own ++ dataset.extra.entries) := rfl

private theorem own_known (dataset : Dataset) : ∀ entry ∈ dataset.own, entry.1 ∈ fields := by
  simp [own, fields]

private theorem own_distinct (dataset : Dataset) : (dataset.own.map Prod.fst).Nodup := by
  simp [own]

private theorem taints_read (taints : List String) :
    Decoder.text.list.Reads (.array (taints.map .string)) taints :=
  Decoder.list_reads fun taint _ => Decoder.text_reads taint

private theorem Sound.reads (sound : dataset.Sound) :
    Dataset.decode.Reads dataset.encode dataset := by
  rw [encode_eq]
  refine Decoder.openRecord_reads fun depth inside => ?_
  have listed : ("taints", .array (dataset.taints.map .string)) ∈
      dataset.own ++ dataset.extra.entries := List.mem_append_left _ (List.mem_singleton_self _)
  have distinct := sound.distinct dataset.own_known dataset.own_distinct
  rw [(taints_read _).withDefault distinct inside listed,
    Foreign.read sound dataset.own_known inside]
  rfl

private theorem sound_of_decode {depth : Nat} {tree : Tree}
    (read : Dataset.decode depth tree = some dataset) : dataset.Sound := by
  obtain ⟨inner, members, built⟩ := Decoder.of_openRecord read
  simp only [bind, Option.bind_eq_some_iff, pure, Option.some.injEq] at built
  obtain ⟨taints, _, extra, kept, rfl⟩ := built
  exact foreign_of_read kept

/-- The members of an object, and no taints when there is no mention of them. -/
def completed (members : List (String × Json)) : List (String × Json) :=
  if "taints" ∈ members.map Prod.fst then members else ("taints", .array []) :: members

section Completed

variable {members : List (String × Json)}

private theorem completed_distinct (distinct : (members.map Prod.fst).Nodup) :
    ((completed members).map Prod.fst).Nodup := by
  unfold completed
  split
  · exact distinct
  · next absent => exact List.nodup_cons.mpr ⟨absent, distinct⟩

private theorem mem_completed_of_ne {name : String} {json : Json} (other : name ≠ "taints") :
    (name, json) ∈ completed members ↔ (name, json) ∈ members := by
  unfold completed
  split <;> simp [other]

private theorem taints_completed {depth : Nat} {taints : List String}
    (listed : (Members.ofMembers members).withDefault "taints" [] (Decoder.text.list depth) =
      some taints) {json : Json} :
    ("taints", json) ∈ completed members ↔ json = .array (taints.map .string) := by
  rcases Members.of_withDefault listed with ⟨rfl, missing⟩ | ⟨_, decoded, single⟩
  · have absent : "taints" ∉ members.map Prod.fst := fun present => by
      obtain ⟨⟨_, json⟩, member, rfl⟩ := List.mem_map.mp present
      exact missing json member
    simp [completed, absent, missing]
  · obtain rfl := Decoder.eq_array (fun _ _ _ => Decoder.eq_string) decoded
    have present : "taints" ∈ members.map Prod.fst :=
      List.mem_map.mpr ⟨_, (single _).mpr rfl, rfl⟩
    rw [completed, if_pos present, single]

end Completed

/-- Nothing of an object that is read as a dataset is lost; taints are added when there are none. -/
theorem keeps : Keeps Dataset.decode encode completed := by
  intro members dataset distinct orderly read
  obtain ⟨depth, inside, built⟩ := Decoder.of_openRecord_ofJson read
  simp only [bind, Option.bind_eq_some_iff, pure, Option.some.injEq] at built
  obtain ⟨taints, listed, extra, kept, rfl⟩ := built
  have foreign : Foreign fields extra := foreign_of_read kept
  refine ⟨_, encode_eq _, ?_⟩
  have written := foreign.distinct (own_known ⟨taints, extra⟩) (own_distinct ⟨taints, extra⟩)
  have others : ∀ {entry}, entry ∈ extra.entries ↔ entry ∈ members ∧ entry.1 ∉ fields :=
    mem_of_read distinct orderly inside kept
  refine (List.perm_ext_iff_of_nodup (written.of_map _)
    ((completed_distinct distinct).of_map _)).mpr ?_
  rintro ⟨name, json⟩
  rw [List.mem_append, others]
  by_cases first : name = "taints"
  · subst first
    simp [own, fields, taints_completed listed]
  · simp [own, fields, first, mem_completed_of_ne first]

end Dataset

namespace DatasetMap

def Sound (datasets : DatasetMap) : Prop :=
  ∀ dataset ∈ datasets.values, dataset.Sound

theorem roundTrip : RoundTrip DatasetMap.decode encode Sound :=
  .of_reads (fun _ sound => Decoder.dictionary_reads fun dataset member =>
      (sound dataset member).reads)
    fun _ _ _ read dataset member => by
      obtain ⟨depth, tree, found⟩ := Decoder.of_dictionary read member
      exact Dataset.sound_of_decode found

end DatasetMap

end ScanWatch
