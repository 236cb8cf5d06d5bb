import Mathlib.Data.List.Induction
import Mathlib.Data.List.Nodup
import ScanWatch.Dictionary

/-! Collecting pairs in a dictionary: nothing is added, no key is lost, and pairs whose keys are all
different are only put in order. -/

namespace ScanWatch.Dictionary

variable {α : Type}

@[ext] theorem ext {left right : Dictionary α} (same : left.entries = right.entries) :
    left = right := by
  cases left
  cases right
  cases same
  rfl

theorem keys_ordered (dictionary : Dictionary α) : dictionary.keys.Pairwise Text.Before :=
  List.pairwise_map.mpr dictionary.ordered

theorem nodup_of_ordered {keys : List String} (ordered : keys.Pairwise Text.Before) :
    keys.Nodup := by
  refine ordered.imp fun before same => ?_
  rw [same] at before
  exact Text.Before.irrefl _ before

theorem keys_nodup (dictionary : Dictionary α) : dictionary.keys.Nodup :=
  nodup_of_ordered dictionary.keys_ordered

private theorem mem_keys_place {key other : String} {value : α} {entries : List (String × α)} :
    other ∈ (place key value entries).map Prod.fst ↔
      other = key ∨ other ∈ entries.map Prod.fst := by
  induction entries with
  | nil => simp [place]
  | cons head rest ih =>
    unfold place
    split
    · next same => simp [same]
    · split
      · simp
      · rw [List.map_cons, List.map_cons, List.mem_cons, List.mem_cons, ih]
        tauto

private theorem perm_place {key : String} {value : α} {entries : List (String × α)}
    (fresh : key ∉ entries.map Prod.fst) :
    (place key value entries).Perm ((key, value) :: entries) := by
  induction entries with
  | nil => exact .refl _
  | cons head rest ih =>
    rw [List.map_cons, List.mem_cons, not_or] at fresh
    rw [place, if_neg fresh.1]
    split
    · exact .refl _
    · exact ((ih fresh.2).cons head).trans (.swap (key, value) head rest)

private theorem ofList_append (pairs : List (String × α)) (pair : String × α) :
    ofList (pairs ++ [pair]) = (ofList pairs).insert pair.1 pair.2 :=
  List.foldl_append

theorem mem_of_mem_ofList {pairs : List (String × α)} {entry : String × α}
    (member : entry ∈ (ofList pairs).entries) : entry ∈ pairs := by
  induction pairs using List.reverseRecOn with
  | nil => cases member
  | append_singleton pairs pair ih =>
    rw [ofList_append] at member
    rcases mem_place member with rfl | earlier
    · exact List.mem_append_right _ (List.mem_singleton_self _)
    · exact List.mem_append_left _ (ih earlier)

theorem mem_keys_ofList {pairs : List (String × α)} {key : String} :
    key ∈ (ofList pairs).keys ↔ key ∈ pairs.map Prod.fst := by
  induction pairs using List.reverseRecOn with
  | nil => exact Iff.rfl
  | append_singleton pairs pair ih =>
    rw [ofList_append, List.map_append, List.mem_append, ← ih]
    exact mem_keys_place.trans (by simp [keys, or_comm])

/-- Pairs with different keys are all kept. -/
theorem perm_ofList {pairs : List (String × α)} (distinct : (pairs.map Prod.fst).Nodup) :
    (ofList pairs).entries.Perm pairs := by
  induction pairs using List.reverseRecOn with
  | nil => exact .refl _
  | append_singleton pairs pair ih =>
    rw [List.map_append, List.nodup_append'] at distinct
    obtain ⟨earlier, _, apart⟩ := distinct
    have fresh : pair.1 ∉ (ofList pairs).keys := by
      rw [mem_keys_ofList]
      exact fun old => apart old (List.mem_singleton_self _)
    rw [ofList_append]
    calc (place pair.1 pair.2 (ofList pairs).entries).Perm
          (pair :: (ofList pairs).entries) := perm_place fresh
      _ |>.Perm (pair :: pairs) := (ih earlier).cons pair
      _ |>.Perm (pairs ++ [pair]) := (List.perm_append_singleton pair pairs).symm

theorem entries_ofList {pairs : List (String × α)}
    (ordered : pairs.Pairwise (fun left right => Text.Before left.1 right.1)) :
    (ofList pairs).entries = pairs := by
  have distinct : (pairs.map Prod.fst).Nodup := nodup_of_ordered (List.pairwise_map.mpr ordered)
  refine (perm_ofList distinct).eq_of_pairwise (fun left right _ _ before after => ?_)
    (ofList pairs).ordered ordered
  exact absurd (before.trans after) (Text.Before.irrefl _)

theorem ofList_entries (dictionary : Dictionary α) : ofList dictionary.entries = dictionary :=
  ext (entries_ofList dictionary.ordered)

end ScanWatch.Dictionary
