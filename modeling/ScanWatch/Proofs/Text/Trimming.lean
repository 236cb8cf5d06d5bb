import Mathlib.Data.List.DropRight
import ScanWatch.Text.Blank

namespace ScanWatch.Text

variable {inClass : Char → Bool} {cs kept : List Char} {text : String}

def EndsIn (inClass : Char → Bool) (cs : List Char) : Prop :=
  cs.getLast?.any inClass = true

instance : Decidable (EndsIn inClass cs) :=
  inferInstanceAs (Decidable (cs.getLast?.any inClass = true))

private theorem endsIn_iff : EndsIn inClass cs ↔ ∃ c ∈ cs.getLast?, inClass c = true := by
  simp [EndsIn, Option.any_eq_true]

theorem not_endsIn_of_forall (outside : ∀ c ∈ cs, inClass c = false) : ¬EndsIn inClass cs := by
  rw [endsIn_iff]
  rintro ⟨c, last, inside⟩
  rw [outside c (List.mem_of_getLast? last)] at inside
  cases inside

theorem endsIn_append (nonempty : cs ≠ []) (before : List Char) :
    EndsIn inClass (before ++ cs) ↔ EndsIn inClass cs := by
  rw [EndsIn, List.getLast?_append_of_ne_nil before nonempty, EndsIn]

/-- Nothing is dropped but the longest run at the end. -/
theorem dropEndWhile_eq_iff : dropEndWhile inClass cs = kept ↔
    (∃ dropped, cs = kept ++ dropped ∧ ∀ c ∈ dropped, inClass c = true) ∧
      ¬EndsIn inClass kept := by
  change cs.rdropWhile inClass = kept ↔ _
  constructor
  · rintro rfl
    refine ⟨⟨cs.rtakeWhile inClass, List.rdropWhile_append_rtakeWhile.symm, ?_⟩, ?_⟩
    · intro c member
      exact List.mem_rtakeWhile_imp member
    · rw [endsIn_iff]
      rintro ⟨c, last, inside⟩
      obtain ⟨nonempty, rfl⟩ := List.mem_getLast?_eq_getLast last
      exact List.rdropWhile_last_not inClass cs nonempty inside
  · rintro ⟨⟨dropped, rfl, run⟩, ends⟩
    have passed : (kept ++ dropped).rdropWhile inClass = kept.rdropWhile inClass := by
      have back : ∀ c ∈ dropped.reverse, inClass c = true := by simpa using run
      rw [List.rdropWhile, List.reverse_append, List.dropWhile_append_of_pos back]
      rfl
    rw [passed, List.rdropWhile_eq_self_iff]
    intro nonempty inside
    exact ends (endsIn_iff.mpr ⟨_, List.getLast?_eq_some_getLast nonempty, inside⟩)

/-- A text without the blanks around it: neither end of what is left is blank. -/
structure Bare (text : String) (core : List Char) : Prop where
  around : ∃ before after, text.toList = before ++ core ++ after ∧
    (∀ c ∈ before, isBlank c = true) ∧ ∀ c ∈ after, isBlank c = true
  start : ∀ c ∈ core.head?, isBlank c = false
  finish : ¬EndsIn isBlank core

private theorem toList_trim (text : String) :
    (trim text).toList = dropEndWhile isBlank (text.toList.dropWhile isBlank) :=
  String.toList_ofList

theorem bare_trim (text : String) : Bare text (trim text).toList := by
  obtain ⟨⟨after, split, blankAfter⟩, finish⟩ := dropEndWhile_eq_iff.mp (toList_trim text).symm
  refine ⟨⟨text.toList.takeWhile isBlank, after, ?_, ?_, blankAfter⟩, ?_, finish⟩
  · rw [List.append_assoc]
    exact (List.takeWhile_append_dropWhile).symm.trans (congrArg _ split)
  · intro c member
    exact List.mem_takeWhile_imp member
  · intro c first
    have stopped := List.head?_dropWhile_not isBlank text.toList
    rw [split, List.head?_append, Option.mem_def.mp first] at stopped
    exact stopped

/-- There is exactly one way to take the blanks off. -/
theorem bare_iff {core : List Char} : Bare text core ↔ core = (trim text).toList := by
  constructor
  · intro bare
    obtain ⟨before, after, split, blankBefore, blankAfter⟩ := bare.around
    rw [toList_trim, split, List.append_assoc, List.dropWhile_append_of_pos blankBefore]
    cases core with
    | nil =>
      rw [List.nil_append, List.dropWhile_eq_nil_iff.mpr blankAfter]
      rfl
    | cons c rest =>
      have stops : isBlank c = false := bare.start c rfl
      rw [List.cons_append, List.dropWhile_cons_of_neg (by simp [stops])]
      exact (dropEndWhile_eq_iff.mpr ⟨⟨after, rfl, blankAfter⟩, bare.finish⟩).symm
  · rintro rfl
    exact bare_trim text

end ScanWatch.Text
