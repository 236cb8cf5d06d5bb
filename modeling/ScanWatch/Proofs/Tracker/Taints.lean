import Mathlib.Data.List.Sort
import ScanWatch.Proofs.Payload.Dataset
import ScanWatch.Tracker.View

namespace ScanWatch

instance : Std.Irrefl Text.Before := ⟨Text.Before.irrefl⟩

instance : Std.Antisymm Text.Before :=
  ⟨fun _ _ before after => absurd (before.trans after) (Text.Before.irrefl _)⟩

def DatasetMap.Carries (datasets : DatasetMap) (taint : String) : Prop :=
  ∃ dataset ∈ datasets.values, taint ∈ dataset.taints

/-- Only the set of taints decides what is listed. -/
theorem availableTaints_eq_iff {left right : DatasetMap} :
    availableTaints left = availableTaints right ↔
      ∀ taint, left.Carries taint ↔ right.Carries taint := by
  constructor
  · intro same taint
    calc left.Carries taint ↔ taint ∈ availableTaints left := mem_availableTaints.symm
      _ ↔ taint ∈ availableTaints right := by rw [same]
      _ ↔ right.Carries taint := mem_availableTaints
  · intro same
    refine (availableTaints_ordered left).eq_of_mem_iff (availableTaints_ordered right) ?_
    intro taint
    exact mem_availableTaints.trans ((same taint).trans mem_availableTaints.symm)

namespace Tracker

/-- A view offers the taints that some dataset carries, and no others. They stand in strictly
increasing order of their bytes, so none is offered twice. Two trackers offer the same exactly if
the same taints are carried, whatever the datasets are called and wherever the taints stand. -/
theorem taints_are_union (tracker : Tracker) :
    tracker.view.availableTaints.Pairwise Text.Before ∧ tracker.view.availableTaints.Nodup ∧
      (∀ taint, taint ∈ tracker.view.availableTaints ↔ tracker.datasets.Carries taint) ∧
      ∀ other : Tracker, other.view.availableTaints = tracker.view.availableTaints ↔
        ∀ taint, other.datasets.Carries taint ↔ tracker.datasets.Carries taint := by
  have ordered : tracker.view.availableTaints.Pairwise Text.Before :=
    availableTaints_ordered tracker.datasets
  refine ⟨ordered, Dictionary.nodup_of_ordered ordered, ?_, ?_⟩
  · intro taint
    exact mem_availableTaints
  · intro other
    exact availableTaints_eq_iff

example : availableTaints (.ofList [("b", .ofTaints ["é", "a", "a"]), ("a", .ofTaints ["z", "a"])]) =
    ["a", "z", "é"] := by
  decide

end Tracker

end ScanWatch
