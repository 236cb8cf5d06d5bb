import ScanWatch.Proofs.Except
import ScanWatch.Proofs.Url.Percent
import ScanWatch.Url.Parser

namespace ScanWatch

private theorem Text.not_mem_of_mem_splitOn {separator : Char} {cs part : List Char}
    (member : part ∈ Text.splitOn separator cs) : separator ∉ part := by
  induction cs generalizing part with
  | nil =>
    obtain rfl := List.mem_singleton.mp member
    exact List.not_mem_nil
  | cons c rest ih =>
    rw [Text.splitOn] at member
    by_cases same : c = separator
    · rw [if_pos same] at member
      rcases List.mem_cons.mp member with rfl | later
      · exact List.not_mem_nil
      · exact ih later
    · rw [if_neg same] at member
      cases parts : Text.splitOn separator rest with
      | nil =>
        rw [parts] at member
        obtain rfl := List.mem_singleton.mp member
        simpa using Ne.symm same
      | cons first others =>
        rw [parts] at member ih
        rcases List.mem_cons.mp member with rfl | later
        · simpa using ⟨Ne.symm same, ih List.mem_cons_self⟩
        · exact ih (List.mem_cons_of_mem _ later)

namespace Url

/-- All segments of a path, none of them several. -/
def Plain (segments : List String) : Prop :=
  ∀ segment ∈ segments, '/' ∉ segment.toList

variable {segments read : List String} {segment : String}

private theorem Plain.nil : Plain [] :=
  nofun

private theorem Plain.cons (first : '/' ∉ segment.toList) (others : Plain segments) :
    Plain (segment :: segments) :=
  List.forall_mem_cons.mpr ⟨first, others⟩

private theorem Plain.subset {fewer : List String} (plain : Plain segments)
    (subset : fewer ⊆ segments) :
    Plain fewer := by
  intro segment member
  exact plain segment (subset member)

private theorem parent_subset (read : List String) : parent read ⊆ read := by
  cases read with
  | nil => exact List.Subset.refl _
  | cons last above =>
    rw [parent]
    split
    · exact List.Subset.refl _
    · exact List.subset_cons_self ..

private theorem driveName_plain (plain : '/' ∉ segment.toList) :
    '/' ∉ (driveName segment).toList := by
  rw [driveName, String.toList_ofList]
  intro member
  rcases List.mem_append.mp member with letter | colon
  · exact plain (List.mem_of_mem_take letter)
  · exact absurd colon (by decide)

private theorem Plain.resolveDots {ofFile : Bool} (before : Plain read) (plain : Plain segments) :
    Plain (Url.resolveDots ofFile read segments) := by
  induction segments generalizing read with
  | nil =>
    rw [Url.resolveDots]
    exact before.subset (List.reverse_subset.mpr (List.Subset.refl _))
  | cons segment rest ih =>
    obtain ⟨here, later⟩ := List.forall_mem_cons.mp plain
    have following : ∀ above : List String, Plain above →
        Plain ((if rest.isEmpty then [""] else []) ++ above) := by
      intro above plainAbove
      split
      · exact plainAbove.cons List.not_mem_nil
      · exact plainAbove
    simp only [Url.resolveDots]
    split
    · exact ih (following _ (before.subset (parent_subset read))) later
    split
    · exact ih (following _ before) later
    split
    · exact ih (Plain.nil.cons (driveName_plain here)) later
    · exact ih (before.cons here) later

private theorem segmentsOf_plain (scheme : String) (cs : List Char) :
    Plain (segmentsOf scheme cs) := by
  apply Plain.nil.resolveDots
  intro segment member
  obtain ⟨part, isPart, rfl⟩ := List.mem_map.mp member
  rw [String.toList_ofList]
  intro slash
  obtain ⟨-, inPart⟩ := Percent.mem_of_mem_encode Percent.inPath_beyond (by decide) slash
  split at isPart
  · exact Text.not_mem_of_mem_splitOn (List.mem_of_mem_drop isPart) inPart
  · exact Text.not_mem_of_mem_splitOn isPart inPart

private theorem withTail_plain (url : Url) (cs : List Char) : Plain (withTail url cs).segments := by
  simp only [withTail]
  split
  · exact Plain.nil
  · exact segmentsOf_plain _ _

private theorem ofFilePath_plain (host : String) (cs : List Char) :
    Plain (ofFilePath host cs).segments := by
  simp only [ofFilePath, dropEmptyStart]
  split
  · exact Plain.nil.cons List.not_mem_nil
  · exact (withTail_plain _ cs).subset (List.dropWhile_subset _)

private theorem ofAuthority_plain {scheme : String} {cs : List Char} {url : Url}
    (read : ofAuthority scheme cs = .ok url) : Plain url.segments := by
  obtain ⟨⟨username, password, authority⟩, -, read⟩ := bind_eq_ok.mp read
  dsimp only at read
  -- Hosts are read in two ways, and what follows them in one.
  split at read
  all_goals
    obtain ⟨host, -, read⟩ := bind_eq_ok.mp read
    split at read
    · cases read
    · obtain ⟨⟨port, tail⟩, -, read⟩ := bind_eq_ok.mp read
      obtain rfl := Except.ok.inj read
      exact withTail_plain _ _

private theorem ofFile_plain {cs : List Char} {url : Url} (read : ofFile cs = .ok url) :
    Plain url.segments := by
  unfold ofFile at read
  split at read
  · split at read
    · dsimp only at read
      split at read
      · obtain rfl := Except.ok.inj read
        exact ofFilePath_plain _ _
      · obtain ⟨host, -, read⟩ := bind_eq_ok.mp read
        split at read
        all_goals
          obtain rfl := Except.ok.inj read
          exact ofFilePath_plain _ _
    · obtain rfl := Except.ok.inj read
      exact ofFilePath_plain _ _
  · obtain rfl := Except.ok.inj read
    exact ofFilePath_plain _ _

theorem parse_plain {text : String} {url : Url} (read : parse text = .ok url) :
    Plain url.segments := by
  unfold parse at read
  split at read
  · cases read
  · split at read
    · exact ofFile_plain read
    split at read
    · exact ofAuthority_plain read
    split at read
    · exact ofAuthority_plain read
    · obtain rfl := Except.ok.inj read
      exact withTail_plain _ _
    · cases read

end Url

end ScanWatch
