import ScanWatch.Proofs.Text.Trimming
import ScanWatch.Route

namespace ScanWatch.Route

/-- A path that names a job: one non-empty segment below the root of jobs, with any number of
slashes after it. -/
structure Names (path : List Char) (hash : JobHash) : Prop where
  split : ∃ slashes, path = jobRoot ++ hash.text.toList ++ List.replicate slashes '/'
  nonempty : hash.text.toList ≠ []
  segment : '/' ∉ hash.text.toList

variable {path rest : List Char} {hash : JobHash} {text : String}

private theorem dropSlashes_eq_iff {segment : List Char} (plain : '/' ∉ segment) :
    Text.dropEndWhile (· == '/') rest = segment ↔
      ∃ slashes, rest = segment ++ List.replicate slashes '/' := by
  have ends : ¬Text.EndsIn (· == '/') segment := by
    apply Text.not_endsIn_of_forall
    intro c member
    rw [beq_eq_false_iff_ne]
    rintro rfl
    exact plain member
  rw [Text.dropEndWhile_eq_iff]
  constructor
  · rintro ⟨⟨dropped, split, run⟩, -⟩
    have slashes : dropped = List.replicate dropped.length '/' := by
      apply List.eq_replicate_of_mem
      intro c member
      exact beq_iff_eq.mp (run c member)
    exact ⟨dropped.length, slashes ▸ split⟩
  · rintro ⟨slashes, split⟩
    refine ⟨⟨_, split, ?_⟩, ends⟩
    intro c member
    exact beq_iff_eq.mpr (List.eq_of_mem_replicate member)

private theorem jobOf?_below : jobOf? (jobRoot ++ rest) = some hash ↔
    Text.dropEndWhile (· == '/') rest = hash.text.toList ∧ hash.text.toList ≠ [] ∧
      '/' ∉ hash.text.toList := by
  have below : jobRoot.isPrefixOf (jobRoot ++ rest) = true :=
    List.isPrefixOf_iff_prefix.mpr (List.prefix_append ..)
  rw [jobOf?, if_pos below, List.drop_left]
  generalize Text.dropEndWhile (· == '/') rest = segment
  by_cases fits : segment ≠ [] ∧ '/' ∉ segment
  · have taken : (segment.isEmpty || segment.contains '/') = false := by simp [fits]
    simp only [taken, Bool.false_eq_true, ↓reduceIte, Option.some.injEq]
    constructor
    · rintro rfl
      simpa using fits
    · rintro ⟨rfl, -⟩
      simp
  · have refused : (segment.isEmpty || segment.contains '/') = true := by
      simpa [Classical.or_iff_not_imp_left] using fits
    simp only [refused, ↓reduceIte]
    constructor
    · intro found
      cases found
    · rintro ⟨rfl, named⟩
      exact absurd named fits

private theorem jobOf?_eq_some_iff : jobOf? path = some hash ↔ Names path hash := by
  constructor
  · intro found
    have below : jobRoot <+: path := by
      by_contra elsewhere
      rw [jobOf?, if_neg (mt List.isPrefixOf_iff_prefix.mp elsewhere)] at found
      cases found
    obtain ⟨rest, rfl⟩ := below
    obtain ⟨dropped, nonempty, segment⟩ := jobOf?_below.mp found
    obtain ⟨slashes, rfl⟩ := (dropSlashes_eq_iff segment).mp dropped
    exact ⟨⟨slashes, (List.append_assoc ..).symm⟩, nonempty, segment⟩
  · rintro ⟨⟨slashes, rfl⟩, nonempty, segment⟩
    rw [List.append_assoc]
    exact jobOf?_below.mpr ⟨(dropSlashes_eq_iff segment).mpr ⟨slashes, rfl⟩, nonempty, segment⟩

/-- No path names two jobs. -/
theorem Names.unique {other : JobHash} (names : Names path hash) (too : Names path other) :
    hash = other := by
  rw [← jobOf?_eq_some_iff] at names too
  exact Option.some.inj (names.symm.trans too)

private theorem length_jobRoot : jobRoot.length = 7 := by decide

private theorem Names.not_root (names : Names path hash) : ¬(path = [] ∨ path = ['/']) := by
  obtain ⟨slashes, rfl⟩ := names.split
  rintro (root | root)
  all_goals
    have short := congrArg List.length root
    simp only [List.length_append, length_jobRoot, List.length_nil, List.length_singleton] at short
    omega

private theorem parse?_eq (text : String) :
    parse? text =
      if (Text.trim text).toList = [] ∨ (Text.trim text).toList = ['/'] then some compose
      else (jobOf? (Text.trim text).toList).map job := by
  simp [parse?]

private theorem parse?_compose_iff :
    parse? text = some compose ↔ (Text.trim text).toList = [] ∨ (Text.trim text).toList = ['/'] := by
  rw [parse?_eq]
  split
  · next root => exact iff_of_true rfl root
  · next other => simp only [other, Option.map_eq_some_iff, reduceCtorEq, and_false, exists_false]

private theorem parse?_job_iff :
    parse? text = some (job hash) ↔ Names (Text.trim text).toList hash := by
  rw [parse?_eq, ← jobOf?_eq_some_iff]
  split
  · next root =>
    constructor
    · intro composes
      cases composes
    · intro found
      exact absurd root (jobOf?_eq_some_iff.mp found).not_root
  · simp

/-- A text is read as the composer or as a job exactly if it is written as one, blanks around it
aside; the blanks and the hash are determined. -/
theorem parse?_grammar (text : String) :
    (∀ path, Text.Bare text path ↔ path = (Text.trim text).toList) ∧
    (parse? text = some compose ↔
      (Text.trim text).toList = [] ∨ (Text.trim text).toList = ['/']) ∧
    (∀ hash, parse? text = some (job hash) ↔ Names (Text.trim text).toList hash) ∧
    (parse? text = none ↔
      ¬((Text.trim text).toList = [] ∨ (Text.trim text).toList = ['/']) ∧
        ∀ hash, ¬Names (Text.trim text).toList hash) ∧
    ∀ path hash other, Names path hash → Names path other → hash = other := by
  refine ⟨fun path => Text.bare_iff, parse?_compose_iff, fun hash => parse?_job_iff, ?_,
    fun path hash other => Names.unique⟩
  rw [← parse?_compose_iff]
  simp only [← parse?_job_iff]
  constructor
  · intro unread
    simp [unread]
  · rintro ⟨notCompose, notJob⟩
    cases read : parse? text with
    | none => rfl
    | some route =>
      cases route with
      | compose => exact absurd read notCompose
      | job hash => exact absurd read (notJob hash)

/-- The canonical path of a job has no blank in front, so it is bare unless its hash ends in one. -/
theorem bare_path_iff (nonempty : hash.text.toList ≠ []) :
    Text.Bare (job hash).path (jobRoot ++ hash.text.toList) ↔
      ¬Text.EndsIn Text.isBlank hash.text.toList := by
  constructor
  · intro bare ends
    exact bare.finish ((Text.endsIn_append nonempty jobRoot).mpr ends)
  · intro ends
    refine ⟨⟨[], [], ?_, nofun, nofun⟩, ?_, ?_⟩
    · rw [List.nil_append, List.append_nil]
      exact String.toList_ofList
    · rintro c first
      obtain rfl : '/' = c := Option.some.inj first
      rfl
    · rwa [Text.endsIn_append nonempty]

private theorem Names.of_path (names : Names (Text.trim (job hash).path).toList hash) :
    (Text.trim (job hash).path).toList = jobRoot ++ hash.text.toList := by
  obtain ⟨slashes, split⟩ := names.split
  obtain ⟨before, after, around, -, -⟩ := (Text.bare_trim (job hash).path).around
  have whole : (job hash).path.toList = jobRoot ++ hash.text.toList := String.toList_ofList
  have lengths := congrArg List.length (whole.symm.trans around)
  rw [split] at lengths
  simp only [List.length_append, List.length_replicate] at lengths
  obtain rfl : slashes = 0 := by omega
  rw [split]
  exact List.append_nil _

/-- A location that was read is led back to by its canonical path exactly if it is not a job whose
hash ends in a blank. -/
theorem reopens_iff {route : Route} (read : parse? text = some route) :
    parse? route.path = some route ↔
      ∀ hash, route = job hash → ¬Text.EndsIn Text.isBlank hash.text.toList := by
  cases route with
  | compose =>
    constructor
    · intro reopens hash same
      cases same
    · intro plain
      exact parse?_compose_iff.mpr (.inr (by decide))
  | job hash =>
    have named : Names (Text.trim text).toList hash := parse?_job_iff.mp read
    rw [parse?_job_iff]
    constructor
    · rintro names other same
      obtain rfl := job.inj same
      rw [← bare_path_iff named.nonempty, Text.bare_iff]
      exact names.of_path.symm
    · intro plain
      have bare := (bare_path_iff named.nonempty).mpr (plain hash rfl)
      rw [← Text.bare_iff.mp bare]
      exact ⟨⟨0, (List.append_nil _).symm⟩, named.nonempty, named.segment⟩

theorem reopens_slashed :
    parse? "\t/query/ a b// " = some (job ⟨" a b"⟩) ∧
      parse? (job ⟨" a b"⟩).path = some (job ⟨" a b"⟩) := by
  have read : parse? "\t/query/ a b// " = some (job ⟨" a b"⟩) := by decide
  refine ⟨read, (reopens_iff read).mpr ?_⟩
  rintro hash same
  obtain rfl := job.inj same
  decide

/-- A blank in front of the slashes at the end is kept as part of the hash, but as the end of the
canonical path it is taken off. -/
theorem blank_end_is_lost :
    parse? "/query/a /" = some (job ⟨"a "⟩) ∧ (job ⟨"a "⟩).path = "/query/a " ∧
      parse? "/query/a " = some (job ⟨"a"⟩) ∧
      ¬∀ text route, parse? text = some route → parse? route.path = some route := by
  have read : parse? "/query/a /" = some (job ⟨"a "⟩) := by decide
  have path : (job ⟨"a "⟩).path = "/query/a " := by decide
  have lost : parse? "/query/a " = some (job ⟨"a"⟩) := by decide
  refine ⟨read, path, lost, ?_⟩
  intro reopens
  have again := reopens "/query/a /" _ read
  rw [path, lost] at again
  exact absurd again (by decide)

end ScanWatch.Route
