import ScanWatch.Proofs.Text.Digits
import ScanWatch.Text.Grouping

/-! Numbers grouped by thousands. Digits are cut from their end into threes, and the first group is
what is left over; so the number of digits alone says where the commas stand. -/

namespace ScanWatch.Text

variable {digits first : List Char} {later : List (List Char)} {text : String} {value : Nat}

/-- Digits cut into groups of three, but for the first one, which may be shorter. -/
structure Cut (digits first : List Char) (later : List (List Char)) : Prop where
  joined : first ++ later.flatten = digits
  leading : 1 ≤ first.length ∧ first.length ≤ 3
  threes : ∀ group ∈ later, group.length = 3

namespace Cut

variable {otherFirst : List Char} {otherLater : List (List Char)}

private theorem lengths (threes : ∀ group ∈ later, group.length = 3) :
    later.map List.length = List.replicate later.length 3 := by
  rw [List.eq_replicate_iff, List.forall_mem_map]
  exact ⟨List.length_map .., threes⟩

private theorem length (cut : Cut digits first later) :
    digits.length = first.length + 3 * later.length := by
  rw [← cut.joined, List.length_append, List.length_flatten, lengths cut.threes,
    List.sum_replicate_nat, Nat.mul_comm]

private theorem full_iff (cut : Cut digits first later) :
    first.length = 3 ↔ digits.length % 3 = 0 := by
  have length := cut.length
  have leading := cut.leading
  omega

/-- There is only one way to cut. -/
theorem unique (cut : Cut digits first later) (other : Cut digits otherFirst otherLater) :
    first = otherFirst ∧ later = otherLater := by
  have total := cut.length.symm.trans other.length
  have leading := cut.leading
  have otherLeading := other.leading
  have joined := cut.joined.trans other.joined.symm
  obtain ⟨sameFirst, sameJoined⟩ := List.append_inj joined (by omega)
  refine ⟨sameFirst, List.eq_iff_flatten_eq.mpr ⟨sameJoined, ?_⟩⟩
  have count : later.length = otherLater.length := by omega
  rw [lengths cut.threes, lengths other.threes, count]

private theorem single (digit : Char) : Cut [digit] [digit] [] :=
  ⟨rfl, ⟨Nat.le_refl 1, Nat.le_add_left 1 2⟩, List.forall_mem_nil _⟩

private theorem extend (cut : Cut digits first later) (room : first.length < 3) (digit : Char) :
    Cut (digit :: digits) (digit :: first) later := by
  refine ⟨?_, ?_, cut.threes⟩
  · rw [List.cons_append, cut.joined]
  · rw [List.length_cons]
    omega

private theorem opens (cut : Cut digits first later) (full : first.length = 3) (digit : Char) :
    Cut (digit :: digits) [digit] (first :: later) := by
  refine ⟨?_, (single digit).leading, ?_⟩
  · rw [List.flatten_cons, List.singleton_append, cut.joined]
  · rw [List.forall_mem_cons]
    exact ⟨full, cut.threes⟩

private theorem nil_not_mem (cut : Cut digits first later) : [] ∉ first :: later := by
  rw [List.mem_cons, not_or]
  constructor
  · rintro rfl
    exact absurd cut.leading.1 (by decide)
  · intro member
    exact absurd (cut.threes [] member) (by decide)

private theorem subset (cut : Cut digits first later) :
    ∀ group ∈ first :: later, group ⊆ digits := by
  intro group member c inside
  rw [← cut.joined, ← List.flatten_cons]
  exact List.mem_flatten_of_mem member inside

end Cut

/-- The digits are cut, and commas stand between the groups: a comma stands behind a digit exactly
if the group that begins behind it is full. -/
theorem groupDigits_cut (nonempty : digits ≠ []) : ∃ first later,
    Cut digits first later ∧ groupDigits digits = [','].intercalate (first :: later) := by
  induction digits using groupDigits.induct with
  | case1 => exact absurd rfl nonempty
  | case2 digit => exact ⟨[digit], [], .single digit, List.intercalate_singleton.symm⟩
  | case3 digit next rest thirds ih =>
    obtain ⟨first, later, cut, text⟩ := ih (List.cons_ne_nil _ _)
    have full : first.length = 3 := cut.full_iff.mpr thirds
    refine ⟨[digit], first :: later, cut.opens full digit, ?_⟩
    rw [groupDigits, if_pos thirds, text, List.intercalate_cons_cons]
    rfl
  | case4 digit next rest noThirds ih =>
    obtain ⟨first, later, cut, text⟩ := ih (List.cons_ne_nil _ _)
    have room : first.length < 3 := Nat.lt_of_le_of_ne cut.leading.2 (mt cut.full_iff.mp noThirds)
    refine ⟨digit :: first, later, cut.extend room digit, ?_⟩
    rw [groupDigits, if_neg noThirds, text, List.intercalate_cons_cons_left]

private theorem flatten_splitOn (c : Char) (cs : List Char) :
    (cs.splitOn c).flatten = cs.filter (· != c) := by
  induction cs with
  | nil => rfl
  | cons head rest ih =>
    rw [List.splitOn_cons_eq_if_modifyHead]
    by_cases cuts : head = c
    · subst cuts
      simpa using ih
    · obtain ⟨group, groups, split⟩ := List.exists_cons_of_ne_nil (List.splitOn_ne_nil c rest)
      rw [split] at ih ⊢
      simp [cuts, ← ih]

private theorem nil_mem_splitOn {c : Char} {cs : List Char}
    (ending : cs.head? = some c ∨ cs.getLast? = some c) : [] ∈ cs.splitOn c := by
  rcases ending with starts | ends
  · obtain ⟨rest, rfl⟩ := List.head?_eq_some_iff.mp starts
    rw [List.splitOn_cons_eq_if_modifyHead, if_pos (beq_self_eq_true c)]
    exact List.mem_cons_self
  · obtain ⟨before, rfl⟩ := List.getLast?_eq_some_iff.mp ends
    rw [List.splitOn_append_cons_self, List.splitOn_nil]
    exact List.mem_append_right _ List.mem_cons_self

/-- A text is a number in groups of thousands: its decimal text, with commas that cut it from its
end into threes. -/
structure InThousands (text : String) (value : Nat) : Prop where
  decimal : text.toList.filter (· != ',') = value.repr.toList
  unpadded : text.toList.head? = some '0' → text = "0"
  start : text.toList.head? ≠ some ','
  finish : text.toList.getLast? ≠ some ','
  digits : ∀ group ∈ text.toList.splitOn ',', ∀ c ∈ group, c.isDigit = true
  groups : ∃ first later, text.toList.splitOn ',' = first :: later ∧
    (1 ≤ first.length ∧ first.length ≤ 3) ∧ ∀ group ∈ later, group.length = 3

private theorem toList_grouped (value : Nat) :
    (grouped value).toList = groupDigits (Nat.toDigits 10 value) :=
  String.toList_ofList

private theorem grouped_cut (value : Nat) : ∃ first later,
    Cut (Nat.toDigits 10 value) first later ∧
      (grouped value).toList.splitOn ',' = first :: later := by
  have nonempty : Nat.toDigits 10 value ≠ [] := Nat.toDigits_ne_nil
  obtain ⟨first, later, cut, text⟩ := groupDigits_cut nonempty
  refine ⟨first, later, cut, ?_⟩
  rw [toList_grouped, text]
  apply List.splitOn_intercalate _ _ (List.cons_ne_nil _ _)
  intro group member comma
  exact not_mem_toDigits (by decide) (cut.subset group member comma)

theorem filter_grouped (value : Nat) :
    (grouped value).toList.filter (· != ',') = Nat.toDigits 10 value := by
  obtain ⟨first, later, cut, split⟩ := grouped_cut value
  rw [← flatten_splitOn, split, List.flatten_cons, cut.joined]

private theorem grouped_unpadded (zero : (grouped value).toList.head? = some '0') :
    grouped value = "0" := by
  obtain ⟨rest, text⟩ := List.head?_eq_some_iff.mp zero
  have digits := filter_grouped value
  rw [text, List.filter_cons_of_pos (by decide)] at digits
  have leading : (Nat.toDigits 10 value).head? = some '0' := by rw [← digits, List.head?_cons]
  rcases Nat.eq_zero_or_pos value with rfl | positive
  · decide
  · exact absurd leading (head?_toDigits positive)

private theorem grouped_inThousands (value : Nat) : InThousands (grouped value) value := by
  obtain ⟨first, later, cut, split⟩ := grouped_cut value
  have unempty : [] ∉ (grouped value).toList.splitOn ',' := by
    rw [split]
    exact cut.nil_not_mem
  refine ⟨?_, grouped_unpadded, ?_, ?_, ?_, first, later, split, cut.leading, cut.threes⟩
  · rw [filter_grouped, Nat.toList_repr]
  · exact fun comma => unempty (nil_mem_splitOn (.inl comma))
  · exact fun comma => unempty (nil_mem_splitOn (.inr comma))
  · intro group member c inside
    rw [split] at member
    exact isDigit_of_mem_toDigits (cut.subset group member inside)

/-- No other text is the number in groups of thousands. -/
theorem InThousands.eq_grouped (shown : InThousands text value) : text = grouped value := by
  obtain ⟨first, later, split, leading, threes⟩ := shown.groups
  have cut : Cut (Nat.toDigits 10 value) first later := by
    refine ⟨?_, leading, threes⟩
    rw [← List.flatten_cons, ← split, flatten_splitOn, shown.decimal, Nat.toList_repr]
  obtain ⟨otherFirst, otherLater, otherCut, otherSplit⟩ := grouped_cut value
  obtain ⟨rfl, rfl⟩ := cut.unique otherCut
  apply String.toList_injective
  calc text.toList = [','].intercalate (text.toList.splitOn ',') :=
        (List.intercalate_splitOn ',').symm
    _ = [','].intercalate ((grouped value).toList.splitOn ',') := by rw [split, otherSplit]
    _ = (grouped value).toList := List.intercalate_splitOn ','

theorem inThousands_iff : InThousands text value ↔ text = grouped value := by
  constructor
  · exact InThousands.eq_grouped
  · rintro rfl
    exact grouped_inThousands value

example : grouped 100 = "100" ∧ grouped 1000 = "1,000" := by decide

def ofGrouped? (cs : List Char) : Option Nat :=
  ofDigits? 10 (cs.filter (· != ','))

theorem ofGrouped?_grouped (value : Nat) : ofGrouped? (grouped value).toList = some value := by
  rw [ofGrouped?, filter_grouped, ofDigits?_toDigits]

/-- Different numbers have different texts. -/
theorem grouped_injective : Function.Injective grouped := by
  intro left right same
  have read := ofGrouped?_grouped left
  rw [same, ofGrouped?_grouped] at read
  exact (Option.some.inj read).symm

end ScanWatch.Text
