import ScanWatch.Json.Writer
import ScanWatch.Proofs.Text.Digits

/-! The compact text of a value is a single line. Only a quoted text could break it, and there every
control character is escaped. -/

namespace ScanWatch

/-- Characters that stand within a line: no control characters, so no line breaks. -/
def Text.InLine (cs : List Char) : Prop :=
  ∀ c ∈ cs, 0x20 ≤ c.toNat

namespace Text.InLine

variable {first last : List Char}

instance (cs : List Char) : Decidable (InLine cs) :=
  @List.decidableBAll Char (fun c => 0x20 ≤ c.toNat) (fun _ => Nat.decLe _ _) cs

private theorem nil : InLine [] :=
  List.forall_mem_nil _

private theorem cons {c : Char} (head : 0x20 ≤ c.toNat) (tail : InLine last) : InLine (c :: last) :=
  List.forall_mem_cons.mpr ⟨head, tail⟩

private theorem append (left : InLine first) (right : InLine last) : InLine (first ++ last) :=
  List.forall_mem_append.mpr ⟨left, right⟩

private theorem sublist (sub : first.Sublist last) (whole : InLine last) : InLine first :=
  fun c member => whole c (sub.mem member)

private theorem of_isDigit {cs : List Char} (digits : ∀ c ∈ cs, c.isDigit) : InLine cs := by
  intro c member
  have bounds := Char.isDigit_iff_toNat.mp (digits c member)
  exact Nat.le_trans (by decide) bounds.1

private theorem toDigits (value : Nat) : InLine (Nat.toDigits 10 value) :=
  of_isDigit fun _ => isDigit_of_mem_toDigits

private theorem digitChar : ∀ value < 16, 0x20 ≤ (Nat.digitChar value).toNat := by
  decide

theorem newline_not_mem {cs : List Char} (inLine : InLine cs) : '\n' ∉ cs :=
  fun broken => absurd (inLine _ broken) (by decide)

end Text.InLine

open Text

namespace Binary64

private theorem inLine_layout {digits : List Char} (plain : InLine digits) (place : Int) :
    InLine (layout digits place) := by
  unfold layout
  split
  · have sign : 0x20 ≤ (if place - 1 < 0 then '-' else '+').toNat := by split <;> decide
    refine .append ?_ (.cons (by decide) (.cons sign (.toDigits _)))
    match digits with
    | [] => exact .nil
    | [first] => exact plain
    | first :: second :: rest =>
      obtain ⟨head, tail⟩ := List.forall_mem_cons.mp plain
      exact .cons head (.cons (by decide) tail)
  · have zeros : ∀ count, InLine (List.replicate count '0') := fun count c member =>
      (List.eq_of_mem_replicate member) ▸ by decide
    split
    · exact .cons (by decide) (.cons (by decide) (.append (zeros _) plain))
    · split
      · exact .append (plain.sublist (List.take_sublist ..))
          (.cons (by decide) (plain.sublist (List.drop_sublist ..)))
      · exact .append (.append plain (zeros _)) (by decide)

private theorem inLine_shortest (number : Binary64) : InLine number.shortest.1 := by
  have trimmed : ∀ cs : List Char,
      ((cs.reverse.dropWhile (· == '0')).reverse).Sublist cs := fun cs => by
    simpa using (List.dropWhile_sublist (l := cs.reverse) (· == '0')).reverse
  exact InLine.sublist (trimmed _) (.toDigits _)

private theorem inLine_toChars (number : Binary64) : InLine number.toChars := by
  have unsigned : InLine (if number.isZero then ['0', '.', '0']
      else layout number.shortest.1 number.shortest.2) := by
    split
    · decide
    · exact inLine_layout number.inLine_shortest _
  simp only [toChars]
  split
  · exact .cons (c := '-') (by decide) unsigned
  · exact unsigned

end Binary64

private theorem Number.inLine_toChars (number : Number) : InLine number.toChars := by
  cases number with
  | integer value =>
    rw [toChars]
    split
    · exact .cons (by decide) (.toDigits _)
    · exact .toDigits _
  | double value => exact value.inLine_toChars

namespace Json

private theorem Quoted.inLine_encodeChar (c : Char) : InLine (encodeChar c) := by
  unfold encodeChar
  split
  any_goals decide
  split
  · next control =>
    exact .cons (by decide) <| .cons (by decide) <| .cons (by decide) <| .cons (by decide) <|
      .cons (InLine.digitChar _ (by omega)) <| .cons (InLine.digitChar _ (by omega)) .nil
  · next plain => exact .cons (Nat.le_of_not_lt plain) .nil

private theorem Quoted.inLine_encode (text : String) : InLine (encode text) := by
  refine .cons (by decide) (.append (fun c member => ?_) (by decide))
  obtain ⟨source, _, inside⟩ := List.mem_flatMap.mp member
  exact inLine_encodeChar source c inside

mutual

theorem inLine_toChars (value : Json) : InLine value.toChars := by
  match value with
  | .null | .bool true | .bool false =>
    rw [toChars]
    decide
  | .number value =>
    rw [toChars]
    exact value.inLine_toChars
  | .string text =>
    rw [toChars]
    exact Quoted.inLine_encode text
  | .array items =>
    rw [toChars]
    exact .cons (by decide) (.append (inLine_itemChars items) (by decide))
  | .object members =>
    rw [toChars]
    exact .cons (by decide) (.append (inLine_memberChars members) (by decide))

theorem inLine_itemChars (items : List Json) : InLine (itemChars items) := by
  match items with
  | [] =>
    rw [itemChars]
    exact .nil
  | [item] =>
    rw [itemChars]
    exact inLine_toChars item
  | item :: next :: rest =>
    rw [itemChars]
    exact .append (inLine_toChars item) (.cons (by decide) (inLine_itemChars (next :: rest)))

theorem inLine_memberChars (members : List (String × Json)) : InLine (memberChars members) := by
  match members with
  | [] =>
    rw [memberChars]
    exact .nil
  | [(name, value)] =>
    rw [memberChars]
    exact .append (Quoted.inLine_encode name) (.cons (by decide) (inLine_toChars value))
  | (name, value) :: next :: rest =>
    rw [memberChars]
    exact .append (Quoted.inLine_encode name) (.cons (by decide)
      (.append (inLine_toChars value) (.cons (by decide) (inLine_memberChars (next :: rest)))))

end

theorem compact_single_line (value : Json) : '\n' ∉ value.compact.toList := by
  rw [compact, String.toList_ofList]
  exact value.inLine_toChars.newline_not_mem

end Json

end ScanWatch
