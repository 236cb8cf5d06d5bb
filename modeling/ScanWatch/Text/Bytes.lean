namespace ScanWatch.Text

def bytes (text : String) : List UInt8 :=
  text.toByteArray.data.toList

def ofBytes? (encoded : List UInt8) : Option String :=
  String.fromUTF8? ⟨encoded.toArray⟩

/-- Strict order of texts by their UTF-8 bytes. -/
def Before (left right : String) : Prop :=
  bytes left < bytes right

instance (left right : String) : Decidable (Before left right) :=
  inferInstanceAs (Decidable (bytes left < bytes right))

private theorem bytes_injective {left right : String} (same : bytes left = bytes right) :
    left = right := by
  have arrays : left.toByteArray.data = right.toByteArray.data := Array.toList_inj.mp same
  exact String.toByteArray_inj.mp (ByteArray.ext arrays)

theorem ofBytes?_bytes (text : String) : ofBytes? (bytes text) = some text := by
  simp only [ofBytes?, bytes, Array.toArray_toList, String.fromUTF8?]
  exact dif_pos text.isValidUTF8

theorem Before.irrefl (text : String) : ¬ Before text text :=
  List.lt_irrefl _

theorem Before.trans {left middle right : String} (first : Before left middle)
    (second : Before middle right) : Before left right :=
  List.lt_trans first second

theorem before_of_not_before {left right : String} (different : left ≠ right)
    (notBefore : ¬ Before left right) : Before right left := by
  rcases List.le_iff_lt_or_eq.mp (List.not_lt.mp notBefore) with less | same
  · exact less
  · exact absurd (bytes_injective same).symm different

end ScanWatch.Text
