import ScanWatch.Service.Reading

namespace ScanWatch.Http

def Body.content? : Body → Option (List UInt8)
  | .finished => some []
  | .broken _ => none
  | .chunk bytes rest => rest.content?.map (bytes ++ ·)

/-- A response that comes to its end, with the bytes of its body; a declared length is theirs. -/
structure Response.Carries (response : Response) (content : List UInt8) : Prop where
  body : response.body.content? = some content
  declared : ∀ length, response.declaredLength = some length → length = content.length

variable {maxBytes : Nat} {content : List UInt8}

private theorem Body.readFrom_within {body : Body} (whole : body.content? = some content)
    {held : List UInt8} (fits : held.length + content.length ≤ maxBytes) :
    body.readFrom maxBytes held = .ok (held ++ content) := by
  induction body generalizing held content with
  | finished =>
    obtain rfl := Option.some.inj whole
    rw [readFrom, List.append_nil]
  | broken failure => cases whole
  | chunk bytes rest ih =>
    obtain ⟨tail, later, rfl⟩ := Option.map_eq_some_iff.mp whole
    rw [List.length_append] at fits
    have room : ¬maxBytes < held.length + bytes.length := by omega
    simp only [readFrom, room, ↓reduceIte]
    rw [ih later (by rw [List.length_append]; omega), List.append_assoc]

private theorem Body.readFrom_beyond {body : Body} (whole : body.content? = some content)
    {held : List UInt8} (room : held.length ≤ maxBytes)
    (exceeds : maxBytes < held.length + content.length) :
    ∃ actual, body.readFrom maxBytes held = .error (.tooLarge maxBytes actual) := by
  induction body generalizing held content with
  | finished =>
    obtain rfl := Option.some.inj whole
    exact absurd exceeds (Nat.not_lt.mpr room)
  | broken failure => cases whole
  | chunk bytes rest ih =>
    obtain ⟨tail, later, rfl⟩ := Option.map_eq_some_iff.mp whole
    rw [List.length_append] at exceeds
    simp only [readFrom]
    split
    · exact ⟨_, rfl⟩
    · next fits =>
      refine ih later ?_ ?_ <;> rw [List.length_append] <;> omega

private theorem Body.content_of_readFrom {body : Body} {held bytes : List UInt8}
    (read : body.readFrom maxBytes held = .ok bytes) (room : held.length ≤ maxBytes) :
    ∃ content, body.content? = some content ∧ bytes = held ++ content ∧
      bytes.length ≤ maxBytes := by
  induction body generalizing held with
  | finished =>
    obtain rfl := Except.ok.inj read
    exact ⟨[], rfl, (List.append_nil _).symm, room⟩
  | broken failure => cases read
  | chunk chunk rest ih =>
    simp only [readFrom] at read
    split at read
    · cases read
    · next fits =>
      have more : (held ++ chunk).length ≤ maxBytes := by
        rw [List.length_append]
        omega
      obtain ⟨tail, later, rfl, within⟩ := ih read more
      exact ⟨chunk ++ tail, Option.map_eq_some_iff.mpr ⟨tail, later, rfl⟩,
        List.append_assoc .., within⟩

/-- A response is read exactly if neither its declared nor its actual length exceeds the limit and
its body comes to its end. -/
theorem Response.read_eq_ok_iff {response : Response} :
    response.read maxBytes = .ok content ↔
      (∀ length, response.declaredLength = some length → length ≤ maxBytes) ∧
        response.body.content? = some content ∧ content.length ≤ maxBytes := by
  have reads : response.body.readFrom maxBytes [] = .ok content ↔
      response.body.content? = some content ∧ content.length ≤ maxBytes := by
    constructor
    · intro read
      obtain ⟨_, whole, rfl, within⟩ := Body.content_of_readFrom read (Nat.zero_le _)
      exact ⟨whole, within⟩
    · rintro ⟨whole, within⟩
      exact Body.readFrom_within whole (by simpa using within)
  unfold Response.read
  split
  · next length declared =>
    simp only [declared, Option.some.injEq, forall_eq']
    split
    · next exceeds => simp [Nat.not_le.mpr exceeds]
    · next fits => simp [Nat.not_lt.mp fits, reads]
  · next undeclared => simp [undeclared, reads]

namespace Response.Carries

variable {response : Response}

theorem read_within (carries : response.Carries content) (fits : content.length ≤ maxBytes) :
    response.read maxBytes = .ok content := by
  have whole : response.body.readFrom maxBytes [] = .ok content :=
    Body.readFrom_within carries.body (by simpa using fits)
  unfold Response.read
  split
  · next length declared =>
    rw [carries.declared length declared, if_neg (Nat.not_lt.mpr fits)]
    exact whole
  · exact whole

theorem read_beyond (carries : response.Carries content) (exceeds : maxBytes < content.length) :
    ∃ actual, response.read maxBytes = .error (.tooLarge maxBytes actual) := by
  unfold Response.read
  split
  · next length declared =>
    rw [carries.declared length declared, if_pos exceeds]
    exact ⟨_, rfl⟩
  · exact Body.readFrom_beyond carries.body (Nat.zero_le _) (by simpa using exceeds)

end Response.Carries

end ScanWatch.Http
