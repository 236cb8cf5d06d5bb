import Mathlib.Data.List.Infix
import Mathlib.Order.Nat
import ScanWatch.Proofs.Service.Reading

/-! Bodies chunk by chunk: which chunk is one too many, what is held while reading, and that the
verdict depends on the bytes only and not on the chunks that they come in. -/

namespace ScanWatch.Http

variable {maxBytes : Nat}

namespace Body

/-- The chunks that come, up to the end of the body or the first that could not be read. -/
def chunks : Body → List (List UInt8)
  | .finished | .broken _ => []
  | .chunk bytes rest => bytes :: rest.chunks

/-- The failure that the body ends in. -/
def failure? : Body → Option TransportFailure
  | .finished => none
  | .broken failure => some failure
  | .chunk _ rest => rest.failure?

/-- How many bytes the first so many chunks have. -/
def sizeOfFirst (body : Body) (count : Nat) : Nat :=
  (body.chunks.take count).flatten.length

/-- The first so many chunks exceed a limit, and no fewer do. -/
structure Exceeds (body : Body) (maxBytes count : Nat) : Prop where
  beyond : maxBytes < body.sizeOfFirst count
  within : ∀ fewer < count, body.sizeOfFirst fewer ≤ maxBytes

variable {body rest : Body} {held content bytes : List UInt8} {room count : Nat}

private theorem content?_eq_some_iff :
    body.content? = some content ↔ body.failure? = none ∧ body.chunks.flatten = content := by
  induction body generalizing content with
  | finished => simp [content?, failure?, chunks]
  | broken failure => simp [content?, failure?]
  | chunk bytes rest ih =>
    simp only [content?, Option.map_eq_some_iff, ih, failure?, chunks, List.flatten_cons]
    constructor
    · rintro ⟨tail, ⟨ended, rfl⟩, rfl⟩
      exact ⟨ended, rfl⟩
    · rintro ⟨ended, rfl⟩
      exact ⟨_, ⟨ended, rfl⟩, rfl⟩

private theorem sizeOfFirst_zero (body : Body) : body.sizeOfFirst 0 = 0 := by
  rw [sizeOfFirst, List.take_zero, List.flatten_nil, List.length_nil]

private theorem sizeOfFirst_succ (bytes : List UInt8) (rest : Body) (count : Nat) :
    (chunk bytes rest).sizeOfFirst (count + 1) = bytes.length + rest.sizeOfFirst count := by
  rw [sizeOfFirst, chunks, List.take_succ_cons, List.flatten_cons, List.length_append, sizeOfFirst]

private theorem exists_exceeds (beyond : maxBytes < body.chunks.flatten.length) :
    ∃ count, body.Exceeds maxBytes count := by
  have reached : ∃ count, maxBytes < body.sizeOfFirst count := by
    refine ⟨body.chunks.length, ?_⟩
    rwa [sizeOfFirst, List.take_length]
  refine ⟨Nat.find reached, Nat.find_spec reached, ?_⟩
  intro fewer less
  exact Nat.not_lt.mp (Nat.find_min reached less)

-- What is held and the room that is left make up the limit at every chunk.
private theorem limit_append (limit : maxBytes = held.length + room) (fits : bytes.length ≤ room) :
    maxBytes = (held ++ bytes).length + (room - bytes.length) := by
  rw [List.length_append]
  omega

namespace Exceeds

private theorem tail (exceeds : (chunk bytes rest).Exceeds room (count + 1))
    (fits : bytes.length ≤ room) : rest.Exceeds (room - bytes.length) count := by
  constructor
  · have beyond := exceeds.beyond
    rw [sizeOfFirst_succ] at beyond
    omega
  · intro fewer less
    have within := exceeds.within (fewer + 1) (Nat.succ_lt_succ less)
    rw [sizeOfFirst_succ] at within
    omega

private theorem first (exceeds : (chunk bytes rest).Exceeds room (count + 1))
    (large : ¬bytes.length ≤ room) : count = 0 := by
  by_contra later
  have within := exceeds.within 1 (by omega)
  rw [sizeOfFirst_succ, sizeOfFirst_zero] at within
  exact large within

private theorem one (large : room < bytes.length) : (chunk bytes rest).Exceeds room 1 := by
  constructor
  · rwa [sizeOfFirst_succ, sizeOfFirst_zero, Nat.add_zero]
  · intro fewer less
    obtain rfl : fewer = 0 := by omega
    rw [sizeOfFirst_zero]
    exact Nat.zero_le room

private theorem cons (exceeds : rest.Exceeds (room - bytes.length) count)
    (fits : bytes.length ≤ room) :
    (chunk bytes rest).Exceeds room (count + 1) := by
  constructor
  · have beyond := exceeds.beyond
    rw [sizeOfFirst_succ]
    omega
  · intro fewer less
    cases fewer with
    | zero =>
      rw [sizeOfFirst_zero]
      exact Nat.zero_le room
    | succ fewer =>
      have within := exceeds.within fewer (by omega)
      rw [sizeOfFirst_succ]
      omega

private theorem readFrom (exceeds : body.Exceeds room count)
    (limit : maxBytes = held.length + room) :
    body.readFrom maxBytes held =
      .error (.tooLarge maxBytes (held.length + body.sizeOfFirst count)) := by
  induction body generalizing held room count with
  | finished | broken failure =>
    have beyond := exceeds.beyond
    rw [sizeOfFirst, chunks, List.take_nil] at beyond
    cases beyond
  | chunk bytes rest ih =>
    cases count with
    | zero =>
      have beyond := exceeds.beyond
      rw [sizeOfFirst_zero] at beyond
      cases beyond
    | succ count =>
      rw [sizeOfFirst_succ]
      simp only [Body.readFrom]
      by_cases fits : bytes.length ≤ room
      · rw [if_neg (by omega)]
        rw [ih (exceeds.tail fits) (limit_append limit fits), List.length_append, Nat.add_assoc]
      · obtain rfl := exceeds.first fits
        rw [if_pos (by omega), sizeOfFirst_zero, Nat.add_zero]

end Exceeds

/-- A body that breaks off within the limit fails as its transport did. -/
theorem readFrom_broken {failure : TransportFailure} (breaks : body.failure? = some failure)
    (fits : held.length + body.chunks.flatten.length ≤ maxBytes) :
    body.readFrom maxBytes held = .error (.ofTransport failure) := by
  induction body generalizing held with
  | finished => cases breaks
  | broken failure =>
    obtain rfl := Option.some.inj breaks
    rfl
  | chunk bytes rest ih =>
    rw [chunks, List.flatten_cons, List.length_append] at fits
    simp only [readFrom]
    rw [if_neg (by omega)]
    apply ih breaks
    rw [List.length_append]
    omega

/-- Reading on as `readFrom` does, with everything that is held on the way. -/
def readHolding (maxBytes : Nat) (held : List UInt8) :
    Body → List (List UInt8) × Except Failure (List UInt8)
  | .finished => ([held], .ok held)
  | .broken failure => ([held], .error (.ofTransport failure))
  | .chunk bytes rest =>
    let length := held.length + bytes.length
    if maxBytes < length then ([held], .error (.tooLarge maxBytes length))
    else
      let (later, result) := rest.readHolding maxBytes (held ++ bytes)
      (held :: later, result)

private theorem readHolding_snd (maxBytes : Nat) (held : List UInt8) (body : Body) :
    (body.readHolding maxBytes held).2 = body.readFrom maxBytes held := by
  induction body generalizing held with
  | finished | broken failure => rfl
  | chunk bytes rest ih =>
    simp only [readHolding, readFrom]
    split
    · rfl
    · exact ih (held ++ bytes)

/-- Reading gets so far: it takes all chunks, or those before the one that is too many. -/
inductive Reaches (body : Body) (maxBytes : Nat) : Nat → Prop where
  | all (fits : body.chunks.flatten.length ≤ maxBytes) : Reaches body maxBytes body.chunks.length
  | stopped {count : Nat} (exceeds : body.Exceeds maxBytes (count + 1)) :
      Reaches body maxBytes count

private theorem Reaches.cons (reaches : rest.Reaches (room - bytes.length) count)
    (fits : bytes.length ≤ room) : (chunk bytes rest).Reaches room (count + 1) := by
  cases reaches with
  | all fits =>
    apply Reaches.all
    rw [chunks, List.flatten_cons, List.length_append]
    omega
  | stopped exceeds => exact .stopped (exceeds.cons fits)

/-- What is held on the way are the first chunks put together: none of them, the first one, the
first two and so on, as far as reading gets. -/
theorem readHolding_fst (limit : maxBytes = held.length + room) :
    ∃ count, body.Reaches room count ∧ (body.readHolding maxBytes held).1 =
      (body.chunks.take count).inits.map fun taken => held ++ taken.flatten := by
  induction body generalizing held room with
  | finished | broken failure =>
    refine ⟨0, .all (Nat.zero_le room), ?_⟩
    simp [readHolding, chunks]
  | chunk bytes rest ih =>
    simp only [readHolding]
    by_cases fits : bytes.length ≤ room
    · obtain ⟨count, reaches, later⟩ := ih (limit_append limit fits)
      refine ⟨count + 1, reaches.cons fits, ?_⟩
      rw [if_neg (by omega), later]
      simp [chunks]
    · refine ⟨0, .stopped (.one (by omega)), ?_⟩
      rw [if_pos (by omega)]
      simp

private theorem getLast?_readHolding (read : body.readFrom maxBytes held = .ok content) :
    (body.readHolding maxBytes held).1.getLast? = some content := by
  induction body generalizing held with
  | finished =>
    cases read
    rfl
  | broken failure => cases read
  | chunk bytes rest ih =>
    simp only [readFrom, readHolding] at read ⊢
    split at read
    · cases read
    · next fits =>
      rw [if_neg fits, List.getLast?_cons, ih read]
      rfl

/-- No more than the limit is held at any time. -/
theorem length_le_of_mem_readHolding (room : held.length ≤ maxBytes) :
    ∀ buffer ∈ (body.readHolding maxBytes held).1, buffer.length ≤ maxBytes := by
  induction body generalizing held with
  | finished | broken failure => simpa [readHolding] using room
  | chunk bytes rest ih =>
    simp only [readHolding]
    split
    · simpa using room
    · next fits =>
      have more : (held ++ bytes).length ≤ maxBytes := by
        rw [List.length_append]
        omega
      exact List.forall_mem_cons.mpr ⟨room, ih more⟩

end Body

namespace Response

/-- What reading a response under a limit comes to. A declared length beyond the limit comes before
everything else, and the chunk that is one too many before any failure after it. -/
inductive ReadsAs (response : Response) (maxBytes : Nat) : Except Failure (List UInt8) → Prop where
  | declared {length : Nat} (declared : response.declaredLength = some length)
      (beyond : maxBytes < length) : ReadsAs response maxBytes (.error (.tooLarge maxBytes length))
  | whole (declared : ∀ length, response.declaredLength = some length → length ≤ maxBytes)
      (unbroken : response.body.failure? = none)
      (fits : response.body.chunks.flatten.length ≤ maxBytes) :
      ReadsAs response maxBytes (.ok response.body.chunks.flatten)
  | exceeded (declared : ∀ length, response.declaredLength = some length → length ≤ maxBytes)
      {count : Nat} (exceeds : response.body.Exceeds maxBytes count) :
      ReadsAs response maxBytes
        (.error (.tooLarge maxBytes (response.body.chunks.take count).flatten.length))
  | broken (declared : ∀ length, response.declaredLength = some length → length ≤ maxBytes)
      (fits : response.body.chunks.flatten.length ≤ maxBytes) {failure : TransportFailure}
      (breaks : response.body.failure? = some failure) :
      ReadsAs response maxBytes (.error (.ofTransport failure))

variable {response : Response} {result : Except Failure (List UInt8)}

private theorem read_eq_readFrom
    (declared : ∀ length, response.declaredLength = some length → length ≤ maxBytes) :
    response.read maxBytes = response.body.readFrom maxBytes [] := by
  unfold read
  split
  · next length same => rw [if_neg (Nat.not_lt.mpr (declared length same))]
  · rfl

private theorem ReadsAs.read (reads : response.ReadsAs maxBytes result) :
    response.read maxBytes = result := by
  cases reads with
  | declared declared beyond =>
    rw [Response.read, declared]
    exact if_pos beyond
  | whole declared unbroken fits =>
    exact read_eq_ok_iff.mpr ⟨declared, Body.content?_eq_some_iff.mpr ⟨unbroken, rfl⟩, fits⟩
  | exceeded declared exceeds =>
    rw [read_eq_readFrom declared, exceeds.readFrom (Nat.zero_add _).symm, List.length_nil,
      Nat.zero_add]
    rfl
  | broken declared fits breaks =>
    rw [read_eq_readFrom declared]
    exact Body.readFrom_broken breaks (by rwa [List.length_nil, Nat.zero_add])

private theorem exists_readsAs (response : Response) (maxBytes : Nat) :
    ∃ result, response.ReadsAs maxBytes result := by
  by_cases declared : ∀ length, response.declaredLength = some length → length ≤ maxBytes
  · by_cases fits : response.body.chunks.flatten.length ≤ maxBytes
    · cases breaks : response.body.failure? with
      | none => exact ⟨_, .whole declared breaks fits⟩
      | some failure => exact ⟨_, .broken declared fits breaks⟩
    · obtain ⟨count, exceeds⟩ := Body.exists_exceeds (Nat.lt_of_not_le fits)
      exact ⟨_, .exceeded declared exceeds⟩
  · obtain ⟨length, longer⟩ := not_forall.mp declared
    obtain ⟨same, beyond⟩ := Classical.not_imp.mp longer
    exact ⟨_, .declared same (Nat.lt_of_not_le beyond)⟩

private theorem read_eq_iff :
    response.read maxBytes = result ↔ response.ReadsAs maxBytes result := by
  constructor
  · rintro rfl
    obtain ⟨result, reads⟩ := exists_readsAs response maxBytes
    rwa [reads.read]
  · exact ReadsAs.read

/-- A response that does not break off is too large exactly if it is not read. -/
theorem tooLarge_iff (unbroken : response.body.failure? = none) :
    (∃ actual, response.read maxBytes = .error (.tooLarge maxBytes actual)) ↔
      ¬((∀ length, response.declaredLength = some length → length ≤ maxBytes) ∧
        response.body.chunks.flatten.length ≤ maxBytes) := by
  constructor
  · rintro ⟨actual, stopped⟩ ⟨declared, fits⟩
    rw [(ReadsAs.whole declared unbroken fits).read] at stopped
    cases stopped
  · intro refused
    obtain ⟨result, reads⟩ := exists_readsAs response maxBytes
    have read := reads.read
    cases reads with
    | declared | exceeded => exact ⟨_, read⟩
    | whole declared unbroken fits => exact absurd ⟨declared, fits⟩ refused
    | broken declared fits breaks =>
      rw [unbroken] at breaks
      cases breaks

/-- Two responses that send the same bytes to the end, and declare the same length or none. -/
structure SendsAs (response other : Response) : Prop where
  declared : response.declaredLength = other.declaredLength
  unbroken : response.body.failure? = none ∧ other.body.failure? = none
  bytes : response.body.chunks.flatten = other.body.chunks.flatten

/-- A response is read exactly if neither its declared length nor its chunks exceed the limit and
none of them fails, and otherwise fails as `ReadsAs` says. What is held on the way are the first
chunks put together, up to what is read in the end, and no more than the limit is ever held.
Responses that send the same bytes in other chunks get the same verdict. -/
theorem bounded_read (response : Response) (maxBytes : Nat) :
    (∀ bytes, response.read maxBytes = .ok bytes ↔
      (∀ length, response.declaredLength = some length → length ≤ maxBytes) ∧
        response.body.failure? = none ∧ response.body.chunks.flatten.length ≤ maxBytes ∧
        bytes = response.body.chunks.flatten) ∧
    (∀ result, response.read maxBytes = result ↔ response.ReadsAs maxBytes result) ∧
    (response.body.readHolding maxBytes []).2 = response.body.readFrom maxBytes [] ∧
    (∃ count, response.body.Reaches maxBytes count ∧
      (response.body.readHolding maxBytes []).1 =
        (response.body.chunks.take count).inits.map List.flatten) ∧
    (∀ bytes, response.body.readFrom maxBytes [] = .ok bytes →
      (response.body.readHolding maxBytes []).1.getLast? = some bytes) ∧
    (∀ buffer ∈ (response.body.readHolding maxBytes []).1, buffer.length ≤ maxBytes) ∧
    ∀ other : Response, response.SendsAs other →
      (∀ bytes, response.read maxBytes = .ok bytes ↔ other.read maxBytes = .ok bytes) ∧
      ((∃ actual, response.read maxBytes = .error (.tooLarge maxBytes actual)) ↔
        ∃ actual, other.read maxBytes = .error (.tooLarge maxBytes actual)) := by
  refine ⟨?_, fun result => read_eq_iff, Body.readHolding_snd .., ?_,
    fun _ => Body.getLast?_readHolding, ?_, ?_⟩
  · intro bytes
    rw [read_eq_ok_iff, Body.content?_eq_some_iff]
    constructor
    · rintro ⟨declared, ⟨unbroken, rfl⟩, fits⟩
      exact ⟨declared, unbroken, fits, rfl⟩
    · rintro ⟨declared, unbroken, fits, rfl⟩
      exact ⟨declared, ⟨unbroken, rfl⟩, fits⟩
  · have room : maxBytes = ([] : List UInt8).length + maxBytes := (Nat.zero_add maxBytes).symm
    exact Body.readHolding_fst room
  · exact Body.length_le_of_mem_readHolding (Nat.zero_le _)
  · intro other sends
    obtain ⟨here, there⟩ := sends.unbroken
    constructor
    · intro bytes
      simp only [read_eq_ok_iff, Body.content?_eq_some_iff, here, there, sends.declared, sends.bytes]
    · rw [tooLarge_iff here, tooLarge_iff there, sends.declared, sends.bytes]

/-- Empty chunks fit even when nothing does. -/
example : Response.read ⟨200, none, .chunk [] (.chunk [] .finished)⟩ 0 = .ok [] := rfl

end Response

end ScanWatch.Http
