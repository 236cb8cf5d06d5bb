import ScanWatch.Payload.Job
import ScanWatch.Proofs.Payload.Decoder

namespace ScanWatch

open Json (Tree)
open Payload

namespace JobStatus

private theorem text_ofText (text : String) : (ofText text).text = text := by
  rw [ofText]
  cases found : known.find? (fun status => status.text == text) with
  | none => rfl
  | some status =>
    have same := List.find?_some found
    exact beq_iff_eq.mp same

private theorem canonical_ofText (text : String) : (ofText text).Canonical := by
  rw [ofText]
  cases found : known.find? (fun status => status.text == text) with
  | none =>
    rintro stage member ⟨⟩
    simpa using List.find?_eq_none.mp found stage member
  | some status =>
    have distinct : ∀ status ∈ known, status.Canonical := by decide
    exact distinct status (List.mem_of_find?_eq_some found)

private theorem ofText_text {status : JobStatus} (canonical : status.Canonical) :
    ofText status.text = status := by
  cases status with
  | other text =>
    have unknown : known.find? (fun status => status.text == text) = none :=
      List.find?_eq_none.mpr fun stage member same =>
        canonical stage member (congrArg other (beq_iff_eq.mp same).symm)
    rw [JobStatus.text, ofText, unknown]
    rfl
  | _ => rfl

def terminalTexts : List String :=
  ["done", "cancelled", "failed", "expired"]

/-- Only the terminal texts end a job, each spelled exactly so. -/
theorem isTerminal_ofText (text : String) :
    (ofText text).isTerminal = true ↔ text ∈ terminalTexts := by
  have spelled : (ofText text).text = text := text_ofText text
  have canonical : (ofText text).Canonical := canonical_ofText text
  cases named : ofText text with
  | other _ =>
    rw [named] at spelled canonical
    constructor
    · nofun
    · intro ending
      have stages : ∀ text ∈ terminalTexts, ∃ stage ∈ known, stage.text = text := by decide
      obtain ⟨stage, member, same⟩ := stages text ending
      exact absurd (congrArg other (spelled.trans same.symm)) (canonical stage member)
  | queued | processing | done | cancelled | failed | expired =>
    rw [named] at spelled
    rw [← spelled]
    decide

end JobStatus

namespace Payload

variable {name : String} {optional : Option UInt64} {depth : Nat}

theorem count_reads (value : UInt64) : Decoder.count.Reads (countJson value) value := by
  intro depth _
  have small : (value.toNat : Int) < UInt64.size := by exact_mod_cast value.toNat_lt
  rw [countJson, Tree.ofJson, Decoder.count, if_pos ⟨Int.natCast_nonneg _, small⟩]
  simp

private theorem eq_countJson {json : Json} {value : UInt64}
    (read : Decoder.count depth (Tree.ofJson json) = some value) : json = countJson value := by
  cases json with
  | number number =>
    cases number with
    | integer integer =>
      simp only [Tree.ofJson, Decoder.count, Option.ite_none_right_eq_some,
        Option.some.injEq] at read
      obtain ⟨⟨nonnegative, small⟩, rfl⟩ := read
      have same : (UInt64.ofNat integer.toNat).toNat = integer.toNat :=
        UInt64.toNat_ofNat_of_lt' (by omega)
      simp only [countJson, same, Int.toNat_of_nonneg nonnegative]
    | double double => cases read
  | _ => cases read

private theorem of_nullable_count {json : Json}
    (read : Decoder.count.nullable depth (Tree.ofJson json) = some optional) :
    (json = .null ∧ optional = none) ∨
      ∃ value, json = countJson value ∧ optional = some value := by
  by_cases absent : json = .null
  · subst absent
    exact .inl ⟨rfl, (Option.some.inj read).symm⟩
  · rw [Decoder.nullable_of_ne_null _ absent] at read
    obtain ⟨value, counted, rfl⟩ := Option.map_eq_some_iff.mp read
    exact .inr ⟨value, eq_countJson counted, rfl⟩

private theorem mem_optionalMember {field : String} {json : Json} :
    (name, json) ∈ optionalMember field optional ↔
      name = field ∧ optional.map countJson = some json := by
  cases optional with
  | none => simp [optionalMember]
  | some value => simp [optionalMember, eq_comm]

/-- An optional count is read back, whether it was written or left out. -/
theorem optional_read {members : List (String × Json)} (distinct : (members.map Prod.fst).Nodup)
    (listed : ∀ json, (name, json) ∈ members ↔ optional.map countJson = some json) :
    (Members.ofMembers members).withDefault name none (Decoder.count.nullable depth) =
      some optional := by
  cases optional with
  | none =>
    refine Members.withDefault_of_not_mem (fun json member => ?_) ..
    cases (listed json).mp member
  | some value =>
    have present : countJson value ≠ .null := nofun
    rw [Members.withDefault_of_mem distinct ((listed _).mpr rfl),
      Decoder.nullable_of_ne_null _ present, count_reads value depth (Nat.zero_le _)]
    rfl

private theorem of_optional {members : List (String × Json)}
    (read : (Members.ofMembers members).withDefault name none (Decoder.count.nullable depth) =
      some optional) (json : Json) :
    optional.map countJson = some json ↔ (name, json) ∈ members ∧ json ≠ .null := by
  rcases Members.of_withDefault read with ⟨rfl, missing⟩ | ⟨found, decoded, single⟩
  · simp [missing]
  · rw [single]
    rcases of_nullable_count decoded with ⟨rfl, rfl⟩ | ⟨value, rfl, rfl⟩
    · simp
    · have present : countJson value ≠ .null := nofun
      constructor
      · rintro ⟨⟩
        exact ⟨rfl, present⟩
      · rintro ⟨rfl, _⟩
        rfl

end Payload

namespace JobRecord

structure Sound (job : JobRecord) : Prop where
  canonical : job.status.Canonical
  foreign : Foreign fields job.extra

variable {job : JobRecord}

/-- The members that a record writes for its own fields. -/
def own (job : JobRecord) : List (String × Json) :=
  ("status", .string job.status.text) ::
    (optionalMember "work_done" job.workDone ++ optionalMember "work_estimated" job.workEstimated)

private theorem encode_eq (job : JobRecord) :
    job.encode = .object (job.own ++ job.extra.entries) := by
  simp [encode, own]

private theorem mem_own {name : String} {json : Json} : (name, json) ∈ job.own ↔
    (name = "status" ∧ json = .string job.status.text) ∨
      (name = "work_done" ∧ job.workDone.map countJson = some json) ∨
      (name = "work_estimated" ∧ job.workEstimated.map countJson = some json) := by
  rw [own, List.mem_cons, List.mem_append, mem_optionalMember, mem_optionalMember, Prod.mk.injEq]

private theorem own_known (job : JobRecord) : ∀ entry ∈ job.own, entry.1 ∈ fields := by
  rintro ⟨name, json⟩ member
  rcases mem_own.mp member with ⟨rfl, _⟩ | ⟨rfl, _⟩ | ⟨rfl, _⟩ <;> simp [fields]

private theorem own_distinct (job : JobRecord) : (job.own.map Prod.fst).Nodup := by
  obtain ⟨status, workDone, workEstimated, extra⟩ := job
  cases workDone <;> cases workEstimated <;> simp [own, optionalMember]

private theorem Sound.reads (sound : job.Sound) : JobRecord.decode.Reads job.encode job := by
  have distinct := sound.foreign.distinct job.own_known job.own_distinct
  have listed : ∀ name ∈ fields, ∀ json,
      (name, json) ∈ job.own ++ job.extra.entries ↔ (name, json) ∈ job.own :=
    fun _ field json => sound.foreign.mem_own field
  rw [encode_eq]
  refine Decoder.openRecord_reads fun depth inside => ?_
  have status := (Decoder.text_reads job.status.text).required distinct inside
    ((listed "status" (by decide) _).mpr (mem_own.mpr (.inl ⟨rfl, rfl⟩)))
  have workDone : (Members.ofMembers _).withDefault "work_done" none
      (Decoder.count.nullable depth) = some job.workDone :=
    optional_read distinct fun json =>
      (listed "work_done" (by decide) json).trans (by simp [mem_own])
  have workEstimated : (Members.ofMembers _).withDefault "work_estimated" none
      (Decoder.count.nullable depth) = some job.workEstimated :=
    optional_read distinct fun json =>
      (listed "work_estimated" (by decide) json).trans (by simp [mem_own])
  rw [status, workDone, workEstimated, sound.foreign.read job.own_known inside]
  simp [JobStatus.ofText_text sound.canonical]

private theorem sound_of_decode {depth : Nat} {tree : Tree}
    (read : JobRecord.decode depth tree = some job) : job.Sound := by
  obtain ⟨inner, members, built⟩ := Decoder.of_openRecord read
  simp only [bind, Option.bind_eq_some_iff, pure, Option.some.injEq] at built
  obtain ⟨status, _, workDone, _, workEstimated, _, extra, kept, rfl⟩ := built
  exact ⟨JobStatus.canonical_ofText status, foreign_of_read kept⟩

/-- A count that is null is left out when the record is written again. -/
def isSilent : String × Json → Bool
  | ("work_done", .null) | ("work_estimated", .null) => true
  | _ => false

private theorem isSilent_iff {name : String} {json : Json} : isSilent (name, json) = true ↔
    (name = "work_done" ∨ name = "work_estimated") ∧ json = .null := by
  unfold isSilent
  split
  · next same =>
    cases same
    simp
  · next same =>
    cases same
    simp
  · next first second =>
    refine iff_of_false nofun ?_
    rintro ⟨rfl | rfl, rfl⟩
    · exact first rfl
    · exact second rfl

def spoken (members : List (String × Json)) : List (String × Json) :=
  members.filter fun entry => !isSilent entry

/-- Nothing of an object that is read as a record is lost but counts that are null. -/
theorem keeps : Keeps JobRecord.decode encode spoken := by
  intro members job distinct orderly read
  obtain ⟨depth, inside, built⟩ := Decoder.of_openRecord_ofJson read
  simp only [bind, Option.bind_eq_some_iff, pure, Option.some.injEq] at built
  obtain ⟨text, spelled, workDone, done, workEstimated, estimated, extra, kept, rfl⟩ := built
  have foreign : Foreign fields extra := foreign_of_read kept
  obtain ⟨json, status, single⟩ := Members.of_required spelled
  obtain rfl := Decoder.eq_string status
  refine ⟨_, encode_eq _, ?_⟩
  have written := foreign.distinct (own_known _)
    (own_distinct ⟨JobStatus.ofText text, workDone, workEstimated, extra⟩)
  refine (List.perm_ext_iff_of_nodup (written.of_map _) ((distinct.of_map _).filter _)).mpr ?_
  rintro ⟨name, json⟩
  have extra : (name, json) ∈ extra.entries ↔ (name, json) ∈ members ∧ name ∉ fields :=
    mem_of_read distinct orderly inside kept
  have done := of_optional done json
  have estimated := of_optional estimated json
  rw [List.mem_append, mem_own, extra, done, estimated, JobStatus.text_ofText, ← single,
    List.mem_filter, Bool.not_eq_true', ← Bool.not_eq_true, isSilent_iff]
  simp only [fields, List.mem_cons, List.not_mem_nil, or_false]
  by_cases first : name = "status"
  · subst first
    simp
  by_cases second : name = "work_done"
  · subst second
    simp
  by_cases third : name = "work_estimated"
  · subst third
    simp
  simp [first, second, third]

end JobRecord

namespace MatchPage

structure Sound (page : MatchPage) : Prop where
  orderly : ∀ item ∈ page.items, item.Orderly
  job : page.job.Sound

private theorem Sound.reads {page : MatchPage} (sound : page.Sound) :
    MatchPage.decode.Reads page.encode page := by
  refine Decoder.record_reads fun depth inside => ?_
  have distinct : ([("matches", Json.array page.items), ("job", page.job.encode)].map
      Prod.fst).Nodup := by simp
  have items : Decoder.any.list.Reads (.array page.items) page.items := by
    have each : ∀ item ∈ page.items, Decoder.any.Reads (id item) item := fun item member =>
      Decoder.any_reads (sound.orderly item member)
    simpa using Decoder.list_reads each
  rw [items.withDefault distinct inside (by simp),
    sound.job.reads.required distinct inside (by simp)]
  rfl

private theorem sound_of_decode {depth : Nat} {tree : Tree} {page : MatchPage}
    (read : MatchPage.decode depth tree = some page) : page.Sound := by
  obtain ⟨inner, members, built⟩ := Decoder.of_record read
  simp only [bind, Option.bind_eq_some_iff, pure, Option.some.injEq] at built
  obtain ⟨items, listed, job, found, rfl⟩ := built
  refine ⟨?_, ?_⟩
  · rcases Members.exists_of_withDefault listed with rfl | ⟨tree, listed⟩
    · exact List.forall_mem_nil _
    · intro item member
      obtain ⟨depth, item, denotes⟩ := Decoder.of_list listed member
      exact Tree.orderly_of_value? denotes
  · obtain ⟨tree, decoded⟩ := Members.exists_of_required found
    exact JobRecord.sound_of_decode decoded

theorem roundTrip : RoundTrip MatchPage.decode encode Sound :=
  .of_reads (fun _ sound => sound.reads) fun _ _ _ => sound_of_decode

end MatchPage

end ScanWatch
