import ScanWatch.Payload.Backend
import ScanWatch.Proofs.Payload.Dataset
import ScanWatch.Proofs.Payload.Job

namespace ScanWatch

open Payload

private theorem BackendJob.reads (job : BackendJob) : BackendJob.decode.Reads job.encode job := by
  refine Decoder.record_reads fun depth inside => ?_
  have distinct : ([("id", Json.string job.id), ("connection_id", .string job.connection),
      ("request", .string job.request), ("work_done", countJson job.workDone),
      ("work_estimated", countJson job.workEstimated)].map Prod.fst).Nodup := by simp
  rw [(Decoder.text_reads job.id).required distinct inside (by simp),
    (Decoder.text_reads job.connection).withDefault distinct inside (by simp),
    (Decoder.text_reads job.request).withDefault distinct inside (by simp),
    (count_reads job.workDone).withDefault distinct inside (by simp),
    (count_reads job.workEstimated).withDefault distinct inside (by simp)]
  rfl

namespace BackendStatus

private theorem reads (status : BackendStatus) :
    BackendStatus.decode.Reads status.encode status := by
  refine Decoder.record_reads fun depth inside => ?_
  have distinct : ([("db_alive", Json.bool status.alive),
      ("jobs", Json.array (status.jobs.map BackendJob.encode))].map Prod.fst).Nodup := by simp
  have jobs := Decoder.list_reads fun job (_ : job ∈ status.jobs) => job.reads
  rw [(Decoder.flag_reads status.alive).withDefault distinct inside (by simp),
    jobs.withDefault distinct inside (by simp)]
  rfl

private theorem roundTrip : RoundTrip BackendStatus.decode encode fun _ => True :=
  .of_reads (fun status _ => status.reads) fun _ _ _ _ => trivial

end BackendStatus

namespace Payload

/-- Pages, datasets and the status of the backend are read back from what they are written as,
provided that known stages are not kept as mere text and that what is kept beside a record's fields
does not bear their names; nothing else is ever read. Of an object that is read as a job or as a
dataset no member is lost, but for counts that are null, and only missing taints are added. -/
theorem codec_round_trip :
    RoundTrip MatchPage.decode MatchPage.encode MatchPage.Sound ∧
      RoundTrip DatasetMap.decode DatasetMap.encode DatasetMap.Sound ∧
      RoundTrip BackendStatus.decode BackendStatus.encode (fun _ => True) ∧
      Keeps JobRecord.decode JobRecord.encode JobRecord.spoken ∧
      Keeps Dataset.decode Dataset.encode Dataset.completed :=
  ⟨MatchPage.roundTrip, DatasetMap.roundTrip, BackendStatus.roundTrip, JobRecord.keeps,
    Dataset.keeps⟩

/-- A job with a stage of its own, no estimate yet, and a member that no field is for. -/
def pausedMembers : List (String × Json) :=
  [("work_done", .null), ("status", .string "paused"), ("owner", .string "scan")]

def pausedJob : JobRecord :=
  ⟨.other "paused", none, none, .ofList [("owner", .string "scan")]⟩

theorem codec_round_trip_paused :
    JobRecord.decode.ofJson? (.object pausedMembers) = some pausedJob ∧
      (∃ written, pausedJob.encode = .object written ∧
        written.Perm [("status", .string "paused"), ("owner", .string "scan")]) ∧
      (⟨[.null], pausedJob⟩ : MatchPage).Sound ∧
      MatchPage.decode.ofJson? (MatchPage.encode ⟨[.null], pausedJob⟩) =
        some ⟨[.null], pausedJob⟩ := by
  obtain ⟨pages, _, _, jobs, _⟩ := codec_round_trip
  have read : JobRecord.decode.ofJson? (.object pausedMembers) = some pausedJob := rfl
  have orderly : ∀ entry ∈ pausedMembers, entry.2.Orderly :=
    List.forall_mem_cons.mpr ⟨.null, List.forall_mem_cons.mpr ⟨.string _,
      List.forall_mem_singleton.mpr (.string _)⟩⟩
  have foreign : Foreign JobRecord.fields pausedJob.extra :=
    ⟨by decide, List.forall_mem_singleton.mpr (.string "scan")⟩
  have sound : (⟨[.null], pausedJob⟩ : MatchPage).Sound :=
    ⟨List.forall_mem_singleton.mpr .null, by decide, foreign⟩
  exact ⟨read, jobs pausedMembers pausedJob (by decide) orderly read, sound,
    pages.returns _ sound⟩

end Payload

end ScanWatch
