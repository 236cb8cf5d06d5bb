import Mathlib.Data.List.Basic
import ScanWatch.Display.StatusLine
import ScanWatch.Proofs.Text.Grouping

/-! The counts in the line that sums up a job. They are read off behind the job's hash and status,
both of which may be any text; so two lines about one job in one status are the same only if the
counts are. -/

namespace ScanWatch

/-- The work done and the work estimated, once both are known. -/
def JobRecord.work? (job : JobRecord) : Option (Nat × Nat) := do
  let done ← job.workDone
  let estimated ← job.workEstimated
  some (done.toNat, estimated.toNat)

/-- What a line tells of a job: how many matches were found, and how much of the work is done. -/
structure Tally where
  found : Nat
  work : Option (Nat × Nat)
deriving DecidableEq

namespace Tally

def takeCount? (cs : List Char) : Option (Nat × List Char) := do
  let count ← Text.ofGrouped? (cs.takeWhile (· != ' '))
  some (count, cs.dropWhile (· != ' '))

def readWork? (cs : List Char) : Option (Option (Nat × Nat)) :=
  match cs.dropPrefix? " | progress: ".toList with
  | none => some none
  | some rest => do
    let (done, rest) ← takeCount? rest
    let rest ← rest.dropPrefix? " / ".toList
    let (estimated, _) ← takeCount? rest
    some (some (done, estimated))

/-- Reads the counts off a line about a job of this hash in this status. -/
def read? (hash status line : String) : Option Tally := do
  let title := "Job " ++ hash ++ " [" ++ status ++ "] | matches: "
  let rest ← line.toList.dropPrefix? title.toList
  let (found, rest) ← takeCount? rest
  let work ← readWork? rest
  some ⟨found, work⟩

variable {cs : List Char}

private theorem blank_not_mem_grouped (value : Nat) : ' ' ∉ (Text.grouped value).toList := by
  intro member
  have kept := List.mem_filter_of_mem (p := (· != ',')) member (by decide)
  rw [Text.filter_grouped] at kept
  exact Text.not_mem_toDigits (by decide) kept

private theorem takeCount?_grouped (value : Nat) (blank : cs.head? = some ' ') :
    takeCount? ((Text.grouped value).toList ++ cs) = some (value, cs) := by
  obtain ⟨rest, rfl⟩ := List.head?_eq_some_iff.mp blank
  have run : ∀ c ∈ (Text.grouped value).toList, (c != ' ') = true := by
    intro c member
    rw [bne_iff_ne]
    rintro rfl
    exact blank_not_mem_grouped value member
  rw [takeCount?, List.takeWhile_append_of_pos run, List.dropWhile_append_of_pos run]
  simp [Text.ofGrouped?_grouped]

private theorem dropPrefix?_append (before rest : List Char) :
    (before ++ rest).dropPrefix? before = some rest :=
  List.dropPrefix?_append_of_beq rest (beq_self_eq_true before)

private theorem readWork?_told (done estimated : Nat) (blank : cs.head? = some ' ') :
    readWork? (" | progress: ".toList ++ ((Text.grouped done).toList ++
      (" / ".toList ++ ((Text.grouped estimated).toList ++ cs)))) =
        some (some (done, estimated)) := by
  have slash : ∀ rest, (" / ".toList ++ rest).head? = some ' ' := fun _ => rfl
  rw [readWork?, dropPrefix?_append]
  simp only [takeCount?_grouped done (slash _), takeCount?_grouped estimated blank,
    dropPrefix?_append, Option.bind_eq_bind, Option.bind_some]

private theorem read?_titled (hash status : String) (found : Nat) (blank : cs.head? = some ' ')
    {line : String} {work : Option (Nat × Nat)} (told : readWork? cs = some work)
    (titled : line.toList = ("Job " ++ hash ++ " [" ++ status ++ "] | matches: ").toList ++
      ((Text.grouped found).toList ++ cs)) :
    read? hash status line = some ⟨found, work⟩ := by
  rw [read?, titled]
  simp only [dropPrefix?_append, takeCount?_grouped found blank, told, Option.bind_eq_bind,
    Option.bind_some]

end Tally

namespace View

open Tally

def shownHash (view : View) : String :=
  (view.jobHash.map JobHash.text).getD "?"

def shownStatus (view : View) : String :=
  (view.job.map fun job => job.status.text).getD "loading"

/-- What the line about a view has to tell. -/
def tally (view : View) : Tally :=
  ⟨view.matchCount, view.job.bind JobRecord.work?⟩

variable {view : View}

private theorem progress_known {done estimated : Nat}
    (known : view.job.bind JobRecord.work? = some (done, estimated)) :
    view.progress = " | progress: " ++ Text.grouped done ++ " / " ++ Text.grouped estimated := by
  obtain ⟨⟨status, workDone, workEstimated, extra⟩, here, both⟩ := Option.bind_eq_some_iff.mp known
  obtain ⟨doneThen, rfl, second⟩ := Option.bind_eq_some_iff.mp both
  obtain ⟨estimatedThen, rfl, same⟩ := Option.bind_eq_some_iff.mp second
  cases same
  rw [progress, here]

private theorem progress_unknown (unknown : view.job.bind JobRecord.work? = none) :
    view.progress = "" := by
  unfold progress
  split
  · next done estimated here =>
    rw [here] at unknown
    cases unknown
  · rfl

/-- No state of polling is taken for progress. -/
theorem label_no_progress (poll : PollStatus) :
    (" | " ++ poll.label).toList.dropPrefix? " | progress: ".toList = none := by
  cases poll with
  | idle | polling | finished => decide
  | stalled reason =>
    rw [PollStatus.label, String.append_assoc, String.toList_append, String.toList_append]
    rfl

def remainder (view : View) : String :=
  view.progress ++ (" | " ++ view.poll.label)

private theorem head?_label (poll : PollStatus) :
    (" | " ++ poll.label).toList.head? = some ' ' := by
  rw [String.toList_append]
  rfl

private theorem remainder_known {done estimated : Nat}
    (known : view.job.bind JobRecord.work? = some (done, estimated)) :
    view.remainder.toList = " | progress: ".toList ++ ((Text.grouped done).toList ++
      (" / ".toList ++ ((Text.grouped estimated).toList ++
        (" | " ++ view.poll.label).toList))) := by
  rw [remainder, progress_known known]
  simp only [String.toList_append, List.append_assoc]

private theorem remainder_unknown (unknown : view.job.bind JobRecord.work? = none) :
    view.remainder = " | " ++ view.poll.label := by
  rw [remainder, progress_unknown unknown, String.empty_append]

private theorem head?_remainder (view : View) : view.remainder.toList.head? = some ' ' := by
  cases known : view.job.bind JobRecord.work? with
  | none =>
    rw [remainder_unknown known]
    exact head?_label view.poll
  | some work =>
    rw [remainder_known known]
    rfl

private theorem readWork?_remainder (view : View) :
    readWork? view.remainder.toList = some (view.job.bind JobRecord.work?) := by
  cases known : view.job.bind JobRecord.work? with
  | none => rw [remainder_unknown known, readWork?, label_no_progress]
  | some work => rw [remainder_known known, readWork?_told _ _ (head?_label view.poll)]

private theorem read?_statusLine (viewing : view.mode = .viewing) :
    read? view.shownHash view.shownStatus view.statusLine = some view.tally := by
  apply read?_titled _ _ _ view.head?_remainder view.readWork?_remainder
  rw [statusLine, viewing]
  simp only [viewingLine, shownHash, shownStatus, remainder, String.toList_append,
    List.append_assoc]

end View

/-- A number is shown by its decimal text with commas between groups of thousands, and by no other
text; different numbers are shown by different texts. So the line about a job tells how many matches
were found, and the work done and estimated once both are known: all of it is read off again. -/
theorem counts_shown_exactly :
    (∀ text value, Text.InThousands text value ↔ text = Text.grouped value) ∧
      Function.Injective Text.grouped ∧
      (∀ view : View, view.mode = .viewing →
        Tally.read? view.shownHash view.shownStatus view.statusLine = some view.tally) ∧
      ∀ tracker : Tracker, tracker.mode = .viewing →
        Tally.read? tracker.view.shownHash tracker.view.shownStatus tracker.view.statusLine =
          some ⟨tracker.found.length, tracker.job.bind JobRecord.work?⟩ := by
  refine ⟨fun _ _ => Text.inThousands_iff, Text.grouped_injective, ?_, ?_⟩
  · intro view viewing
    exact View.read?_statusLine viewing
  · intro tracker viewing
    have viewed : tracker.view.mode = .viewing := viewing
    exact View.read?_statusLine viewed

def halfDone : View where
  mode := .viewing
  jobHash := some ⟨"abc123"⟩
  matchCount := 1234567
  job := some { JobRecord.ofStatus .processing with
    workDone := some 1500, workEstimated := some 3000 }
  poll := .polling

theorem counts_shown_exactly_halfDone :
    halfDone.mode = .viewing ∧
      halfDone.statusLine = "Job abc123 [processing] | matches: 1,234,567 | " ++
        "progress: 1,500 / 3,000 | polling" ∧
      Tally.read? "abc123" "processing" halfDone.statusLine =
        some ⟨1234567, some (1500, 3000)⟩ := by
  have line : halfDone.statusLine = "Job abc123 [processing] | matches: 1,234,567 | " ++
      "progress: 1,500 / 3,000 | polling" := by decide
  exact ⟨rfl, line, counts_shown_exactly.2.2.1 halfDone rfl⟩

end ScanWatch
