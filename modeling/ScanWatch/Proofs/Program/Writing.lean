import ScanWatch.Proofs.Program.Following

namespace ScanWatch

inductive Writing where
  | result (line : String)
  | remark (line : String)
deriving DecidableEq, Repr

variable {Outside : Type} {host : Host (StateM Outside)} {written : Outside → List Writing}

/-- A host that keeps what was written, in order; waiting writes nothing. -/
structure Host.Keeps (host : Host (StateM Outside)) (written : Outside → List Writing) : Prop where
  result (line : String) (outside : Outside) :
    written ((host.result line).run outside).2 = written outside ++ [.result line]
  remark (line : String) (outside : Outside) :
    written ((host.remark line).run outside).2 = written outside ++ [.remark line]
  await (client : Client) (engine : Engine) (outside : Outside) :
    written ((host.await client engine).run outside).2 = written outside

private theorem Host.Keeps.awaited (keeps : host.Keeps written) {client : Client} {engine : Engine}
    {outside later : Outside} {occurrence : Option Occurrence}
    (awaited : (host.await client engine).run outside = (occurrence, later)) :
    written later = written outside := by
  have silent := keeps.await client engine outside
  rwa [awaited] at silent

namespace Program

private theorem written_forM {write : String → StateM Outside Unit} {kind : String → Writing}
    (one : ∀ line outside, written ((write line).run outside).2 = written outside ++ [kind line])
    (lines : List String) (outside : Outside) :
    written ((lines.forM write).run outside).2 = written outside ++ lines.map kind := by
  induction lines generalizing outside with
  | nil => exact (List.append_nil _).symm
  | cons line rest ih =>
    have later := ih ((write line).run outside).2
    rw [one, List.append_assoc] at later
    exact later

/-- An errand came to its last state with some messages, and their lines were written. -/
def Writes (written : Outside → List Writing) (errand : Errand) (outside : Outside) (last : Errand)
    (after : Outside) : Prop :=
  ∃ messages, last = (errand.follow messages).1 ∧
    written after = written outside ++ (errand.follow messages).2.lines.map .remark

private theorem Writes.tell (keeps : host.Keeps written) {errand last : Errand} {message : Message}
    {engine : Engine} {outside after : Outside} (pending : errand.isDone = false)
    (further : Writes written (errand.tell message).1
      ((perform host engine (errand.tell message).2).run outside).2 last after) :
    Writes written errand outside last after := by
  obtain ⟨messages, same, lines⟩ := further
  have performed : written ((perform host engine (errand.tell message).2).run outside).2 =
      written outside ++ (errand.tell message).2.lines.map .remark :=
    written_forM keeps.remark _ outside
  refine ⟨message :: messages, ?_⟩
  rw [Errand.follow_cons pending]
  refine ⟨same, ?_⟩
  rw [lines, performed, List.append_assoc, ← List.map_append]
  rfl

/-- The loop writes the lines of the errand that it follows. -/
theorem Follows.writes (keeps : host.Keeps written) {client : Client} {errand last : Errand}
    {engine : Engine} {outside after : Outside}
    (follows : Follows host client errand engine outside last after) :
    Writes written errand outside last after := by
  induction follows with
  | stop => exact ⟨[], rfl, (List.append_nil _).symm⟩
  | gone awaited => exact ⟨[], rfl, (keeps.awaited awaited).trans (List.append_nil _).symm⟩
  | receive pending delivered further ih => exact .tell keeps pending ih
  | wait pending awaited further ih =>
    obtain ⟨messages, same, lines⟩ := Writes.tell keeps pending ih
    exact ⟨messages, same, keeps.awaited awaited ▸ lines⟩
  | undergo awaited further ih =>
    obtain ⟨messages, same, lines⟩ := ih
    exact ⟨messages, same, keeps.awaited awaited ▸ lines⟩

/-- The program writes the lines of an errand, and comes to its view. -/
theorem carryOut_writes (keeps : host.Keeps written) (client : Client) (settings : PollSettings)
    (route : Route) (goal : Goal) (outside : Outside) :
    ∃ messages, ((carryOut host client settings route goal).run outside).1 =
        (Errand.run settings route goal messages).1.view ∧
      written ((carryOut host client settings route goal).run outside).2 =
        written outside ++ (Errand.run settings route goal messages).2.lines.map .remark := by
  have opened := written_forM keeps.remark (Errand.start settings route goal).2.lines outside
  have follows := follow_follows host client host.patience (Errand.start settings route goal).1
    (Engine.idle.issue (Errand.start settings route goal).2.commands).serveAll
    (((Errand.start settings route goal).2.lines.forM host.remark).run outside).2
  have carried : (carryOut host client settings route goal).run outside =
      let ended := (follow host client host.patience (Errand.start settings route goal).1
        (Engine.idle.issue (Errand.start settings route goal).2.commands).serveAll).run
        (((Errand.start settings route goal).2.lines.forM host.remark).run outside).2
      (ended.1.finish.1.view, ((ended.1.finish.2.lines.forM host.remark).run ended.2).2) := rfl
  rw [carried]
  generalize (follow host client host.patience _ _).run _ = ended at follows
  obtain ⟨messages, same, lines⟩ := follows.writes keeps
  refine ⟨messages, ?_, ?_⟩
  · rw [Errand.view_run, ← same]
    rfl
  · have closed := written_forM keeps.remark ended.1.finish.2.lines ended.2
    have run : (Errand.run settings route goal messages).2.lines =
        (Errand.start settings route goal).2.lines ++
          ((Errand.start settings route goal).1.follow messages).2.lines ++
          ended.1.finish.2.lines := by
      rw [same]
      rfl
    rw [closed, lines, opened, run, List.map_append, List.map_append, List.append_assoc,
      List.append_assoc, List.append_assoc]

/-- A report is printed with its results first. -/
theorem print_writes (keeps : host.Keeps written) (report : Report) (outside : Outside) :
    ((print host report).run outside).1 = report.success ∧
      written ((print host report).run outside).2 =
        written outside ++ (report.results.map .result ++ report.remarks.map .remark) := by
  have results := written_forM keeps.result report.results outside
  have remarks := written_forM keeps.remark report.remarks
    ((report.results.forM host.result).run outside).2
  rw [results, List.append_assoc] at remarks
  exact ⟨rfl, remarks⟩

end Program

end ScanWatch
