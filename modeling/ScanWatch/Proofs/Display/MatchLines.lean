import Mathlib.Data.List.Forall2
import ScanWatch.Proofs.Errand.Outcome
import ScanWatch.Proofs.Json.Reading

namespace ScanWatch

namespace Text

def printed (lines : List String) : String :=
  String.ofList (lines.flatMap fun line => line.toList ++ ['\n'])

/-- The lines of a printed text. What stands behind the last line break is none. -/
def linesOf (text : String) : List String :=
  ((text.toList.splitOn '\n').dropLast).map String.ofList

private theorem linesOf_printed {lines : List String}
    (single : ∀ line ∈ lines, '\n' ∉ line.toList) :
    linesOf (printed lines) = lines := by
  rw [linesOf, printed, String.toList_ofList]
  induction lines with
  | nil => rfl
  | cons line rest ih =>
    obtain ⟨first, later⟩ := List.forall_mem_cons.mp single
    rw [List.flatMap_cons, List.append_assoc, List.singleton_append,
      List.splitOn_append_cons_self_of_not_mem first,
      List.dropLast_cons_of_ne_nil (List.splitOn_ne_nil _ _), List.map_cons, ih later,
      String.ofList_toList]

end Text

open Json Text

private theorem matchLines_inLine (found : List Match) :
    ∀ line ∈ matchLines found, InLine line.toList := by
  intro line member
  obtain ⟨item, _, rfl⟩ := List.mem_map.mp member
  rw [compact, String.toList_ofList]
  exact item.inLine_toChars

private theorem linesOf_matchLines (found : List Match) :
    linesOf (printed (matchLines found)) = matchLines found :=
  linesOf_printed fun line member => (matchLines_inLine found line member).newline_not_mem

private theorem parse?_matchLines {found : List Match} (readable : ∀ item ∈ found, Readable item) :
    List.Forall₂ (fun item line => parse? line = some item) found (matchLines found) := by
  rw [matchLines, List.forall₂_map_right_iff, List.forall₂_same]
  intro item member
  exact (readable item member).parse?_compact

private theorem Report.results_ofJob {view : View}
    (unrefused : view.jobHash = none → view.queryError = none) :
    (Report.ofJob view).results = matchLines view.found := by
  have matched : (Report.ofMatches view).results = matchLines view.found := by
    rw [ofMatches]
    split <;> rfl
  rw [ofJob]
  split
  · next error unopened refused =>
    rw [unrefused unopened] at refused
    cases refused
  · exact matched

/-- What is printed of matches tells them: each is read back from its line, and other matches are
printed otherwise. A goal that follows a job prints just this, unless its query was refused. -/
theorem matches_read_back {found : List Match} (readable : ∀ item ∈ found, Readable item) :
    List.Forall₂ (fun item line => parse? line = some item) found (matchLines found) ∧
      (∀ line ∈ matchLines found, InLine line.toList) ∧
      (linesOf (printed (matchLines found))).mapM parse? = some found ∧
      (∀ other : List Match, (∀ item ∈ other, Readable item) →
        printed (matchLines other) = printed (matchLines found) → other = found) ∧
      ∀ (goal : Goal) (view : View), goal.isFollowing = true → view.found = found →
        (view.jobHash = none → view.queryError = none) →
        (goal.report view).results = matchLines found := by
  have whole : ∀ {items : List Match}, (∀ item ∈ items, Readable item) →
      (linesOf (printed (matchLines items))).mapM parse? = some items := by
    intro items each
    rw [linesOf_matchLines]
    exact mapM_parse?_compact each
  refine ⟨parse?_matchLines readable, matchLines_inLine found, whole readable, ?_, ?_⟩
  · intro other each same
    have read := whole each
    rw [same, whole readable] at read
    exact (Option.some.inj read).symm
  · rintro goal view following rfl unrefused
    rw [Goal.report_of_isFollowing following]
    exact Report.results_ofJob unrefused

/-- Marks that have to be escaped, the least and the greatest integer, and a break in a name. -/
def trickyMatches : List Match :=
  [.object [("a\n", .array [.number (.integer (-9223372036854775808)),
      .number (.integer 18446744073709551615)]), ("b", .string "\"\\\x01é\r")],
    .string "null", .null]

private theorem trickyMatches_readable : ∀ item ∈ trickyMatches, Readable item := by
  have ordered : Text.Before "a\n" "b" := by decide
  have least : Number.inIntegerRange (-9223372036854775808) = true := by decide
  have greatest : Number.inIntegerRange 18446744073709551615 = true := by decide
  have orderly : ∀ item ∈ trickyMatches, item.Orderly := by simp [trickyMatches, ordered]
  have integral : ∀ item ∈ trickyMatches, item.Integral := by
    simp [trickyMatches, least, greatest]
  have shallow : ∀ item ∈ trickyMatches, (Tree.ofJson item).depth ≤ Tree.nestingLimit := by
    decide
  exact fun item member => ⟨orderly item member, integral item member, shallow item member⟩

theorem matches_read_back_tricky :
    (∀ item ∈ trickyMatches, Readable item) ∧
      matchLines trickyMatches =
        ["\x7b\"a\\n\":[-9223372036854775808,18446744073709551615]," ++
            "\"b\":\"\\\"\\\\\\u0001é\\r\"\x7d",
          "\"null\"", "null"] ∧
      (linesOf (printed (matchLines trickyMatches))).mapM parse? = some trickyMatches := by
  refine ⟨trickyMatches_readable, by decide, ?_⟩
  exact (matches_read_back trickyMatches_readable).2.2.1

end ScanWatch
