import ScanWatch.Display.BackendTable
import ScanWatch.Display.MatchLines
import ScanWatch.Goal

namespace ScanWatch

/-- Results to print, remarks to print beside them, and the verdict. -/
structure Report where
  results : List String
  remarks : List String
  success : Bool
deriving DecidableEq, Repr

namespace Report

def failure (error : String) : Report :=
  ⟨[], ["error: " ++ error], false⟩

def ofPlan (view : View) : Report :=
  match view.queryPlan, view.queryError with
  | some plan, _ => ⟨[plan.spread], [], true⟩
  | none, some error => failure error
  | none, none => ⟨[], [], false⟩

def locationRemark (hash : JobHash) : String :=
  "location: " ++ (Route.job hash).path

/-- The matches are printed also when polling came to an early end. -/
def ofMatches (view : View) : Report :=
  let location := (view.jobHash.map locationRemark).toList
  let results := matchLines view.found
  match view.poll with
  | .stalled reason =>
    ⟨results, location ++ ["error: polling stopped early: " ++ reason], false⟩
  | _ => ⟨results, location, true⟩

/-- A query that was refused has no job. -/
def ofJob (view : View) : Report :=
  match view.jobHash, view.queryError with
  | none, some error => failure error
  | _, _ => ofMatches view

def ofBackend (view : View) : Report :=
  match view.backendError with
  | some error => failure error
  | none =>
    let state := if view.alive.getD false then "alive" else "down"
    ⟨["database: " ++ state, BackendTable.render view.backendRows], [], true⟩

end Report

def Goal.report (view : View) : Goal → Report
  | browse => ⟨view.availableTaints, [], true⟩
  | watch => .ofJob view
  | compile _ _ => .ofPlan view
  | submit _ _ => .ofJob view
  | backend => .ofBackend view

end ScanWatch
