import ScanWatch.CommandLine.Reading
import ScanWatch.Proofs.Except

namespace ScanWatch

/-- Options with what the environment says for those that are not given. -/
def Options.within (given : Options) (environment : Environment) : Options :=
  { given with
    baseUrl := given.baseUrl.or environment.baseUrl
    config := given.config.or environment.config }

namespace CommandLine

variable {arguments : List String} {environment : Environment} {given options : Options}

private theorem path?_eq {value path : String} (read : path? value = .ok path) : path = value := by
  unfold path? at read
  split at read
  · cases read
  · exact (Except.ok.inj read).symm

private theorem withEnvironment_eq (read : withEnvironment given environment = .ok options) :
    options = given.within environment := by
  unfold withEnvironment at read
  split at read
  · next path missing named =>
    obtain ⟨same, checked, rest⟩ := bind_eq_ok.mp read
    obtain rfl := path?_eq checked
    rw [← Except.ok.inj rest, Options.within, missing, named, Option.none_or]
  · next unnamed =>
    have kept : given.config.or environment.config = given.config := by
      cases config : given.config with
      | some path => rfl
      | none =>
        cases named : environment.config with
        | none => rfl
        | some path => exact absurd named (unnamed path config)
    rw [← Except.ok.inj read, Options.within, kept]

private theorem withEnvironment_empty (given : Options) : withEnvironment given {} = .ok given := by
  obtain ⟨route, baseUrl, config, compile, submit, taint, backend, pageSize, logFile, verbose⟩ :=
    given
  cases config <;> simp [withEnvironment, pure, Except.pure]

private theorem checkGoals_within (given : Options) (environment : Environment) :
    checkGoals (given.within environment) =
      (checkGoals given).map (Options.within · environment) := by
  by_cases several : 1 < [given.compile.isSome, given.submit.isSome, given.backend].count true <;>
    simp only [checkGoals, Options.within, several, ↓reduceIte, Except.map]

/-- Accepted options are those that the arguments give by themselves, and what the environment says
for the others. -/
theorem parse_eq (accepted : parse arguments environment = .ok options) :
    ∃ given, parse arguments {} = .ok given ∧ options = given.within environment := by
  simp only [parse, bind_eq_ok] at accepted
  obtain ⟨begun, read, progress, settled, whole, completed, checked⟩ := accepted
  obtain rfl := withEnvironment_eq completed
  rw [checkGoals_within] at checked
  obtain ⟨given, asked, rfl⟩ := map_eq_ok.mp checked
  refine ⟨given, ?_, rfl⟩
  simp only [parse, bind_eq_ok]
  exact ⟨begun, read, progress, settled, _, withEnvironment_empty _, asked⟩

end CommandLine

end ScanWatch
