import ScanWatch.Program

namespace ScanWatch

/-- The goals at a location: a look at the backend is taken anywhere, queries start from the
composer, and without either the location decides. -/
inductive Goal.Fits : Route → Goal → Prop where
  | backend (route : Route) : Fits route .backend
  | compile (rawQuery : String) (taint : Option String) : Fits .compose (.compile rawQuery taint)
  | submit (rawQuery : String) (taint : Option String) : Fits .compose (.submit rawQuery taint)
  | browse : Fits .compose .browse
  | watch (hash : JobHash) : Fits (.job hash) .watch

namespace Program

variable {host : Host Id} {options : Options} {route : Route} {goal : Goal}

private theorem readQuery_asks {path : String} {ask : String → Goal}
    (read : (readQuery host path).run.map ask = .ok goal) : ∃ rawQuery, ask rawQuery = goal := by
  cases answer : (readQuery host path).run with
  | error error =>
    rw [answer] at read
    cases read
  | ok rawQuery =>
    rw [answer] at read
    exact ⟨rawQuery, Except.ok.inj read⟩

theorem goal_fits (chosen : (Program.goal host options route).run = .ok goal) :
    goal.Fits route := by
  obtain ⟨location, baseUrl, config, compile, submit, taint, backend, pageSize, logFile, verbose⟩ :=
    options
  cases backend with
  | true =>
    obtain rfl : Goal.backend = goal := Except.ok.inj chosen
    exact .backend route
  | false =>
    cases route with
    | job hash =>
      cases compile with
      | some path => cases chosen
      | none =>
        cases submit with
        | some path => cases chosen
        | none =>
          obtain rfl : Goal.watch = goal := Except.ok.inj chosen
          exact .watch hash
    | compose =>
      cases compile with
      | some path =>
        simp only [Program.goal, Bool.false_eq_true, ↓reduceIte, Route.hash?, Option.isSome_none,
          Option.isSome_some, Bool.true_or, Bool.and_true, bind_pure_comp,
          ExceptT.run_map] at chosen
        obtain ⟨rawQuery, rfl⟩ := readQuery_asks chosen
        exact .compile rawQuery taint
      | none =>
        cases submit with
        | some path =>
          simp only [Program.goal, Bool.false_eq_true, ↓reduceIte, Route.hash?, Option.isSome_none,
            Option.isSome_some, Bool.or_true, Bool.and_true, bind_pure_comp,
            ExceptT.run_map] at chosen
          obtain ⟨rawQuery, rfl⟩ := readQuery_asks chosen
          exact .submit rawQuery taint
        | none =>
          obtain rfl : Goal.browse = goal := Except.ok.inj chosen
          exact .browse

def quietHost (text : String) : Host Id where
  readText _ := some text
  createFile _ := .ok ()
  await _ _ := none
  result _ := ()
  remark _ := ()
  patience := 0

/-- The goals that can be chosen are exactly those that fit the location. -/
theorem goal_chosen_iff : (∃ (host : Host Id) (options : Options),
    (Program.goal host options route).run = .ok goal) ↔ goal.Fits route := by
  constructor
  · rintro ⟨host, options, chosen⟩
    exact goal_fits chosen
  · intro fits
    cases fits with
    | backend route => exact ⟨quietHost "", { backend := true }, rfl⟩
    | compile rawQuery taint => exact ⟨quietHost rawQuery, { compile := some "", taint }, rfl⟩
    | submit rawQuery taint => exact ⟨quietHost rawQuery, { submit := some "", taint }, rfl⟩
    | browse => exact ⟨quietHost "", {}, rfl⟩
    | watch hash => exact ⟨quietHost "", {}, rfl⟩

end Program

end ScanWatch
