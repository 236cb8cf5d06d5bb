import ScanWatch.Proofs.Json.Reading
import ScanWatch.Service.Client

namespace ScanWatch.Client

open Json

/-- A text that says of a query what to do with it, its text and its taint, and nothing else. -/
structure Tells (method rawQuery : String) (taint : Option String) (body : String) : Prop where
  /-- Each member stands in the text once. -/
  written : Tree.parse? body = some (.object [(some "method", .string (some method)),
    (some "raw_yara", .string (some rawQuery)),
    (some "taint", (taint.map fun text => .string (some text)).getD .null)])
  denoted : parse? body = some (.object [("method", .string method), ("raw_yara", .string rawQuery),
    ("taint", (taint.map Json.string).getD .null)])

variable {method rawQuery : String} {taint : Option String}

private theorem queryBody_readable (method rawQuery : String) (taint : Option String) :
    Readable (queryBody method rawQuery taint) := by
  have first : Text.Before "method" "raw_yara" := by decide
  have second : Text.Before "method" "taint" := by decide
  have third : Text.Before "raw_yara" "taint" := by decide
  have limit : 1 ≤ Tree.nestingLimit := by decide
  cases taint with
  | none => exact ⟨by simp [queryBody, first, second, third], by simp [queryBody], limit⟩
  | some text => exact ⟨by simp [queryBody, first, second, third], by simp [queryBody], limit⟩

private theorem tells_queryBody (method rawQuery : String) (taint : Option String) :
    Tells method rawQuery taint (queryBody method rawQuery taint).compact := by
  have readable := queryBody_readable method rawQuery taint
  have written := readable.integral.parse?_compact_tree
  refine ⟨?_, readable.parse?_compact⟩
  rw [written]
  cases taint <;> rfl

private theorem taint_injective :
    Function.Injective fun taint : Option String => (taint.map Json.string).getD .null := by
  intro left right same
  cases left with
  | none =>
    cases right with
    | none => rfl
    | some text => cases same
  | some text =>
    cases right with
    | none => cases same
    | some other => exact congrArg some (Json.string.inj same)

/-- A query is known by what its body says. -/
theorem Tells.unique {body otherMethod otherText : String} {otherTaint : Option String}
    (tells : Tells method rawQuery taint body)
    (too : Tells otherMethod otherText otherTaint body) :
    otherMethod = method ∧ otherText = rawQuery ∧ otherTaint = taint := by
  have same := too.denoted.symm.trans tells.denoted
  simp only [Option.some.injEq, Json.object.injEq, List.cons.injEq, Prod.mk.injEq,
    Json.string.injEq, true_and, and_true] at same
  obtain ⟨methods, texts, taints⟩ := same
  exact ⟨methods, texts, taint_injective taints⟩

private theorem tells_of_body {client : Client} {request : Request} {body : String}
    (sent : (client.send request).body = some body) :
    (∃ rawQuery taint, request = .compile rawQuery taint ∧ Tells "parse" rawQuery taint body) ∨
      ∃ rawQuery taint, request = .submit rawQuery taint ∧ Tells "query" rawQuery taint body := by
  cases request with
  | compile rawQuery taint =>
    obtain rfl := Option.some.inj sent
    exact .inl ⟨rawQuery, taint, rfl, tells_queryBody "parse" rawQuery taint⟩
  | submit rawQuery taint =>
    obtain rfl := Option.some.inj sent
    exact .inr ⟨rawQuery, taint, rfl, tells_queryBody "query" rawQuery taint⟩
  | datasets => cases sent
  | jobQuery hash => cases sent
  | page ticket offset limit => cases sent
  | backendStatus => cases sent

/-- A query that is compiled or submitted goes into the body alone, which tells it and nothing else.
No other request of any client has this body. -/
theorem query_stays_in_body (client : Client) (rawQuery : String) (taint : Option String) :
    ∃ compiled submitted,
      client.send (.compile rawQuery taint) = ⟨.post, client.base.below ["query"], some compiled⟩ ∧
      client.send (.submit rawQuery taint) = ⟨.post, client.base.below ["query"], some submitted⟩ ∧
      Tells "parse" rawQuery taint compiled ∧ Tells "query" rawQuery taint submitted ∧
      ∀ (other : Client) (request : Request),
        ((other.send request).body = some compiled → request = .compile rawQuery taint) ∧
        ((other.send request).body = some submitted → request = .submit rawQuery taint) := by
  have parsed := tells_queryBody "parse" rawQuery taint
  have queried := tells_queryBody "query" rawQuery taint
  refine ⟨_, _, rfl, rfl, parsed, queried, ?_⟩
  intro other request
  constructor
  · intro sent
    rcases tells_of_body sent with ⟨text, restricted, rfl, tells⟩ | ⟨text, restricted, rfl, tells⟩
    · obtain ⟨-, rfl, rfl⟩ := parsed.unique tells
      rfl
    · exact absurd (parsed.unique tells).1 (by decide)
  · intro sent
    rcases tells_of_body sent with ⟨text, restricted, rfl, tells⟩ | ⟨text, restricted, rfl, tells⟩
    · exact absurd (queried.unique tells).1 (by decide)
    · obtain ⟨-, rfl, rfl⟩ := queried.unique tells
      rfl

/-- A text that looks like the end of its own member, and a taint that looks like none. -/
example : (queryBody "query" "\",\"taint\":null\x7d\n\\" (some "null")).compact =
    "\x7b\"method\":\"query\",\"raw_yara\":\"\\\",\\\"taint\\\":null\x7d\\n\\\\\"," ++
      "\"taint\":\"null\"\x7d" := by
  decide

end ScanWatch.Client
