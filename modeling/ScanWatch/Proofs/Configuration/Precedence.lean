import ScanWatch.Configuration.Basic

namespace ScanWatch.Configuration

/-- The value that names lead to, from record to record. -/
def Written.at? : List String → Written → Option Written
  | [], value => some value
  | name :: path, .record fields => (fields.lookup name).bind (at? path)
  | _ :: _, .count _ | _ :: _, .text _ => none

/-- What a file, if there is one, gives for the setting that names lead to. -/
def given? {α : Type} (read : Written → Option α) (path : List String) (file : Option Written) :
    Option α :=
  file.bind fun file => (file.at? path).bind read

/-- Address and page size may be given otherwise. They are those of the file where they are not, as
all other settings are, and the default ones where the file has none. Pages that a file asks for
are not empty. -/
structure Decided (baseUrl : Option String) (pageSize : Option UInt64) (file : Option Written)
    (configuration : Configuration) : Prop where
  baseUrl : configuration.client.baseUrl =
    (baseUrl.or (given? text? ["client", "base_url"] file)).getD ClientSettings.default.baseUrl
  connectTimeout : configuration.client.connectTimeoutSecs =
    (given? count? ["client", "connect_timeout_secs"] file).getD
      ClientSettings.default.connectTimeoutSecs
  requestTimeout : configuration.client.requestTimeoutSecs =
    (given? count? ["client", "request_timeout_secs"] file).getD
      ClientSettings.default.requestTimeoutSecs
  maxBytes : configuration.client.maxBytes =
    (given? count? ["client", "max_bytes"] file).getD ClientSettings.default.maxBytes
  pageSize : configuration.poll.pageSize =
    (pageSize.or (given? count? ["poll", "page_size"] file)).getD PollSettings.default.pageSize
  shortDelay : configuration.poll.shortDelay =
    (given? count? ["poll", "short_delay_ms"] file).getD PollSettings.default.shortDelay
  longDelay : configuration.poll.longDelay =
    (given? count? ["poll", "long_delay_ms"] file).getD PollSettings.default.longDelay
  unempty : ∀ size, given? count? ["poll", "page_size"] file = some size → 1 ≤ size

section Fields

variable {α : Type} {fields : List (String × Written)} {name : String} {default value : α}
  {read : Written → Option α}

private theorem at?_name (fields : List (String × Written)) (name : String) :
    (Written.record fields).at? [name] = fields.lookup name :=
  Option.bind_fun_some _

private theorem lookup_eq_filter (fields : List (String × Written)) (name : String) :
    fields.lookup name = ((fields.filter fun field => field.1 = name).head?).map Prod.snd := by
  induction fields with
  | nil => rfl
  | cons field rest ih =>
    rw [List.lookup_cons]
    by_cases same : field.1 = name
    · simp [same]
    · simp [same, ih, Ne.symm same, beq_false_of_ne]

private theorem of_field? (found : field? fields name default read = some value) :
    fields.lookup name = none ∧ value = default ∨
      ∃ written, fields.lookup name = some written ∧ read written = some value := by
  rw [lookup_eq_filter]
  unfold field? at found
  split at found
  · next missing => exact .inl ⟨by rw [missing]; rfl, (Option.some.inj found).symm⟩
  · next written given => exact .inr ⟨written, by rw [given]; rfl, found⟩
  · cases found

private theorem field?_eq (found : field? fields name default read = some value) :
    value = (((Written.record fields).at? [name]).bind read).getD default := by
  rw [at?_name]
  rcases of_field? found with ⟨missing, rfl⟩ | ⟨written, given, readable⟩
  · rw [missing]
    rfl
  · rw [given, Option.bind_some, readable]
    rfl

private theorem of_fields? {value : Written} (read : fields? value = some fields) :
    value = .record fields := by
  cases value with
  | record others => rw [Option.some.inj read]
  | count | text => cases read

private theorem section_eq {Section : Type} {label : String} {standard contents : Section}
    {readSection : Written → Option Section}
    (found : field? fields label standard readSection = some contents) (setting : Section → α)
    (reads : ∀ value contents, readSection value = some contents →
      setting contents = ((value.at? [name]).bind read).getD (setting standard)) :
    setting contents =
      (given? read [label, name] (some (.record fields))).getD (setting standard) := by
  have reached : given? read [label, name] (some (.record fields)) =
      ((fields.lookup label).bind (Written.at? [name])).bind read := rfl
  rw [reached]
  rcases of_field? found with ⟨missing, rfl⟩ | ⟨written, given, readable⟩
  · rw [missing]
    rfl
  · rw [given, Option.bind_some]
    exact reads written contents readable

end Fields

private theorem clientSettings?_eq {value : Written} {client : ClientSettings}
    (read : clientSettings? value = some client) :
    client.baseUrl = ((value.at? ["base_url"]).bind text?).getD ClientSettings.default.baseUrl ∧
      client.connectTimeoutSecs = ((value.at? ["connect_timeout_secs"]).bind count?).getD
        ClientSettings.default.connectTimeoutSecs ∧
      client.requestTimeoutSecs = ((value.at? ["request_timeout_secs"]).bind count?).getD
        ClientSettings.default.requestTimeoutSecs ∧
      client.maxBytes =
        ((value.at? ["max_bytes"]).bind count?).getD ClientSettings.default.maxBytes := by
  simp only [clientSettings?, Option.bind_eq_bind, Option.bind_eq_some_iff, Option.pure_def,
    Option.some.injEq] at read
  obtain ⟨fields, record, baseUrl, addressed, connect, connected, request, requested, most, limited,
    rfl⟩ := read
  obtain rfl := of_fields? record
  exact ⟨field?_eq addressed, field?_eq connected, field?_eq requested, field?_eq limited⟩

private theorem pollSettings?_eq {value : Written} {poll : PollSettings}
    (read : pollSettings? value = some poll) :
    poll.pageSize = ((value.at? ["page_size"]).bind count?).getD PollSettings.default.pageSize ∧
      poll.shortDelay =
        ((value.at? ["short_delay_ms"]).bind count?).getD PollSettings.default.shortDelay ∧
      poll.longDelay =
        ((value.at? ["long_delay_ms"]).bind count?).getD PollSettings.default.longDelay := by
  simp only [pollSettings?, Option.bind_eq_bind, Option.bind_eq_some_iff, Option.pure_def,
    Option.some.injEq] at read
  obtain ⟨fields, record, size, sized, short, shortened, long, lengthened, rfl⟩ := read
  obtain rfl := of_fields? record
  exact ⟨field?_eq sized, field?_eq shortened, field?_eq lengthened⟩

variable {configuration : Configuration} {file : Written}

private theorem ofWritten?_decided (read : ofWritten? file = some configuration)
    (paged : configuration.poll.pageSize ≠ 0) : Decided none none (some file) configuration := by
  simp only [ofWritten?, Option.bind_eq_bind, Option.bind_eq_some_iff, Option.pure_def,
    Option.some.injEq] at read
  obtain ⟨fields, record, client, clientFound, poll, pollFound, rfl⟩ := read
  obtain rfl := of_fields? record
  have pageSize := section_eq pollFound PollSettings.pageSize
    fun _ _ read => (pollSettings?_eq read).1
  exact
    { baseUrl := section_eq clientFound ClientSettings.baseUrl
        fun _ _ read => (clientSettings?_eq read).1
      connectTimeout := section_eq clientFound ClientSettings.connectTimeoutSecs
        fun _ _ read => (clientSettings?_eq read).2.1
      requestTimeout := section_eq clientFound ClientSettings.requestTimeoutSecs
        fun _ _ read => (clientSettings?_eq read).2.2.1
      maxBytes := section_eq clientFound ClientSettings.maxBytes
        fun _ _ read => (clientSettings?_eq read).2.2.2
      pageSize
      shortDelay := section_eq pollFound PollSettings.shortDelay
        fun _ _ read => (pollSettings?_eq read).2.1
      longDelay := section_eq pollFound PollSettings.longDelay
        fun _ _ read => (pollSettings?_eq read).2.2
      unempty := by
        intro size given
        rw [given] at pageSize
        have same : poll.pageSize = size := pageSize
        have nonzero : size ≠ 0 := same ▸ paged
        grind }

/-- A file that is accepted decides all settings. -/
theorem parse_decided {text : String} (parsed : parse text = .ok configuration) :
    ∃ file, Written.parse? take? text = some file ∧
      Decided none none (some file) configuration := by
  unfold parse at parsed
  split at parsed
  · cases parsed
  · next whole read =>
    split at parsed
    · cases parsed
    · next paged =>
      obtain rfl := Except.ok.inj parsed
      obtain ⟨file, written, holds⟩ := Option.bind_eq_some_iff.mp read
      exact ⟨file, written, ofWritten?_decided holds paged⟩

theorem default_decided : Decided none none none default := by
  constructor <;> first | rfl | nofun

variable {file : Option Written}

/-- Options go before the file; empty pages are raised to one match. -/
theorem Decided.withOptions (decided : Decided none none file configuration) (options : Options) :
    Decided options.baseUrl (options.pageSize.map (max · 1)) file
      (configuration.withOptions options) where
  baseUrl := by
    rw [Option.getD_or]
    exact congrArg options.baseUrl.getD decided.baseUrl
  connectTimeout := decided.connectTimeout
  requestTimeout := decided.requestTimeout
  maxBytes := decided.maxBytes
  pageSize := by
    rw [Option.getD_or]
    exact congrArg (options.pageSize.map (max · 1)).getD decided.pageSize
  shortDelay := decided.shortDelay
  longDelay := decided.longDelay
  unempty := decided.unempty

theorem Decided.pageSize_pos {baseUrl : Option String} {pageSize : Option UInt64}
    (decided : Decided baseUrl (pageSize.map (max · 1)) file configuration) :
    1 ≤ configuration.poll.pageSize := by
  rw [decided.pageSize]
  cases pageSize with
  | some size => exact (PollSettings.mk size 0 0).pageSize_raised
  | none =>
    cases given : given? count? ["poll", "page_size"] file with
    | some size => exact decided.unempty size given
    | none => decide

end ScanWatch.Configuration
