import ScanWatch.Program
import ScanWatch.Proofs.CommandLine.Environment
import ScanWatch.Proofs.Configuration.Precedence
import ScanWatch.Proofs.Session.Settings

namespace ScanWatch

variable {Outside : Type} {host : Host (StateM Outside)} {outside : Outside}

/-- What is written in the configuration file that a host has, if one is named. -/
inductive Host.Finds (host : Host (StateM Outside)) (outside : Outside) :
    Option String → Option Configuration.Written → Prop
  | unnamed : Finds host outside none none
  | named {path text : String} {file : Configuration.Written}
      (readable : ((host.readText path).run outside).1 = some text)
      (written : Configuration.Written.parse? Configuration.take? text = some file) :
      Finds host outside (some path) (some file)

namespace Program

variable {options : Options} {configuration : Configuration}

private theorem loadConfiguration_unnamed (unnamed : options.config = none) :
    ((loadConfiguration host options).run.run outside).1 = .ok default := by
  rw [loadConfiguration, unnamed]
  rfl

theorem run_liftM_bind {ε α β : Type} (action : StateM Outside α)
    (next : α → ExceptT ε (StateM Outside) β) (outside : Outside) :
    ((liftM action >>= next : ExceptT ε (StateM Outside) β).run.run outside) =
      (next (action.run outside).1).run.run (action.run outside).2 := rfl

private theorem loadConfiguration_named {path : String} (named : options.config = some path) :
    ((loadConfiguration host options).run.run outside).1 =
      ((host.readText path).run outside).1.elim (.error (.configuration path .unreadable))
        fun text => (Configuration.parse text).mapError (.configuration path) := by
  simp only [loadConfiguration, named, run_liftM_bind]
  cases ((host.readText path).run outside).1 with
  | none => rfl
  | some text =>
    simp only [Option.elim]
    cases Configuration.parse text <;> rfl

/-- A configuration that is loaded is that of the file, if one is named, and the default one
otherwise. -/
theorem loaded_decided
    (loaded : ((loadConfiguration host options).run.run outside).1 = .ok configuration) :
    ∃ file, host.Finds outside options.config file ∧
      configuration.Decided none none file := by
  cases config : options.config with
  | none =>
    rw [loadConfiguration_unnamed config] at loaded
    obtain rfl := Except.ok.inj loaded
    exact ⟨none, .unnamed, Configuration.default_decided⟩
  | some path =>
    rw [loadConfiguration_named config] at loaded
    cases readable : ((host.readText path).run outside).1 with
    | none =>
      rw [readable] at loaded
      cases loaded
    | some text =>
      rw [readable] at loaded
      obtain ⟨file, written, decided⟩ := Configuration.parse_decided (mapError_eq_ok.mp loaded)
      exact ⟨some file, .named readable written, decided⟩

/-- An accepted command line and a configuration that can be loaded decide all settings: the address
is that of the option, else of the environment, else of the file; the page size is that of the
option, raised to one match, else of the file. A session keeps the settings of polling that it is
given, whatever it is told, and all its commands use them. -/
theorem configured_settings_are_used {arguments : List String} {environment : Environment}
    (accepted : CommandLine.parse arguments environment = .ok options)
    (loaded : ((loadConfiguration host options).run.run outside).1 = .ok configuration) :
    ∃ given file, CommandLine.parse arguments {} = .ok given ∧
      host.Finds outside (given.config.or environment.config) file ∧
      (configuration.withOptions options).Decided (given.baseUrl.or environment.baseUrl)
        (given.pageSize.map (max · 1)) file ∧
      ∀ messages,
        ((Session.new (configuration.withOptions options).poll).after messages).tracker.settings =
          (configuration.withOptions options).poll ∧
        ∀ message,
          ∀ command ∈ (((Session.new (configuration.withOptions options).poll).after
            messages).dispatch message).reaction.commands,
            command.Heeds (configuration.withOptions options).poll message := by
  obtain ⟨given, parsed, rfl⟩ := CommandLine.parse_eq accepted
  obtain ⟨file, found, decided⟩ := loaded_decided loaded
  have final := decided.withOptions (given.within environment)
  have paged := final.pageSize_pos
  refine ⟨given, file, parsed, found, final, fun messages => ⟨?_, fun message command issued => ?_⟩⟩
  · exact Session.settings_after paged messages
  · exact Session.heeds_after paged messages issued

def filedHost (text : String) : Host (StateM Unit) where
  readText _ := pure (some text)
  createFile _ := pure (.ok ())
  await _ _ := pure none
  result _ := pure ()
  remark _ := pure ()
  patience := 0

/-- A configuration file that leaves some settings to the defaults. -/
def partialText : String :=
  "(client: (max_bytes: 60), poll: (page_size: 2, long_delay_ms: 1))"

def emptyPaging : List String :=
  ["--page-size", "0", "--config", "c.ron"]

def emptyPagingOptions : Options :=
  { baseUrl := some "http://env/api", config := some "c.ron", pageSize := some 0 }

theorem configured_settings_are_used_emptyPaging :
    CommandLine.parse emptyPaging ⟨some "http://env/api", none⟩ = .ok emptyPagingOptions ∧
      ((loadConfiguration (filedHost partialText) emptyPagingOptions).run.run ()).1 =
        .ok ⟨⟨"http://localhost/api", 10, 30, 60⟩, ⟨2, 50, 1⟩⟩ ∧
      ∃ given file, CommandLine.parse emptyPaging {} = .ok given ∧
        (filedHost partialText).Finds () (given.config.or none) file ∧
        Configuration.Decided (given.baseUrl.or (some "http://env/api"))
          (given.pageSize.map (max · 1)) file ⟨⟨"http://env/api", 10, 30, 60⟩, ⟨1, 50, 1⟩⟩ ∧
        ∀ messages,
          ((Session.new ⟨1, 50, 1⟩).after messages).tracker.settings = ⟨1, 50, 1⟩ ∧
          ∀ message,
            ∀ command ∈ (((Session.new ⟨1, 50, 1⟩).after
              messages).dispatch message).reaction.commands,
              command.Heeds ⟨1, 50, 1⟩ message := by
  have accepted : CommandLine.parse emptyPaging ⟨some "http://env/api", none⟩ =
      .ok emptyPagingOptions := rfl
  have parsed : (Configuration.parse partialText).toOption =
      some ⟨⟨"http://localhost/api", 10, 30, 60⟩, ⟨2, 50, 1⟩⟩ := by decide +kernel
  have loaded : ((loadConfiguration (filedHost partialText) emptyPagingOptions).run.run ()).1 =
      .ok ⟨⟨"http://localhost/api", 10, 30, 60⟩, ⟨2, 50, 1⟩⟩ := by
    rw [loadConfiguration_named rfl]
    change (Configuration.parse partialText).mapError _ = _
    cases read : Configuration.parse partialText with
    | error error =>
      rw [read] at parsed
      cases parsed
    | ok configuration =>
      rw [read] at parsed
      rw [Option.some.inj parsed]
      rfl
  exact ⟨accepted, loaded, configured_settings_are_used accepted loaded⟩

end Program

end ScanWatch
