import QueryGroup.Proofs.FileEffects
set_option autoImplicit false

namespace QueryGroup.Command

/-- Something stands at the end of the path. -/
def Entry.IsThere : Entry → Prop
  | .missing _ => False
  | .unreadable _ | .text _ => True

namespace FileSystem

variable {σ : Type} (system : FileSystem σ) (surroundings : Surroundings) (state : σ)

/-- The file that holds the settings, if any: the one that the command line names, or else the
environment; where none is named, the local one or else the user's, if it is there. -/
inductive SettingsFile (given : Option String) : Option String → Prop
  | named {path : String} (named : given.or surroundings.settings = some path) :
      SettingsFile given (some path)
  | here (unnamed : given.or surroundings.settings = none)
      (there : (system.look state "querydef.toml").IsThere) :
      SettingsFile given (some "querydef.toml")
  | user {configuration : String} (unnamed : given.or surroundings.settings = none)
      (absent : ¬ (system.look state "querydef.toml").IsThere)
      (configured : surroundings.configuration = some configuration)
      (there : (system.look state (Command.userSettings configuration)).IsThere) :
      SettingsFile given (some (Command.userSettings configuration))
  | nowhere (unnamed : given.or surroundings.settings = none)
      (absent : ¬ (system.look state "querydef.toml").IsThere)
      (unconfigured : ∀ configuration, surroundings.configuration = some configuration →
        ¬ (system.look state (Command.userSettings configuration)).IsThere) :
      SettingsFile given none

/-- The settings of a run. Without a file they are the defaults. -/
inductive ReadsSettings (given : Option String) : Settings → Prop
  | default (nowhere : system.SettingsFile surroundings state given none) :
      ReadsSettings given {}
  | file {path text : String} {settings : Settings}
      (source : system.SettingsFile surroundings state given (some path))
      (held : system.look state path = .text text)
      (read : surroundings.readers.settings text = .ok settings) :
      ReadsSettings given settings

/-- The options and the report of a run. -/
inductive ReadsInput (given : Option String) (file : String) : Options → Report → Prop
  | read {settings : Settings} {text : String} {report : Report}
      (source : system.ReadsSettings surroundings state given settings)
      (held : system.look state file = .text text)
      (read : surroundings.readers.report file text = .ok report) :
      ReadsInput given file settings.compiler report

/-- Why a run has no options or no report, by the message that tells of it. -/
inductive InputFault (given : Option String) (file : String) : String → Prop
  | settingsMissing {path detail : String}
      (source : system.SettingsFile surroundings state given (some path))
      (missing : system.look state path = .missing detail) :
      InputFault given file ("Settings error: Config file not found: " ++ path)
  | settingsUnreadable {path detail : String}
      (source : system.SettingsFile surroundings state given (some path))
      (unreadable : system.look state path = .unreadable detail) :
      InputFault given file ("Settings error: Failed to read config file: " ++ detail)
  | settingsUnparsable {path text detail : String}
      (source : system.SettingsFile surroundings state given (some path))
      (held : system.look state path = .text text)
      (refused : surroundings.readers.settings text = .error detail) :
      InputFault given file ("Settings error: Failed to parse config file: " ++ detail)
  | fileUnreadable {settings : Settings} {detail : String}
      (source : system.ReadsSettings surroundings state given settings)
      (unreadable : system.look state file = .missing detail ∨
        system.look state file = .unreadable detail) :
      InputFault given file ("Error reading file '" ++ file ++ "': " ++ detail)
  | fileUnparsable {settings : Settings} {text detail : String}
      (source : system.ReadsSettings surroundings state given settings)
      (held : system.look state file = .text text)
      (refused : surroundings.readers.report file text = .error detail) :
      InputFault given file ("Error parsing '" ++ file ++ "': " ++ detail)

/-- The user's settings are those of a file that is there, or the defaults. -/
theorem userSettings_cases :
    (∃ configuration, surroundings.configuration = some configuration ∧
        (system.look state (Command.userSettings configuration)).IsThere ∧
        system.userSettings surroundings state =
          settingsOf surroundings.readers (Command.userSettings configuration)
            (system.look state (Command.userSettings configuration))) ∨
      (∀ configuration, surroundings.configuration = some configuration →
        ¬ (system.look state (Command.userSettings configuration)).IsThere) ∧
        system.userSettings surroundings state = .ok {} := by
  unfold userSettings
  cases surroundings.configuration with
  | none => exact .inr ⟨by simp, rfl⟩
  | some configuration =>
      cases there : system.look state (Command.userSettings configuration) with
      | missing detail => exact .inr ⟨by simp [there, Entry.IsThere], by simp only [there]⟩
      | unreadable | text =>
          exact .inl ⟨configuration, rfl, by simp [there, Entry.IsThere], by simp only [there]⟩

/-- Settings are read from the file that holds them. -/
theorem exists_settingsFile (given : Option String) :
    ∃ source, system.SettingsFile surroundings state given source ∧
      system.settings surroundings state given = source.elim (.ok {}) fun path =>
        settingsOf surroundings.readers path (system.look state path) := by
  unfold settings
  cases named : given.or surroundings.settings with
  | some path => exact ⟨some path, .named named, rfl⟩
  | none =>
      cases there : system.look state "querydef.toml" with
      | missing detail =>
          have absent : ¬ (system.look state "querydef.toml").IsThere := by
            simp [there, Entry.IsThere]
          rcases system.userSettings_cases surroundings state with
            ⟨configuration, configured, found, read⟩ | ⟨unconfigured, read⟩
          · refine ⟨_, .user named absent configured found, ?_⟩
            simpa only [localSettings, there, Option.elim_some] using read
          · refine ⟨_, .nowhere named absent unconfigured, ?_⟩
            simpa only [localSettings, there, Option.elim_none] using read
      | unreadable | text =>
          refine ⟨_, .here named (by simp [there, Entry.IsThere]), ?_⟩
          simp only [localSettings, there, Option.elim_some]

/-- The file that holds the settings, or its lack, decides between settings and a fault. -/
theorem settings_cases (given : Option String) (file : String) :
    (∃ settings, system.ReadsSettings surroundings state given settings ∧
        system.settings surroundings state given = .ok settings) ∨
      ∃ error, system.InputFault surroundings state given file
          ("Settings error: " ++ SettingsError.message error) ∧
        system.settings surroundings state given = .error error := by
  obtain ⟨_ | path, source, read⟩ := system.exists_settingsFile surroundings state given
  · exact .inl ⟨{}, .default source, read⟩
  · rw [read, Option.elim_some]
    cases held : system.look state path with
    | missing detail => exact .inr ⟨.notFound path, .settingsMissing source held, rfl⟩
    | unreadable detail => exact .inr ⟨.unreadable detail, .settingsUnreadable source held, rfl⟩
    | text text =>
        rw [settingsOf]
        cases parsed : surroundings.readers.settings text with
        | error detail =>
            exact .inr ⟨.unparsable detail, .settingsUnparsable source held parsed, rfl⟩
        | ok settings => exact .inl ⟨settings, .file source held parsed, rfl⟩

/-- A run works on what it reads, or it has a fault in what it was to read. -/
theorem input_cases (given : Option String) (file : String) :
    (∃ options report, system.ReadsInput surroundings state given file options report ∧
        system.input surroundings state given file = .ok (options, report)) ∨
      ∃ message, system.InputFault surroundings state given file message ∧
        system.input surroundings state given file = .error message := by
  unfold input
  rcases system.settings_cases surroundings state given file with
    ⟨settings, source, made⟩ | ⟨error, fault, failed⟩
  · rw [made]
    cases held : system.look state file with
    | missing detail => exact .inr ⟨_, .fileUnreadable source (.inl held), rfl⟩
    | unreadable detail => exact .inr ⟨_, .fileUnreadable source (.inr held), rfl⟩
    | text text =>
        rw [reportOf]
        cases parsed : surroundings.readers.report file text with
        | error detail => exact .inr ⟨_, .fileUnparsable source held parsed, rfl⟩
        | ok report => exact .inl ⟨_, _, .read source held parsed, rfl⟩
  · rw [failed]
    exact .inr ⟨_, fault, rfl⟩

end FileSystem

end QueryGroup.Command
