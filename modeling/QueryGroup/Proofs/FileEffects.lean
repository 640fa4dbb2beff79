import QueryGroup.Command.Environment
import QueryGroup.Proofs.AuditTrail
import QueryGroup.Proofs.FileSystems
set_option autoImplicit false

namespace QueryGroup.Command

variable {σ : Type}

/-- The outcome with warnings ahead of its notes. -/
def Outcome.warned (outcome : Outcome) (warnings : String) : Outcome :=
  { outcome with notes := warnings ++ outcome.notes }

theorem Outcome.warned_failed (notes message warnings : String) :
    (failed notes message).warned warnings = failed (warnings ++ notes) message := by
  simp only [warned, failed, String.append_assoc]

/-- The end of a compilation that prints its markup. -/
def printed (log : Log) (options : Options) (report : Report) : Outcome :=
  match (compile options report).result with
  | .error refusal =>
      failed (log.audit (compile options report).records)
        ("Compilation error: " ++ refusal.message)
  | .ok output => ⟨true, output.markup, log.audit (compile options report).records⟩

/-- The end of an action that prints its result, as each does that has no file to write. -/
def shown (log : Log) (options : Options) (report : Report) (file : String) : Action → Outcome
  | .compile _ => printed log options report
  | .layout => runLayout log options report
  | .check => runCheck log options report file

/-- What an action says ahead of a refusal. -/
def Action.heading : Action → String
  | .check => "Validation error: "
  | _ => "Compilation error: "

/-- What an action prints where the queries of a report came to these parts. -/
def Action.text (options : Options) (report : Report) (parts : OrderedMap Query.Part)
    (file : String) : Action → String
  | .compile _ => (Compile.outputOf options report parts).markup
  | .layout => layoutText (Compile.outputOf options report parts).layout
  | .check => "OK: " ++ file ++ " (" ++ toString parts.size ++ " queries)\n"

section

variable (log : Log) {options : Options} {report : Report} (file : String) (action : Action)

/-- Where the queries are refused, so is all that is made of them. -/
theorem shown_of_error {refusal : Query.Refusal}
    (refused : (Compile.queries options report).result = .error refusal) :
    shown log options report file action =
      failed (log.audit (Compile.queries options report).records)
        (action.heading ++ refusal.message) := by
  have compiled : (compile options report).result = .error refusal := by
    rw [Compile.result_compile, refused]
    rfl
  have records := Compile.records_compile_of_error refused
  cases action with
  | compile target =>
      rw [shown, printed, compiled, records]
      rfl
  | layout =>
      rw [shown, runLayout, compiled, records]
      rfl
  | check =>
      rw [shown, runCheck, refused]
      rfl

/-- Where the queries can be made canonical, nothing that is made of them is refused. -/
theorem shown_of_ok {parts : OrderedMap Query.Part}
    (made : (Compile.queries options report).result = .ok parts) :
    ∃ notes, shown log options report file action =
      ⟨true, action.text options report parts file, notes⟩ := by
  have compiled := Compile.result_compile_eq_ok_iff.2 ⟨parts, made, rfl⟩
  cases action with
  | compile target => exact ⟨_, by rw [shown, printed, compiled, Action.text]⟩
  | layout => exact ⟨_, by rw [shown, runLayout, compiled, Action.text]⟩
  | check => exact ⟨_, by rw [shown, runCheck, made, Action.text]⟩

/-- What is at fault is told beside the output, which stays empty. -/
theorem output_of_failed_shown (failure : (shown log options report file action).success = false) :
    (shown log options report file action).output = "" := by
  cases made : (Compile.queries options report).result with
  | error refusal =>
      rw [shown_of_error log file action made]
      rfl
  | ok parts =>
      obtain ⟨notes, ends⟩ := shown_of_ok log file action made
      rw [ends] at failure
      cases failure

end

section

variable {m : Type → Type} [Monad m] (files : Files m) (log : Log) {options : Options}
  {report : Report}

theorem runAction_eq_shown (options : Options) (report : Report) (file : String) {action : Action}
    (alone : ∀ target, action ≠ .compile (some target)) :
    runAction files log options report file action =
      pure (shown log options report file action) := by
  rcases action with ⟨_ | target⟩ | _ | _
  · simp only [runAction, runCompile, shown, printed]
    generalize compile options report = compiled
    rcases compiled with ⟨records, refusal | output⟩ <;> rfl
  · exact absurd rfl (alone target)
  · rfl
  · rfl

theorem runCompile_of_error {refusal : Query.Refusal}
    (refused : (compile options report).result = .error refusal) (target : Option String) :
    runCompile files log options report target = pure (printed log options report) := by
  unfold runCompile printed
  generalize compile options report = compiled at refused
  rcases compiled with ⟨records, result⟩
  cases refused
  rfl

theorem runCompile_of_ok {output : Compile.Output}
    (made : (compile options report).result = .ok output) (target : String) :
    runCompile files log options report (some target) = do
      let notes := (printed log options report).notes
      match ← files.write target (printed log options report).output with
      | .ok () =>
          return ⟨true, "",
            notes ++ log.document output.queries.size output.layout.length target⟩
      | .error detail =>
          return failed notes ("Error writing file '" ++ target ++ "': " ++ detail) := by
  unfold runCompile printed
  generalize compile options report = compiled at made
  rcases compiled with ⟨records, result⟩
  cases made
  rfl

end

namespace FileSystem

variable (system : FileSystem σ) (surroundings : Surroundings) (state : σ)

/-- What a command comes to in a state, and the state that it leaves. -/
def exec (invocation : Invocation) : Outcome × σ :=
  ((answer system.actions surroundings (.invocation invocation)).run state).run

/-- The user's settings in a state, if there are any. -/
def userSettings : Except SettingsError Settings :=
  match surroundings.configuration with
  | none => .ok {}
  | some configuration =>
      match system.look state (Command.userSettings configuration) with
      | .missing _ => .ok {}
      | entry => settingsOf surroundings.readers (Command.userSettings configuration) entry

/-- The settings in a state: those of the file that is given, or else of the first that exists. -/
def settings (given : Option String) : Except SettingsError Settings :=
  match given.or surroundings.settings with
  | some path => settingsOf surroundings.readers path (system.look state path)
  | none =>
      match system.look state localSettings with
      | .missing _ => system.userSettings surroundings state
      | entry => settingsOf surroundings.readers localSettings entry

/-- What a command works on in a state, or the message of what cannot be read or parsed. -/
def input (given : Option String) (file : String) : Except String (Options × Report) := do
  let settings ← (system.settings surroundings state given).mapError fun error =>
    "Settings error: " ++ error.message
  let report ← (reportOf surroundings.readers file (system.look state file)).mapError
    DocumentError.message
  return (settings.compiler, report)

theorem run_loadUserSettings_bind {α : Type} (next : Except SettingsError Settings → StateM σ α) :
    (loadUserSettings system.actions surroundings >>= next).run state =
      (next (system.userSettings surroundings state)).run state := by
  unfold userSettings loadUserSettings
  cases surroundings.configuration with
  | none => rfl
  | some configuration =>
      simp only [bind_assoc, run_look_bind]
      cases system.look state (Command.userSettings configuration) <;> rfl

theorem run_loadSettings_bind {α : Type} (given : Option String)
    (next : Except SettingsError Settings → StateM σ α) :
    (loadSettings system.actions surroundings given >>= next).run state =
      (next (system.settings surroundings state given)).run state := by
  unfold settings loadSettings
  cases given.or surroundings.settings with
  | some path => rfl
  | none =>
      simp only [bind_assoc, run_look_bind]
      cases system.look state localSettings with
      | missing detail => exact system.run_loadUserSettings_bind surroundings state next
      | unreadable detail => rfl
      | text content => rfl

theorem run_run (invocation : Invocation) :
    (run system.actions surroundings invocation).run state =
      match system.input surroundings state invocation.settings invocation.file with
      | .error message => (failed "" message, state)
      | .ok (options, report) =>
          (runAction system.actions surroundings.log options report invocation.file
            invocation.action).run state := by
  unfold run input
  rw [run_loadSettings_bind]
  cases system.settings surroundings state invocation.settings with
  | error error => rfl
  | ok settings =>
      simp only [run_look_bind]
      cases reportOf surroundings.readers invocation.file (system.look state invocation.file) <;>
        rfl

/-- The end of a run that prints its result. -/
def display (given : Option String) (file : String) (action : Action) : Outcome :=
  match system.input surroundings state given file with
  | .error message => (failed "" message).warned surroundings.log.warnings
  | .ok (options, report) =>
      (shown surroundings.log options report file action).warned surroundings.log.warnings

theorem exec_eq (invocation : Invocation) :
    system.exec surroundings state invocation =
      match system.input surroundings state invocation.settings invocation.file with
      | .error message => ((failed "" message).warned surroundings.log.warnings, state)
      | .ok (options, report) =>
          ((runAction system.actions surroundings.log options report invocation.file
            invocation.action).run state).run.map (Outcome.warned · surroundings.log.warnings) id := by
  have ran : system.exec surroundings state invocation =
      ((run system.actions surroundings invocation).run state).run.map
        (Outcome.warned · surroundings.log.warnings) id := rfl
  rw [ran, run_run]
  cases system.input surroundings state invocation.settings invocation.file <;> rfl

theorem exec_eq_display (given : Option String) (file : String) {action : Action}
    (alone : ∀ target, action ≠ .compile (some target)) :
    system.exec surroundings state ⟨given, file, action⟩ =
      (system.display surroundings state given file action, state) := by
  rw [exec_eq, display]
  cases system.input surroundings state given file with
  | error message => rfl
  | ok read =>
      dsimp only
      rw [runAction_eq_shown _ _ _ _ _ alone]
      rfl

/-- How a run with a file to write ends, by the end of the run that prints: like that where it
fails, else with the only write. -/
inductive Ends (target : String) (plain : Outcome) : Outcome × σ → Prop
  | failed (failure : plain.success = false) : Ends target plain (plain, state)
  | unwritten (success : plain.success = true) {detail : String}
      (refused : system.write? state target plain.output = .error detail) :
      Ends target plain
        (Command.failed plain.notes ("Error writing file '" ++ target ++ "': " ++ detail), state)
  | written (success : plain.success = true) {after : σ}
      (wrote : system.write? state target plain.output = .ok after) (notes : String) :
      Ends target plain (⟨true, "", plain.notes ++ notes⟩, after)

namespace Ends

variable {system state} {target : String} {plain outcome : Outcome} {after : σ}

theorem warned {ran : Outcome × σ} (ends : system.Ends state target plain ran)
    (warnings : String) :
    system.Ends state target (plain.warned warnings) (ran.map (Outcome.warned · warnings) id) := by
  cases ends with
  | failed failure => exact .failed failure
  | unwritten success refused =>
      rw [Prod.map_apply, Outcome.warned_failed]
      exact @unwritten _ system state target (plain.warned warnings) success _ refused
  | written success wrote notes =>
      have notes_eq : (Outcome.warned ⟨true, "", plain.notes ++ notes⟩ warnings) =
          ⟨true, "", (plain.warned warnings).notes ++ notes⟩ := by
        simp only [Outcome.warned, String.append_assoc]
      rw [Prod.map_apply, notes_eq]
      exact @written _ system state target (plain.warned warnings) success _ wrote notes

theorem success_iff (ends : system.Ends state target plain (outcome, after)) :
    outcome.success = true ↔
      plain.success = true ∧ ∃ written, system.write? state target plain.output = .ok written := by
  cases ends with
  | failed failure => simp [failure]
  | unwritten success refused => simp [Command.failed, refused]
  | written success wrote notes => simp [success, wrote]

theorem unchanged_of_failed (ends : system.Ends state target plain (outcome, after))
    (silent : plain.success = false → plain.output = "") (failure : outcome.success = false) :
    outcome.output = "" ∧ after = state := by
  cases ends with
  | failed failure => exact ⟨silent failure, rfl⟩
  | unwritten success refused => exact ⟨rfl, rfl⟩
  | written success wrote notes => cases failure

theorem written_of_success (ends : system.Ends state target plain (outcome, after))
    (done : outcome.success = true) :
    outcome.output = "" ∧ ∃ file, system.Written state target plain.output file after := by
  cases ends with
  | failed failure =>
      rw [failure] at done
      cases done
  | unwritten success refused => cases done
  | written success wrote notes => exact ⟨rfl, system.written_of_write? wrote⟩

end Ends

theorem ends_runCompile (log : Log) (options : Options) (report : Report) (target : String) :
    system.Ends state target (printed log options report)
      ((runCompile system.actions log options report (some target)).run state).run := by
  cases made : (compile options report).result with
  | error refusal =>
      rw [runCompile_of_error _ _ made]
      exact .failed (by rw [printed, made]; rfl)
  | ok output =>
      have success : (printed log options report).success = true := by rw [printed, made]
      rw [runCompile_of_ok _ _ made, run_write_bind]
      cases wrote : system.write? state target (printed log options report).output with
      | error detail => exact .unwritten success wrote
      | ok after => exact .written success wrote _

theorem ends_exec (given : Option String) (file target : String) :
    system.Ends state target (system.display surroundings state given file (.compile none))
      (system.exec surroundings state ⟨given, file, .compile (some target)⟩) := by
  rw [exec_eq, display]
  cases system.input surroundings state given file with
  | error message => exact .failed rfl
  | ok read => exact (ends_runCompile system state surroundings.log read.1 read.2 target).warned _

theorem output_of_failed_display {surroundings : Surroundings} {given : Option String}
    {file : String} {action : Action}
    (failure : (system.display surroundings state given file action).success = false) :
    (system.display surroundings state given file action).output = "" := by
  unfold display at failure ⊢
  split
  · rfl
  · next options report read =>
    simp only [read] at failure
    exact output_of_failed_shown _ _ _ failure

end FileSystem

/-- A run that fails prints nothing and changes nothing. A compilation with a file to write that
succeeds prints nothing either: it leaves in that file what it prints without one, in the same
state, and no other file is touched. All other runs change nothing. -/
theorem exec_effects {system : FileSystem σ} {surroundings : Surroundings}
    {invocation : Invocation} {state after : σ} {outcome : Outcome}
    (ran : system.exec surroundings state invocation = (outcome, after)) :
    (outcome.success = false → outcome.output = "" ∧ after = state) ∧
      (∀ target, invocation.action = .compile (some target) →
        ∃ plain, system.exec surroundings state { invocation with action := .compile none } =
            (plain, state) ∧
          (outcome.success = true ↔ plain.success = true ∧
            ∃ written, system.write? state target plain.output = .ok written) ∧
          (outcome.success = true → outcome.output = "" ∧
            ∃ file, system.Written state target plain.output file after)) ∧
      ((∀ target, invocation.action ≠ .compile (some target)) → after = state) := by
  obtain ⟨given, file, action⟩ := invocation
  by_cases alone : ∀ target, action ≠ .compile (some target)
  · rw [system.exec_eq_display surroundings state given file alone] at ran
    cases ran
    exact ⟨fun failure => ⟨system.output_of_failed_display state failure, rfl⟩,
      fun target only => absurd only (alone target), fun _ => rfl⟩
  · obtain ⟨target, rfl⟩ : ∃ target, action = .compile (some target) := by simpa using alone
    have plain : system.exec surroundings state ⟨given, file, .compile none⟩ = _ :=
      system.exec_eq_display surroundings state given file (by simp)
    have ends := system.ends_exec surroundings state given file target
    rw [ran] at ends
    refine ⟨ends.unchanged_of_failed (system.output_of_failed_display state), ?_,
      fun alone => absurd rfl (alone target)⟩
    rintro _ ⟨⟩
    exact ⟨_, plain, ends.success_iff, ends.written_of_success⟩

/-- A report, one with a query that is refused, and a file that is to be left alone. -/
def reportDirectory : Directory where
  files := [
    (["report.toml"], .text "[server.queries.main]\nkeys = [\"a=b\"]\n"),
    (["refused.toml"], .text "[server.queries]\nmain = 1\n"),
    (["other.xml"], .text "<other />")]

/-- The surroundings of the program where no environment variable is set. -/
def bareSurroundings : Surroundings := .ofEnvironment fun _ => none

theorem exec_effects_reportDirectory :
    (∃ outcome after plain,
      Directory.system.exec bareSurroundings reportDirectory
          ⟨none, "report.toml", .compile (some "./report.toml")⟩ = (outcome, after) ∧
        outcome.success = true ∧ outcome.output = "" ∧
        Directory.system.exec bareSurroundings reportDirectory ⟨none, "report.toml", .compile none⟩ =
          (plain, reportDirectory) ∧
        after.held? ["report.toml"] = some (.text plain.output) ∧
        after.held? ["other.xml"] = some (.text "<other />")) ∧
      ∃ outcome, Directory.system.exec bareSurroundings reportDirectory
          ⟨none, "refused.toml", .compile (some "other.xml")⟩ = (outcome, reportDirectory) ∧
        outcome.success = false ∧ outcome.output = "" := by
  constructor
  · have success : (Directory.system.exec bareSurroundings reportDirectory
        ⟨none, "report.toml", .compile (some "./report.toml")⟩).1.success = true := by
      decide +kernel
    rcases ran : Directory.system.exec bareSurroundings reportDirectory
      ⟨none, "report.toml", .compile (some "./report.toml")⟩ with ⟨outcome, after⟩
    rw [ran] at success
    obtain ⟨-, writes, -⟩ := exec_effects ran
    obtain ⟨plain, same, -, done⟩ := writes "./report.toml" rfl
    obtain ⟨silent, file, written⟩ := done success
    have leads : (reportDirectory.locate? "./report.toml").bind Place.file? =
      some ["report.toml"] := by decide +kernel
    have other : (["other.xml"] : Path) ≠ ["report.toml"] := by decide
    obtain rfl := Option.some.inj (written.found.symm.trans (written.kept leads))
    exact ⟨outcome, after, plain, rfl, success, silent, same, written.filled,
      written.frame ["other.xml"] other⟩
  · have failure : (Directory.system.exec bareSurroundings reportDirectory
        ⟨none, "refused.toml", .compile (some "other.xml")⟩).1.success = false := by
      decide +kernel
    rcases ran : Directory.system.exec bareSurroundings reportDirectory
      ⟨none, "refused.toml", .compile (some "other.xml")⟩ with ⟨outcome, after⟩
    rw [ran] at failure
    obtain ⟨silent, unchanged⟩ := (exec_effects ran).1 failure
    subst unchanged
    exact ⟨outcome, rfl, failure, silent⟩

end QueryGroup.Command
