import QueryGroup.Command.Arguments
import QueryGroup.Command.Files
import QueryGroup.Command.Log
import QueryGroup.Compile
import QueryGroup.Settings
set_option autoImplicit false

namespace QueryGroup.Command

open Audit Text

/-- How the contents of files are read. A text that cannot be read has a detail that says why. -/
structure Readers where
  json : String → Except String Report
  toml : String → Except String Report
  settings : String → Except String Settings

/-- What a run takes from around it, files aside. -/
structure Surroundings where
  readers : Readers
  log : Log
  /-- The settings file that the environment names. -/
  settings : Option String := none
  /-- The user's configuration directory, if there is one. -/
  configuration : Option String := none

structure Outcome where
  success : Bool
  output : String
  /-- What is written beside the output: the log, and the message of a fault. -/
  notes : String
deriving DecidableEq, Repr

inductive SettingsError where
  | notFound (path : String)
  | unreadable (detail : String)
  | unparsable (detail : String)
deriving DecidableEq, Repr

def SettingsError.message : SettingsError → String
  | .notFound path => "Config file not found: " ++ path
  | .unreadable detail => "Failed to read config file: " ++ detail
  | .unparsable detail => "Failed to parse config file: " ++ detail

inductive DocumentError where
  | unreadable (file detail : String)
  | unparsable (file detail : String)
deriving DecidableEq, Repr

def DocumentError.message : DocumentError → String
  | .unreadable file detail => "Error reading file '" ++ file ++ "': " ++ detail
  | .unparsable file detail => "Error parsing '" ++ file ++ "': " ++ detail

def settingsOf (readers : Readers) (path : String) : Entry → Except SettingsError Settings
  | .missing _ => .error (.notFound path)
  | .unreadable detail => .error (.unreadable detail)
  | .text text => (readers.settings text).mapError .unparsable

def localSettings : String := "querydef.toml"

def joined (directory name : String) : String :=
  if directory.isEmpty ∨ directory.toList.getLast? = some '/' then directory ++ name
  else directory ++ "/" ++ name

def userSettings (configuration : String) : String :=
  joined (joined configuration "querydef") "config.toml"

/-- The last name in a path, behind which only separators and single dots may stand. -/
def lastName (path : String) : List Char :=
  ((partsAt '/' path.toList).filter fun part => part != [] && part != ['.']).getLast?.getD []

/-- The extension is `toml`. A dot at the start of a name begins no extension. -/
def isToml (path : String) : Bool :=
  ".toml".toList.isSuffixOf (lastName path) && lastName path != ".toml".toList

def Readers.report (readers : Readers) (file text : String) : Except String Report :=
  if isToml file then readers.toml text else readers.json text

def reportOf (readers : Readers) (file : String) : Entry → Except DocumentError Report
  | .missing detail | .unreadable detail => .error (.unreadable file detail)
  | .text text => (readers.report file text).mapError (.unparsable file)

variable {m : Type → Type} [Monad m]

/-- The user's settings, where there are any. -/
def loadUserSettings (files : Files m) (surroundings : Surroundings) :
    m (Except SettingsError Settings) := do
  match surroundings.configuration with
  | none => return .ok {}
  | some configuration =>
      let path := userSettings configuration
      match ← files.look path with
      | .missing _ => return .ok {}
      | entry => return settingsOf surroundings.readers path entry

/-- The settings of the first source that there is: the command line, the environment, the
directory, the user. -/
def loadSettings (files : Files m) (surroundings : Surroundings) (given : Option String) :
    m (Except SettingsError Settings) := do
  match given.or surroundings.settings with
  | some path => return settingsOf surroundings.readers path (← files.look path)
  | none =>
      match ← files.look localSettings with
      | .missing _ => loadUserSettings files surroundings
      | entry => return settingsOf surroundings.readers localSettings entry

def failed (notes : String) (message : String) : Outcome :=
  ⟨false, "", notes ++ message ++ "\n"⟩

def layoutText (fields : List Layout.Field) : String :=
  String.join (fields.map fun field => field.name ++ "\t" ++ field.role.name ++ "\n")

def runCompile (files : Files m) (log : Log) (options : Options)
    (report : Report) (target : Option String) : m Outcome := do
  let compiled := compile options report
  let notes := log.audit compiled.records
  match compiled.result, target with
  | .error refusal, _ => return failed notes ("Compilation error: " ++ refusal.message)
  | .ok output, none => return ⟨true, output.markup, notes⟩
  | .ok output, some path =>
      match ← files.write path output.markup with
      | .ok () =>
          return ⟨true, "",
            notes ++ log.document output.queries.size output.layout.length path⟩
      | .error detail =>
          return failed notes ("Error writing file '" ++ path ++ "': " ++ detail)

def runLayout (log : Log) (options : Options) (report : Report) : Outcome :=
  let compiled := compile options report
  let notes := log.audit compiled.records
  match compiled.result with
  | .error refusal => failed notes ("Compilation error: " ++ refusal.message)
  | .ok output => ⟨true, layoutText output.layout, notes⟩

def runCheck (log : Log) (options : Options) (report : Report)
    (file : String) : Outcome :=
  let checked := Compile.queries options report
  let notes := log.audit checked.records
  match checked.result with
  | .error refusal => failed notes ("Validation error: " ++ refusal.message)
  | .ok queries =>
      ⟨true, "OK: " ++ file ++ " (" ++ toString queries.size ++ " queries)\n", notes⟩

def runAction (files : Files m) (log : Log) (options : Options)
    (report : Report) (file : String) : Action → m Outcome
  | .compile target => runCompile files log options report target
  | .layout => return runLayout log options report
  | .check => return runCheck log options report file

/-- Carries out a command. A fault ends it with one message and nothing on the output. -/
def run (files : Files m) (surroundings : Surroundings) (invocation : Invocation) :
    m Outcome := do
  match ← loadSettings files surroundings invocation.settings with
  | .error error => return failed "" ("Settings error: " ++ error.message)
  | .ok settings =>
      match reportOf surroundings.readers invocation.file (← files.look invocation.file) with
      | .error error => return failed "" error.message
      | .ok report =>
          runAction files surroundings.log settings.compiler report invocation.file
            invocation.action

def versionText : String := "querydef 0.1.0\n"

def answer (files : Files m) (surroundings : Surroundings) (request : Request) : m Outcome := do
  let outcome ← match request with
    | .version => pure ⟨true, versionText, ""⟩
    | .invocation invocation => run files surroundings invocation
  return { outcome with notes := surroundings.log.warnings ++ outcome.notes }

end QueryGroup.Command
