import QueryGroup.Command.LogStyle
import QueryGroup.Command.Run
set_option autoImplicit false

namespace QueryGroup.Command

/-- The readers of the program. Of a TOML text that cannot be read it is not told why. -/
def Readers.standard : Readers where
  json text := (Report.ofText text).mapError Document.Fault.message
  toml text := (Report.ofToml? text).elim (.error "TOML parse error") .ok
  settings text := (Settings.ofToml? text).elim (.error "TOML parse error") .ok

/-- The configuration directory that is named, if it is an absolute one, or else that at home. -/
def configuration? (named home : Option String) : Option String :=
  (named.filter fun directory => directory.toList.head? = some '/').or
    ((home.filter fun directory => !directory.isEmpty).map (joined · ".config"))

def variableNames : List String :=
  ["QUERYDEF_CONFIG", "RUST_LOG", "RUST_LOG_STYLE", "NO_COLOR", "CLICOLOR_FORCE",
    "XDG_CONFIG_HOME", "HOME"]

/-- What a run takes from the variables of its environment. -/
def Surroundings.ofEnvironment (lookup? : String → Option String) : Surroundings where
  readers := .standard
  log := LogStyle.log {
    filter := .ofText ((lookup? "RUST_LOG").getD "")
    colored := LogStyle.isColored (lookup? "RUST_LOG_STYLE") (lookup? "NO_COLOR")
      (lookup? "CLICOLOR_FORCE") }
  settings := lookup? "QUERYDEF_CONFIG"
  configuration := configuration? (lookup? "XDG_CONFIG_HOME") (lookup? "HOME")

end QueryGroup.Command
