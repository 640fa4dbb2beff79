import QueryGroup.Command.Environment
set_option autoImplicit false

namespace QueryGroup.Main

open Command

/-- The number of the system's error in a path that goes on behind a file. -/
def notDirectory : UInt32 := 20

/-- What went wrong, as the system says it. -/
def detail : IO.Error → String
  | .noFileOrDirectory _ code details | .inappropriateType _ code details
  | .permissionDenied _ code details => details ++ " (os error " ++ toString code ++ ")"
  | failure => toString failure

def systemFiles : Files IO where
  look path := do
    try
      return .text (← IO.FS.readFile path)
    catch failure =>
      match failure with
      | .noFileOrDirectory .. => return .missing (detail failure)
      | .inappropriateType _ code _ =>
          return if code = notDirectory then .missing (detail failure)
            else .unreadable (detail failure)
      | _ => return .unreadable (detail failure)
  write path content := do
    try
      IO.FS.writeFile path content
      return .ok ()
    catch failure => return .error (detail failure)

def systemSurroundings : IO Surroundings := do
  let values ← variableNames.mapM fun name => return (name, ← IO.getEnv name)
  return .ofEnvironment fun name => (Assoc.get? values name).join

def usage : String :=
  "Usage: querydef [--config FILE] (compile FILE [--output FILE] | layout FILE | check FILE)"

end QueryGroup.Main

open QueryGroup.Command QueryGroup.Main in
def main (arguments : List String) : IO UInt32 := do
  match Request.ofArguments? arguments with
  | none =>
      IO.eprintln usage
      return 2
  | some request =>
      let outcome ← answer systemFiles (← systemSurroundings) request
      IO.print outcome.output
      IO.eprint outcome.notes
      return if outcome.success then 0 else 1
