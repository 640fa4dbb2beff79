import QueryGroup.Command.LogFilter
import QueryGroup.Command.Terminal
set_option autoImplicit false

namespace QueryGroup.Command

/-- How records are written: those that the filter shows, with or without color. -/
structure LogStyle where
  filter : LogFilter := {}
  colored : Bool := false

namespace LogStyle

/-- Color as a style asks for it. Where it asks for none of the two, color is forced by a
value other than zero, unless something asks for no color. -/
def isColored (style noColor force : Option String) : Bool :=
  if style = some "always" then true
  else if style = some "never" then false
  else force.any (· != "0") && !noColor.any (· != "")

def inColor (number : Nat) (text : String) : String :=
  "\x1b[" ++ toString number ++ "m" ++ text ++ "\x1b[0m"

def label : Level → String
  | .info => "INFO "
  | _ => "DEBUG"

def color : Level → Nat
  | .info => 32
  | _ => 34

def indented (message : String) : String :=
  .ofList (message.toList.flatMap fun c =>
    if c = '\n' then '\n' :: List.replicate 4 ' ' else [c])

/-- A record with its line break, which an open control code in the message may swallow. -/
def written (style : LogStyle) (level : Level) (target message : String) : String :=
  let text := target ++ (if style.colored then inColor 90 "]" else "]") ++ " " ++
    indented message ++ "\n"
  if style.colored then inColor 90 "[" ++ inColor (color level) (label level) ++ " " ++ text
  else Terminal.plain ("[" ++ label level ++ " " ++ text)

def log (style : LogStyle) : Log where
  warnings := style.filter.warnings
  record level target message :=
    if style.filter.shows target level message then style.written level target message else ""

end LogStyle

end QueryGroup.Command
