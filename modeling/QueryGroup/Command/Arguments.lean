set_option autoImplicit false

namespace QueryGroup.Command

inductive Action where
  | compile (output : Option String)
  | layout
  | check
deriving DecidableEq, Repr

structure Invocation where
  settings : Option String
  file : String
  action : Action
deriving DecidableEq, Repr

inductive Request where
  | version
  | invocation (invocation : Invocation)
deriving DecidableEq, Repr

inductive Subcommand where
  | compile
  | layout
  | check
deriving DecidableEq, Repr

def Subcommand.ofName? (name : String) : Option Subcommand :=
  if name = "compile" then some .compile
  else if name = "layout" then some .layout
  else if name = "check" then some .check
  else none

/-- An argument by its form. A single dash is a plain word. -/
inductive Form where
  | word
  | separator
  | long (name : String) (value : Option String)
  | short (letter : Char) (attached : List Char)

def Form.ofChars : List Char → Form
  | ['-', '-'] => .separator
  | '-' :: '-' :: rest =>
      let name := rest.takeWhile (· != '=')
      match rest.dropWhile (· != '=') with
      | [] => .long (.ofList name) none
      | _ :: value => .long (.ofList name) (some (.ofList value))
  | '-' :: letter :: attached => .short letter attached
  | _ => .word

def Form.of (argument : String) : Form := ofChars argument.toList

def isWord (argument : String) : Bool :=
  match Form.of argument with
  | .word => true
  | _ => false

/-- The value that stands with a letter, if any; an equals sign before it is not part of it. -/
def attachedValue? : List Char → Option String
  | [] => none
  | '=' :: value => some (.ofList value)
  | value => some (.ofList value)

inductive OptionName where
  | settings
  | output
deriving DecidableEq, Repr

inductive Item where
  | word (text : String)
  | separator
  | version
  /-- An option, with its value if that stands in the same argument. -/
  | option (name : OptionName) (value : Option String)

/-- The first argument, unless no such option exists. -/
def item? (argument : String) : Option Item :=
  match Form.of argument with
  | .word => some (.word argument)
  | .separator => some .separator
  | .long name value =>
      if name = "config" then some (.option .settings value)
      else if name = "output" then some (.option .output value)
      else if name = "version" ∧ value.isNone then some .version
      else none
  | .short letter attached =>
      if letter = 'c' then some (.option .settings (attachedValue? attached))
      else if letter = 'o' then some (.option .output (attachedValue? attached))
      else if letter = 'V' then some .version
      else none

structure Given where
  settings : Option String := none
  output : Option String := none
  file : Option String := none

namespace Given

/-- Takes an option's value. Compile alone takes an output. -/
def option? (given : Given) (subcommand : Subcommand) (value : String) :
    OptionName → Option Given
  | .settings =>
      if value.isEmpty ∨ given.settings.isSome then none
      else some { given with settings := some value }
  | .output =>
      if value.isEmpty ∨ given.output.isSome ∨ subcommand ≠ .compile then none
      else some { given with output := some value }

def file? (given : Given) (word : String) : Option Given :=
  if word.isEmpty ∨ given.file.isSome then none else some { given with file := some word }

/-- The command that was given; a setting behind the subcommand goes before one ahead of it. -/
def request? (given : Given) (subcommand : Subcommand) (settings : Option String) :
    Option Request :=
  given.file.map fun file =>
    .invocation {
      settings := given.settings.or settings
      file
      action := match subcommand with
        | .compile => .compile given.output
        | .layout => .layout
        | .check => .check }

/-- Reads the arguments behind a separator, which are words whatever they look like. -/
def words? (given : Given) : List String → Option Given
  | [] => some given
  | word :: rest => (given.file? word).bind fun given => given.words? rest

def read? (subcommand : Subcommand) (given : Given) : List String → Option Given
  | [] => some given
  | argument :: rest =>
      match item? argument with
      | none | some .version => none
      | some .separator => given.words? rest
      | some (.word word) => (given.file? word).bind fun given => read? subcommand given rest
      | some (.option name (some value)) =>
          (given.option? subcommand value name).bind fun given => read? subcommand given rest
      | some (.option name none) =>
          match rest with
          | [] => none
          | value :: rest =>
              if isWord value then
                (given.option? subcommand value name).bind fun given =>
                  read? subcommand given rest
              else none

end Given

def readArguments? (settings : Option String) : List String → Option Request
  | [] => none
  | argument :: rest =>
      match item? argument with
      | some .version => some .version
      | some (.word name) => do
          let subcommand ← Subcommand.ofName? name
          let given ← Given.read? subcommand {} rest
          given.request? subcommand settings
      | some (.option .settings (some value)) =>
          if value.isEmpty ∨ settings.isSome then none else readArguments? (some value) rest
      | some (.option .settings none) =>
          match rest with
          | [] => none
          | value :: rest =>
              if value.isEmpty ∨ !isWord value ∨ settings.isSome then none
              else readArguments? (some value) rest
      | _ => none

/-- What the command line asks for, if it asks for anything. -/
def Request.ofArguments? (arguments : List String) : Option Request :=
  readArguments? none arguments

end QueryGroup.Command
