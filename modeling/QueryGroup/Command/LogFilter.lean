import QueryGroup.Command.Log
import QueryGroup.Pattern.Limits
import QueryGroup.Text.Blank
set_option autoImplicit false

namespace QueryGroup.Command

open Text

namespace Level

def rank : Level → Nat
  | .off => 0
  | .error => 1
  | .warn => 2
  | .info => 3
  | .debug => 4
  | .trace => 5

def name : Level → String
  | .off => "off"
  | .error => "error"
  | .warn => "warn"
  | .info => "info"
  | .debug => "debug"
  | .trace => "trace"

def all : List Level := [off, error, warn, info, debug, trace]

/-- Levels are named in any case of letters. -/
def ofChars? (text : List Char) : Option Level :=
  all.find? fun level => level.name.toList == text.map Char.toLower

end Level

/-- Records of targets that start so show up to the level; without a target all of them. -/
structure Directive where
  target : Option (List Char)
  level : Level
deriving DecidableEq, Repr

/-- What a filter has wrong; the rest of it counts nevertheless. -/
inductive FilterFault where
  | slashes (filter : String)
  | directive (text : List Char)
  | pattern (text : String) (fault : Pattern.Fault)
deriving DecidableEq, Repr

def FilterFault.message : FilterFault → String
  | slashes filter => "invalid logging spec '" ++ filter ++ "' (too many '/'s)"
  | directive text => "invalid logging spec '" ++ .ofList text ++ "'"
  | pattern text fault => "invalid regex filter - " ++ fault.message text

namespace Directive

/-- What a directive is when it has no level of its own. -/
def ofLone (text : List Char) : Directive :=
  match Level.ofChars? text with
  | some level => ⟨none, level⟩
  | none => ⟨some text, .trace⟩

def ofChars (text : List Char) : Except FilterFault Directive :=
  match partsAt '=' text with
  | [only] => .ok (ofLone only)
  | [target, level] =>
      if (trimChars level).isEmpty then .ok ⟨some target, .trace⟩
      else
        match Level.ofChars? (trimChars level) with
        | some level => .ok ⟨some target, level⟩
        | none => .error (.directive (trimChars level))
  | _ => .error (.directive text)

/-- A directive takes the place of an earlier one of its target. -/
def put (directive : Directive) : List Directive → List Directive
  | [] => [directive]
  | other :: rest =>
      if other.target = directive.target then directive :: rest else other :: put directive rest

def length (directive : Directive) : Nat := (directive.target.getD []).length

def concerns (target : String) (directive : Directive) : Bool :=
  (directive.target.getD []).isPrefixOf target.toList

end Directive

/-- Of the directives whose target starts a record's target the longest decides; without
directives only errors show. -/
structure LogFilter where
  directives : List Directive := []
  pattern : Option Pattern := none
  faults : List FilterFault := []

namespace LogFilter

/-- Takes in one directive; where nothing stands there is none. -/
def add (filter : LogFilter) (text : List Char) : LogFilter :=
  if text.isEmpty then filter
  else
    match Directive.ofChars text with
    | .ok directive => { filter with directives := directive.put filter.directives }
    | .error fault => { filter with faults := filter.faults ++ [fault] }

def ofDirectives (text : List Char) : LogFilter :=
  ((partsAt ',' text).map trimChars).foldl add {}

def withPattern (filter : LogFilter) (text : String) : LogFilter :=
  match Pattern.ofText text with
  | .ok pattern => { filter with pattern := some pattern }
  | .error fault => { filter with faults := filter.faults ++ [.pattern text fault] }

def ofText (text : String) : LogFilter :=
  match partsAt '/' text.toList with
  | [directives] => ofDirectives directives
  | [directives, pattern] => (ofDirectives directives).withPattern (.ofList pattern)
  | _ => { faults := [.slashes text] }

def warnings (filter : LogFilter) : String :=
  String.join (filter.faults.map fun fault => "warning: " ++ fault.message ++ ", ignoring it\n")

/-- The directive with the longest target, the later of two. -/
def longest : List Directive → Option Directive
  | [] => none
  | directive :: rest =>
      match longest rest with
      | some other => if directive.length ≤ other.length then some other else some directive
      | none => some directive

def admits (filter : LogFilter) (target : String) (level : Level) : Bool :=
  if filter.directives.isEmpty then level.rank ≤ Level.error.rank
  else
    match longest (filter.directives.filter (Directive.concerns target)) with
    | some directive => level.rank ≤ directive.level.rank
    | none => false

def shows (filter : LogFilter) (target : String) (level : Level) (message : String) : Bool :=
  filter.admits target level && filter.pattern.all fun pattern => pattern.occursIn message

end LogFilter

end QueryGroup.Command
