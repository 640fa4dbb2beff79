import QueryGroup.Markup.Sections
import QueryGroup.Options
import QueryGroup.Query.Normalize
import QueryGroup.Report.Decode
set_option autoImplicit false

namespace QueryGroup

open Audit Document Json Markup Query

namespace Compile

structure Output where
  markup : String
  queries : OrderedMap Part
  layout : List Layout.Field

def queries (options : Options) (report : Report) : Audited Refusal (OrderedMap Part) :=
  normalizeAll options.positional report.queries

/-- The document's root element; the section of substitutions comes last, if at all. -/
def document (options : Options) (report : Report) (queries : OrderedMap Part)
    (layout : List Layout.Field) : Element :=
  let sections := Sections.root
    |>.child (Sections.columnExpressions report.columnExpressions)
    |>.child (Sections.layout layout)
    |>.child (Sections.queries queries)
  match Sections.substitutions? options.substitutions report.substitutions with
  | some last => sections.child last
  | none => sections

/-- The text of a document: its declaration on a line and its root element. -/
def render (root : Element) : String :=
  (root.write (Writer.line {} Sections.declaration)).buffer

def sectionRecords (options : Options) (report : Report) : List Record :=
  match Sections.substitutions? options.substitutions report.substitutions with
  | some _ => []
  | none => [.omittedSubstitutions]

end Compile

open Compile

def compile (options : Options) (report : Report) : Audited Refusal Output := do
  let parts ← Compile.queries options report
  let layout ← Layout.project options.sortSuffix parts report.columnExpressions
  .noted (sectionRecords options report)
    ⟨render (document options report parts layout), parts, layout⟩

/-- Why a value does not compile. -/
inductive CompileError where
  | notAnObject (found : Kind)
  | invalidDocument (fault : Fault)
  | refused (refusal : Refusal)

def CompileError.message : CompileError → String
  | .notAnObject found =>
      "Invalid configuration document: expected an object, found " ++ found.name
  | .invalidDocument fault => "Invalid configuration document: " ++ fault.message
  | .refused refusal => refusal.message

/-- The report that a value describes. Only an object describes one. -/
def Report.ofObject (value : Value) : Except CompileError Report :=
  match value with
  | .object _ => (Report.ofValue value).mapError .invalidDocument
  | other => .error (.notAnObject other.kind)

def compileValue (options : Options) (value : Value) : Except CompileError String := do
  let report ← Report.ofObject value
  let output ← (compile options report).result.mapError .refused
  return output.markup

end QueryGroup
