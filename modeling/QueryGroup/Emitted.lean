import QueryGroup.Compile
import QueryGroup.Markup.Reader
import QueryGroup.Query.Canonical
set_option autoImplicit false

namespace QueryGroup

open Json Markup Query

/-- A query as its definition shows it. -/
structure EmittedQuery where
  name : String
  keys : List Aliased
  values : List Aliased
  /-- The filter, if there is an element for it. -/
  filter : Option String
deriving DecidableEq, Repr

structure Emitted where
  expressions : List (String × String)
  layout : List Layout.Field
  queries : List EmittedQuery
  /-- The text substitutions, if there is a section for them. -/
  substitutions : Option (List Substitution)
deriving DecidableEq, Repr

/-- The names of row keys. -/
def IsRowKeyName (name : String) : Prop := "uniqueKey".toList <+: name.toList

instance (name : String) : Decidable (IsRowKeyName name) :=
  inferInstanceAs (Decidable (_ <+: _))

namespace EmittedQuery

/-- Row keys are not shown, and the expressions of the others have the report date cast. An
empty filter has no element. -/
def ofPart (name : String) (part : Part) : EmittedQuery where
  name := name
  keys := (part.keys.filter fun key => ¬ IsRowKeyName key.name).map fun key =>
    { key with expression := Tenor.castReportDate key.expression }
  values := part.values
  filter := if part.filter.isEmpty then none else some part.filter

def part (query : EmittedQuery) : Part where
  keys := query.keys
  values := query.values
  filter := query.filter.getD ""

end EmittedQuery

namespace Emitted

def shownSubstitutions? (policy : SubstitutionsPolicy) (list : List Substitution) :
    Option (List Substitution) :=
  if list.isEmpty && policy == .omitWhenEmpty then none else some list

def ofCompiled (options : Options) (report : Report) (output : Compile.Output) : Emitted where
  expressions := report.columnExpressions.entries
  layout := output.layout
  queries := output.queries.entries.map fun entry => EmittedQuery.ofPart entry.1 entry.2
  substitutions := shownSubstitutions? options.substitutions report.substitutions

/-- The children of a section. A section without any closes itself. -/
def sectionChildren? (name : String) : Element → Option (List Element)
  | .node given [] .empty => if given = name then some [] else none
  | .node given [] (.elements children) => if given = name then some children else none
  | _ => none

def readExpression? : Element → Option (String × String)
  | .node "Expression" [("Name", name)] (.text text) => some (name, text)
  | _ => none

def readField? : Element → Option Layout.Field
  | .node "Field" [("Name", name)] .empty => some (.key name)
  | .node "Field" [("Name", name), ("IsAggregate", "true"), ("Area", "Data")] .empty =>
      some (.data name)
  | _ => none

def readPair? (kind : String) : Element → Option Aliased
  | .node given [("Alias", name), ("Expression", expression)] .empty =>
      if given = kind then some ⟨name, expression⟩ else none
  | _ => none

def readFilter? : List Element → Option (Option String)
  | [] => some none
  | [.node "Filters" [] (.text filter)] => some (some filter)
  | _ => none

def readQuery? : Element → Option EmittedQuery
  | .node "QueryGroupPartDefinition" [("Name", name)] (.elements (keys :: values :: rest)) => do
      let keys ← (← sectionChildren? "Keys" keys).mapM (readPair? "AliasedKey")
      let values ← (← sectionChildren? "Values" values).mapM (readPair? "AliasedValue")
      let filter ← readFilter? rest
      return { name, keys, values, filter }
  | _ => none

def readEntry? : Element → Option MenuEntry
  | .node "SubstitutionElement" [("DisplayName", name), ("SubstitutionText", text)] .empty =>
      some ⟨name, text⟩
  | _ => none

def readTruth? (text : String) : Option Bool :=
  if text = "true" then some true else if text = "false" then some false else none

/-- The children of an element that closes itself where it has none. -/
def children? : Content Element → Option (List Element)
  | .empty => some []
  | .elements children => some children
  | .text _ => none

def readSubstitution? : Element → Option Substitution
  | .node "TextSubstitution"
      [("Token", token), ("Description", description), ("Multi", multi)] content => do
      let entries ← (← children? content).mapM readEntry?
      return { token, description, multi := ← readTruth? multi, entries }
  | _ => none

def readSubstitutions? : List Element → Option (Option (List Substitution))
  | [] => some none
  | [last] => do
      return some (← (← sectionChildren? "TextSubstitutions" last).mapM readSubstitution?)
  | _ => none

def ofElement? : Element → Option Emitted
  | .node "QueryGroupDefinition"
      [("ServerSideAggregation", "true"), ("EfficientQueries", "false"),
        ("GridType", "PivotGrid")]
      (.elements (expressions :: layout :: queries :: rest)) => do
      let expressions ← (← sectionChildren? "ColumnExpressions" expressions).mapM readExpression?
      let layout ← (← sectionChildren? "Layout" layout).mapM readField?
      let queries ← (← sectionChildren? "QueryDefinitions" queries).mapM readQuery?
      let substitutions ← readSubstitutions? rest
      return { expressions, layout, queries, substitutions }
  | _ => none

def declarationLine : String := "<?xml version=\"1.0\" encoding=\"utf-8\"?>\n"

def body? (text : String) : Option String :=
  let line := declarationLine.toList
  if line.isPrefixOf text.toList then some (.ofList (text.toList.drop line.length)) else none

/-- What the text of a document says. -/
def ofMarkup? (text : String) : Option Emitted := do
  ofElement? (← Element.ofMarkup? (← body? text))

/-- A query as a raw part of its name, in the shape chosen for that name. -/
def rawQuery (shape : String → Shape) (query : EmittedQuery) : String × Value :=
  (query.name, query.part.toRaw Aliased.shortItem (shape query.name))

/-- A report that says the same. Each of its raw parts may have either shape. -/
def toReport (shape : String → Shape) (emitted : Emitted) : Report where
  server := some {
    columnExpressions := .ofList emitted.expressions
    queries := .ofList (emitted.queries.map (rawQuery shape)) }
  client := emitted.substitutions.map fun list => { textSubstitutions := list }

end Emitted

end QueryGroup
