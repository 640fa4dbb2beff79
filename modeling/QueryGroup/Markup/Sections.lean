import QueryGroup.Layout
import QueryGroup.Markup.Element
import QueryGroup.Policy
import QueryGroup.Report.Basic
import QueryGroup.Tenor
set_option autoImplicit false

namespace QueryGroup.Sections

open Markup Query

def declaration : String := "<?xml version=\"1.0\" encoding=\"utf-8\"?>"

/-- Aliases that start so identify rows and are not shown as keys. -/
def rowKeyStart : String := "uniqueKey"

def root : Element :=
  Element.named "QueryGroupDefinition"
    |>.withAttribute "ServerSideAggregation" "true"
    |>.withAttribute "EfficientQueries" "false"
    |>.withAttribute "GridType" "PivotGrid"

def columnExpression (expression : String × String) : Element :=
  (Element.named "Expression").withAttribute "Name" expression.1 |>.text expression.2

def columnExpressions (expressions : OrderedMap String) : Element :=
  (Element.named "ColumnExpressions").children (expressions.entries.map columnExpression)

/-- Data fields are aggregated into the data area. -/
def layoutField (field : Layout.Field) : Element :=
  let element := (Element.named "Field").withAttribute "Name" field.name
  match field.role with
  | .key => element
  | .data => element.withAttribute "IsAggregate" "true" |>.withAttribute "Area" "Data"

def layout (fields : List Layout.Field) : Element :=
  (Element.named "Layout").children (fields.map layoutField)

def isRowKey (key : Aliased) : Bool := rowKeyStart.toList.isPrefixOf key.name.toList

def keyElement (key : Aliased) : Element :=
  Element.named "AliasedKey"
    |>.withAttribute "Alias" key.name
    |>.withAttribute "Expression" (Tenor.castReportDate key.expression)

def valueElement (value : Aliased) : Element :=
  Element.named "AliasedValue"
    |>.withAttribute "Alias" value.name
    |>.withAttribute "Expression" value.expression

def keys (part : Part) : Element :=
  (Element.named "Keys").children ((part.keys.filter fun key => !isRowKey key).map keyElement)

def values (part : Part) : Element :=
  (Element.named "Values").children (part.values.map valueElement)

/-- The definition of one query. An empty filter is not written. -/
def query (name : String) (part : Part) : Element :=
  let definition := (Element.named "QueryGroupPartDefinition").withAttribute "Name" name
    |>.child (keys part)
    |>.child (values part)
  if part.hasFilter then definition.child ((Element.named "Filters").text part.filter)
  else definition

def queries (parts : OrderedMap Part) : Element :=
  (Element.named "QueryDefinitions").children
    (parts.entries.map fun entry => query entry.1 entry.2)

def menuEntry (entry : MenuEntry) : Element :=
  Element.named "SubstitutionElement"
    |>.withAttribute "DisplayName" entry.displayName
    |>.withAttribute "SubstitutionText" entry.substitutionText

def substitution (substitution : Substitution) : Element :=
  Element.named "TextSubstitution"
    |>.withAttribute "Token" substitution.token
    |>.withAttribute "Description" substitution.description
    |>.withAttribute "Multi" (if substitution.multi then "true" else "false")
    |>.children (substitution.entries.map menuEntry)

/-- The section of text substitutions, unless it is empty and then omitted. -/
def substitutions? (policy : SubstitutionsPolicy) (list : List Substitution) : Option Element :=
  if list.isEmpty && policy == .omitWhenEmpty then none
  else some ((Element.named "TextSubstitutions").children (list.map substitution))

end QueryGroup.Sections
