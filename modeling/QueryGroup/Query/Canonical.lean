import QueryGroup.Query.Part
set_option autoImplicit false

namespace QueryGroup.Query

open Json

namespace Aliased

/-- A value item. A name that starts with an equals sign was never cut, so it stands alone. -/
def item (pair : Aliased) : String :=
  if pair.name.toList.head? = some '=' then pair.name else pair.text

/-- A value item in as few characters as possible: a name that is the expression too stands
alone. -/
def shortItem (pair : Aliased) : String :=
  if pair.name = pair.expression then pair.name else pair.text

end Aliased

inductive Shape where
  | named
  | positional
deriving DecidableEq, Repr, Inhabited

namespace Part

def strings (items : List String) : Value := .array (items.map .string)

/-- The part as an object of fields, its value items written by `item`. -/
def toNamed (item : Aliased → String) (part : Part) : Value :=
  .object ([("keys", strings (part.keys.map Aliased.text)),
    ("values", strings (part.values.map item)),
    ("filterText", .string part.filter)] ++
    part.metadata.toList.map fun value => ("meta", value))

/-- The part as an array of slots, its value items written by `item`. -/
def toPositional (item : Aliased → String) (part : Part) : Value :=
  .array ([.null, strings (part.keys.map Aliased.text), strings (part.values.map item),
    .string part.filter] ++ part.metadata.toList)

/-- The part in a shape, its value items written by `item`. -/
def toRaw (item : Aliased → String) (part : Part) : Shape → Value
  | .named => part.toNamed item
  | .positional => part.toPositional item

end Part

end QueryGroup.Query
