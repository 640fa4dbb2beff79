import QueryGroup.Json.Value
import QueryGroup.Query.Aliased
set_option autoImplicit false

namespace QueryGroup.Query

open Json

structure Part where
  keys : List Aliased := []
  values : List Aliased := []
  filter : String := ""
  /-- Whatever the configuration attaches to the part; it is kept and never read. -/
  metadata : Option Value := none
deriving Inhabited

def Part.hasFilter (part : Part) : Bool := !part.filter.isEmpty

inductive Raw where
  | positional (slots : List Value)
  | named (fields : List (String × Value))

def Raw.ofValue? : Value → Option Raw
  | .array slots => some (.positional slots)
  | .object fields => some (.named fields)
  | _ => none

end QueryGroup.Query
