import QueryGroup.Json.Number
import QueryGroup.Text.Quoted
set_option autoImplicit false

namespace QueryGroup.Document

open QueryGroup.Decimal QueryGroup.Text

/-- What was met where something else was expected. -/
inductive Found where
  | null
  | boolean (value : Bool)
  | integer (value : Int)
  | double (value : Binary64)
  | nonfinite
  | string (value : String)
  | sequence
  | map
deriving DecidableEq, Repr

def ticked (text : String) : String := "`" ++ text ++ "`"

def Found.message : Found → String
  | .null => "null"
  | .boolean value => "boolean " ++ ticked (if value then "true" else "false")
  | .integer value => "integer " ++ ticked (Json.Number.integer value).text
  | .double value => "floating point " ++ ticked value.text
  | .nonfinite => "floating point"
  | .string value => "string " ++ quoted value
  | .sequence => "sequence"
  | .map => "map"

inductive Fault where
  | malformed
  | invalidType (found : Found) (expected : String)
  | duplicateField (name : String)
  | surplusItems (count : Nat)
  | unknownVariant (given : String) (known : List String)
  | notOneVariant
deriving DecidableEq, Repr

/-- The known names, the last one joined by `or`. -/
def choices : List String → String
  | [] => "nothing"
  | [only] => ticked only
  | [first, second] => ticked first ++ " or " ++ ticked second
  | many => "one of " ++ ", ".intercalate (many.map ticked)

def Fault.message : Fault → String
  | .malformed => "malformed document"
  | .invalidType found expected => "invalid type: " ++ found.message ++ ", expected " ++ expected
  | .duplicateField name => "duplicate field " ++ ticked name
  | .surplusItems count =>
      "invalid length " ++ toString count ++ ", expected fewer elements in array"
  | .unknownVariant given known =>
      "unknown variant " ++ ticked given ++ ", expected " ++ choices known
  | .notOneVariant => "invalid value: map, expected map with a single key"

end QueryGroup.Document
