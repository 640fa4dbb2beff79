import QueryGroup.Json.Number
import QueryGroup.Json.Text
import QueryGroup.OrderedMap
set_option autoImplicit false

namespace QueryGroup.Json

inductive Value where
  | null
  | bool (value : Bool)
  | number (value : Number)
  | string (value : String)
  | array (items : List Value)
  | object (members : List (String × Value))
deriving Repr, Inhabited

/-- What sort of value it is, as messages name it. -/
inductive Kind where
  | null
  | boolean
  | number
  | string
  | sequence
  | object
deriving DecidableEq, Repr

def Kind.name : Kind → String
  | .null => "null"
  | .boolean => "boolean"
  | .number => "number"
  | .string => "string"
  | .sequence => "sequence"
  | .object => "object"

namespace Value

def kind : Value → Kind
  | .null => .null
  | .bool _ => .boolean
  | .number _ => .number
  | .string _ => .string
  | .array _ => .sequence
  | .object _ => .object

def string? : Value → Option String
  | .string value => some value
  | _ => none

mutual

def chars : Value → List Char
  | .null => nullWord
  | .bool value => boolWord value
  | .number value => value.chars
  | .string value => stringChars value.toList
  | .array items => '[' :: [','].intercalate (itemChars items) ++ [']']
  | .object members => '{' :: [','].intercalate (memberChars members) ++ ['}']

def itemChars : List Value → List (List Char)
  | [] => []
  | item :: rest => item.chars :: itemChars rest

def memberChars : List (String × Value) → List (List Char)
  | [] => []
  | (name, value) :: rest => (stringChars name.toList ++ ':' :: value.chars) :: memberChars rest

end

def text (value : Value) : String := .ofList value.chars

mutual

def Distinct : Value → Prop
  | .array items => DistinctItems items
  | .object members => (Assoc.keys members).Nodup ∧ DistinctMembers members
  | _ => True

def DistinctItems : List Value → Prop
  | [] => True
  | item :: rest => item.Distinct ∧ DistinctItems rest

def DistinctMembers : List (String × Value) → Prop
  | [] => True
  | (_, value) :: rest => value.Distinct ∧ DistinctMembers rest

end

theorem distinctItems_iff (items : List Value) :
    DistinctItems items ↔ ∀ item ∈ items, item.Distinct := by
  induction items with
  | nil => simp [DistinctItems]
  | cons item rest ih => rw [DistinctItems, List.forall_mem_cons, ih]

theorem distinctMembers_iff (members : List (String × Value)) :
    DistinctMembers members ↔ ∀ member ∈ members, member.2.Distinct := by
  induction members with
  | nil => simp [DistinctMembers]
  | cons member rest ih => rw [DistinctMembers, List.forall_mem_cons, ih]

end Value

end QueryGroup.Json
