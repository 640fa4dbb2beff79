import QueryGroup.Json.Value
set_option autoImplicit false

/- What the text of a document says before it is decoded. A tree keeps members in document
order with repetitions, and marks what cannot be used: a number beyond the doubles or
beyond 64 bits, a string or name without a text, and `broken` where there is nothing to be
read. Where JSON text ends being a document the broken place is the last one of everything
that contains it. -/
namespace QueryGroup.Document

open QueryGroup.Json

inductive Tree where
  | null
  | bool (value : Bool)
  | number (value : Option Number)
  | string (value : Option String)
  /-- A float that is infinite or no number, which only some formats can write. -/
  | nonfinite
  | array (items : List Tree)
  | object (members : List (Option String × Tree))
  | broken
deriving Repr, Inhabited

/-- How many containers may still be opened inside one another; `none` sets no bound. -/
abbrev Room := Option Nat

namespace Room

/-- The most containers that JSON text may open inside one another. -/
def ofText : Room := some 127

def unbounded : Room := none

/-- The room inside one more container, if there is any. -/
def enter? : Room → Option Room
  | none => some none
  | some (room + 1) => some (some room)
  | some 0 => none

end Room

namespace Tree

mutual

def intact : Tree → Bool
  | .array items => intactItems items
  | .object members => intactMembers members
  | .broken => false
  | _ => true

def intactItems : List Tree → Bool
  | [] => true
  | item :: rest => item.intact && intactItems rest

def intactMembers : List (Option String × Tree) → Bool
  | [] => true
  | (_, value) :: rest => value.intact && intactMembers rest

end

mutual

/-- The JSON value that the tree says, if every part of it has one and the containers find
room. Repeated members merge into the place of the first with the value of the last. -/
def toValue? (room : Room) : Tree → Option Value
  | .null => some .null
  | .bool value => some (.bool value)
  | .number value => value.map .number
  | .string value => value.map .string
  | .nonfinite => some .null
  | .array items =>
      match room.enter? with
      | none => none
      | some inside => (toItems? inside items).map .array
  | .object members =>
      match room.enter? with
      | none => none
      | some inside => (toMembers? inside members).map fun pairs => .object (Assoc.merge pairs)
  | .broken => none

def toItems? (room : Room) : List Tree → Option (List Value)
  | [] => some []
  | item :: rest =>
      match toValue? room item, toItems? room rest with
      | some value, some values => some (value :: values)
      | _, _ => none

def toMembers? (room : Room) : List (Option String × Tree) → Option (List (String × Value))
  | [] => some []
  | (name, value) :: rest =>
      match name, toValue? room value, toMembers? room rest with
      | some name, some value, some pairs => some ((name, value) :: pairs)
      | _, _, _ => none

end

mutual

def ofValue : Value → Tree
  | .null => .null
  | .bool value => .bool value
  | .number value => .number (some value)
  | .string value => .string (some value)
  | .array items => .array (ofItems items)
  | .object members => .object (ofMembers members)

def ofItems : List Value → List Tree
  | [] => []
  | item :: rest => ofValue item :: ofItems rest

def ofMembers : List (String × Value) → List (Option String × Tree)
  | [] => []
  | (name, value) :: rest => (some name, ofValue value) :: ofMembers rest

end

mutual

theorem intact_ofValue (value : Value) : (ofValue value).intact = true := by
  cases value with
  | array items => exact intact_ofItems items
  | object members => exact intact_ofMembers members
  | _ => rfl

theorem intact_ofItems (items : List Value) : intactItems (ofItems items) = true := by
  cases items with
  | nil => rfl
  | cons item rest => simp [ofItems, intactItems, intact_ofValue item, intact_ofItems rest]

theorem intact_ofMembers (members : List (String × Value)) :
    intactMembers (ofMembers members) = true := by
  cases members with
  | nil => rfl
  | cons member rest =>
    simp [ofMembers, intactMembers, intact_ofValue member.2, intact_ofMembers rest]

end

mutual

/-- A value whose names are distinct is read back from its tree. -/
theorem toValue?_ofValue (value : Value) (distinct : value.Distinct) :
    (ofValue value).toValue? Room.unbounded = some value := by
  cases value with
  | array items => simp [ofValue, toValue?, Room.unbounded, Room.enter?,
      show toItems? none (ofItems items) = some items from toItems?_ofItems items distinct]
  | object members =>
    simp only [Value.Distinct] at distinct
    simp [ofValue, toValue?, Room.unbounded, Room.enter?, Assoc.merge_of_nodup distinct.1,
      show toMembers? none (ofMembers members) = some members
        from toMembers?_ofMembers members distinct.2]
  | _ => rfl

theorem toItems?_ofItems (items : List Value) (distinct : Value.DistinctItems items) :
    toItems? Room.unbounded (ofItems items) = some items := by
  cases items with
  | nil => rfl
  | cons item rest =>
    simp only [Value.DistinctItems] at distinct
    simp [ofItems, toItems?, toValue?_ofValue item distinct.1, toItems?_ofItems rest distinct.2]

theorem toMembers?_ofMembers (members : List (String × Value))
    (distinct : Value.DistinctMembers members) :
    toMembers? Room.unbounded (ofMembers members) = some members := by
  cases members with
  | nil => rfl
  | cons member rest =>
    simp only [Value.DistinctMembers] at distinct
    simp [ofMembers, toMembers?, toValue?_ofValue member.2 distinct.1,
      toMembers?_ofMembers rest distinct.2]

end

end Tree

end QueryGroup.Document
