import QueryGroup.Audit
import QueryGroup.Policy
import QueryGroup.Query.Part
import QueryGroup.Text.Blank
import QueryGroup.Text.Letters
set_option autoImplicit false

namespace QueryGroup.Query

open Json Text Audit

inductive Part.Field where
  | keys
  | values
  | filter
deriving DecidableEq, Repr

namespace Part.Field

def name : Field → String
  | .keys => "keys"
  | .values => "values"
  | .filter => "filter"

def expected : Field → String
  | .keys | .values => "a sequence of strings"
  | .filter => "a string"

end Part.Field

def slotField : Slot → Part.Field
  | .keys => .keys
  | .values => .values

/-- Why a raw part has no canonical one. -/
inductive Refusal where
  | inputShape (query : String) (found : Kind)
  | fieldShape (query : String) (field : Part.Field) (found : Kind)
  | shortPositional (query : String) (count : Nat)
deriving DecidableEq, Repr

def Refusal.message : Refusal → String
  | .inputShape query found =>
      "Query '" ++ query ++ "' must be a sequence or an object, found " ++ found.name
  | .fieldShape query field found =>
      "Query '" ++ query ++ "': field '" ++ field.name ++ "' must be " ++ field.expected ++
        ", found " ++ found.name
  | .shortPositional query count =>
      "Query '" ++ query ++ "' has " ++ toString count ++
        " positional elements, at least 4 required"

def completeLength : Nat := 4

/-- What a raw part supplies, before any of it is read. -/
structure Slots where
  keys : Option Value
  values : Option Value
  filter : Option Value
  metadata : Option Value

namespace Slots

/-- The first element of a positional part is ignored. -/
def ofList (elements : List Value) : Slots where
  keys := elements[1]?
  values := elements[2]?
  filter := elements[3]?
  metadata := elements[4]?

/-- The field of that exact name, or else the first whose name differs in case only. -/
def field? (fields : List (String × Value)) (name : String) : Option Value :=
  (Assoc.get? fields name).or
    ((fields.find? fun field => sameLetters field.1 name).map Prod.snd)

/-- The filter text stands before the filter, unless it is null. -/
def filterField? (fields : List (String × Value)) : Option Value :=
  match field? fields "filterText" with
  | none | some .null => field? fields "filter"
  | some value => some value

def ofFields (fields : List (String × Value)) : Slots where
  keys := field? fields "keys"
  values := field? fields "values"
  filter := filterField? fields
  metadata := field? fields "meta"

end Slots

/-- The items of a slot that are strings. A missing slot has none. -/
def stringItems (query : String) (slot : Slot) :
    Option Value → Audited Refusal (List String)
  | none | some .null => .ok []
  | some (.array items) =>
      .noted
        (items.filterMap fun item => match item with
          | .string _ => none
          | other => some (.skippedItem query other.kind slot))
        (items.filterMap Value.string?)
  | some other => .fail (.fieldShape query (slotField slot) other.kind)

/-- The keys of a slot. An item without an alias is dropped. -/
def readKeys (query : String) (slot : Option Value) : Audited Refusal (List Aliased) := do
  let items ← stringItems query .keys slot
  .noted
    (items.filterMap fun item =>
      if (Aliased.parseKey? item).isSome then none else some (.droppedKey query item))
    (items.filterMap Aliased.parseKey?)

def valueRecord? (query item : String) : Option Record :=
  if item.isEmpty then some (.droppedValue query)
  else if Aliased.parseValue item = ⟨item, item⟩ then some (.ownAlias query item)
  else none

/-- The values of a slot. An empty item is dropped. -/
def readValues (query : String) (slot : Option Value) : Audited Refusal (List Aliased) := do
  let items ← stringItems query .values slot
  .noted
    (items.filterMap (valueRecord? query))
    ((items.filter fun item => !item.isEmpty).map Aliased.parseValue)

/-- The filter text: a string is trimmed, a boolean or number stands as its JSON text. -/
def readFilter (query : String) : Option Value → Except Refusal String
  | none | some .null => .ok ""
  | some (.string text) => .ok (trim text)
  | some (.bool value) => .ok (Value.bool value).text
  | some (.number value) => .ok (Value.number value).text
  | some other => .error (.fieldShape query .filter other.kind)

def Slots.read (query : String) (slots : Slots) : Audited Refusal Part := do
  let keys ← readKeys query slots.keys
  let values ← readValues query slots.values
  let filter ← .ofExcept (readFilter query slots.filter)
  return { keys, values, filter, metadata := slots.metadata }

/-- A short positional part is refused or noted, as the policy says. -/
def admitLength (policy : PositionalPolicy) (query : String) (count : Nat) :
    Audited Refusal Unit :=
  if completeLength ≤ count then .ok ()
  else
    match policy with
    | .strict => .fail (.shortPositional query count)
    | .lenient => .noted [.shortPart query count] ()

def normalizeRaw (policy : PositionalPolicy) (query : String) : Raw → Audited Refusal Part
  | .positional elements => do
      admitLength policy query elements.length
      (Slots.ofList elements).read query
  | .named fields => (Slots.ofFields fields).read query

def normalize (policy : PositionalPolicy) (query : String) (raw : Value) :
    Audited Refusal Part :=
  match Raw.ofValue? raw with
  | some raw => normalizeRaw policy query raw
  | none => .fail (.inputShape query raw.kind)

def normalizeEntries (policy : PositionalPolicy) :
    List (String × Value) → Audited Refusal (List (String × Part))
  | [] => .ok []
  | (query, raw) :: rest => do
      let part ← normalize policy query raw
      let parts ← normalizeEntries policy rest
      return (query, part) :: parts

def normalizeAll (policy : PositionalPolicy) (queries : OrderedMap Value) :
    Audited Refusal (OrderedMap Part) := do
  return OrderedMap.ofList (← normalizeEntries policy queries.entries)

end QueryGroup.Query
