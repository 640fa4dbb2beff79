import QueryGroup.Document.Fault
import QueryGroup.Json.Reader
set_option autoImplicit false

/- Decoders from trees to typed values. A decoder goes through a tree in document order and
stops at the first fault. Where it came from decides what happens to items beyond the last
field of a record and whether null or an empty container is written for a bare variant. -/
namespace QueryGroup.Document

open QueryGroup.Json

inductive Origin where
  | jsonText
  | jsonValue
  | toml
deriving DecidableEq, Repr

structure Context where
  origin : Origin
  room : Room

namespace Context

def ofText : Context := ⟨.jsonText, Room.ofText⟩

def ofValue : Context := ⟨.jsonValue, Room.unbounded⟩

def ofToml : Context := ⟨.toml, Room.unbounded⟩

def enter (context : Context) : Except Fault Context :=
  match context.room.enter? with
  | some room => .ok { context with room := room }
  | none => .error .malformed

end Context

/-- What the tree shows to a decoder that expected something else. The contents of a
container are not looked at. -/
def Tree.found : Tree → Except Fault Found
  | .null => .ok .null
  | .bool value => .ok (.boolean value)
  | .number (some (.integer value)) => .ok (.integer value)
  | .number (some (.double value)) => .ok (.double value)
  | .string (some value) => .ok (.string value)
  | .nonfinite => .ok .nonfinite
  | .array _ => .ok .sequence
  | .object _ => .ok .map
  | .number none | .string none | .broken => .error .malformed

abbrev Decoder (α : Type) := Context → Tree → Except Fault α

/-- One field of a record: how its value changes the record decoded so far. -/
structure RecordField (σ : Type) where
  name : String
  read : Context → Tree → σ → Except Fault σ

namespace Decoder

variable {α σ : Type}

def mismatch (expected : String) (tree : Tree) : Except Fault α := do
  let found ← tree.found
  .error (.invalidType found expected)

def string : Decoder String
  | _, .string (some value) => .ok value
  | _, tree => mismatch "a string" tree

def bool : Decoder Bool
  | _, .bool value => .ok value
  | _, tree => mismatch "a boolean" tree

/-- Any JSON value. -/
def any : Decoder Value := fun context tree =>
  match tree.toValue? context.room with
  | some value => .ok value
  | none => .error .malformed

/-- Null is read as an absent value. -/
def optional (inner : Decoder α) : Decoder (Option α)
  | _, .null => .ok none
  | context, tree => (inner context tree).map some

/-- Null is read as the default value. -/
def orDefault [Inhabited α] (inner : Decoder α) : Decoder α
  | _, .null => .ok default
  | context, tree => inner context tree

def items (inner : Decoder α) (context : Context) : List Tree → Except Fault (List α)
  | [] => .ok []
  | item :: rest => do
      let value ← inner context item
      let values ← items inner context rest
      return value :: values

def list (inner : Decoder α) : Decoder (List α)
  | context, .array trees => do
      let inside ← context.enter
      items inner inside trees
  | _, tree => mismatch "a sequence" tree

def pairs (inner : Decoder α) (context : Context) :
    List (Option String × Tree) → Except Fault (List (String × α))
  | [] => .ok []
  | (none, _) :: _ => .error .malformed
  | (some name, tree) :: rest => do
      let value ← inner context tree
      let values ← pairs inner context rest
      return (name, value) :: values

/-- A map from names; a repeated name keeps its first place and its last value. -/
def map (inner : Decoder α) : Decoder (OrderedMap α)
  | context, .object members => do
      let inside ← context.enter
      return OrderedMap.ofList (← pairs inner inside members)
  | _, tree => mismatch "a map" tree

/-- Fields by name. Members of other names are passed over; a field given twice is a fault
at its second name. -/
def members (fields : List (RecordField σ)) (context : Context) (seen : List String) (record : σ) :
    List (Option String × Tree) → Except Fault σ
  | [] => .ok record
  | (none, _) :: _ => .error .malformed
  | (some name, tree) :: rest =>
      match fields.find? fun field => field.name == name with
      | none =>
          if tree.intact then members fields context seen record rest
          else .error .malformed
      | some field =>
          if name ∈ seen then .error (.duplicateField name)
          else do
            let record ← field.read context tree record
            members fields context (name :: seen) record rest

/-- Fields by position. Missing items at the end leave their fields as they are; `count` is
the number of all items. -/
def positions (context : Context) (count : Nat) :
    List (RecordField σ) → σ → List Tree → Except Fault σ
  | _, record, [] => .ok record
  | [], record, _ :: _ =>
      match context.origin with
      | .jsonText => .error .malformed
      | .jsonValue => .error (.surplusItems count)
      | .toml => .ok record
  | field :: fields, record, tree :: rest => do
      let record ← field.read context tree record
      positions context count fields record rest

/-- A record, by name from an object or by position from an array. Fields that are not given
keep their value in `initial`. -/
def record (name : String) (fields : List (RecordField σ)) (initial : σ) : Decoder σ
  | context, .object trees => do
      let inside ← context.enter
      members fields inside [] initial trees
  | context, .array trees => do
      let inside ← context.enter
      positions inside trees.length fields initial trees
  | _, tree => mismatch ("struct " ++ name) tree

def bare : Decoder Unit
  | _, .null => .ok ()
  | context, .array [] => if context.origin = .toml then .ok () else mismatch "unit" (.array [])
  | context, .object [] =>
      if context.origin = .toml then .ok () else mismatch "unit" (.object [])
  | _, tree => mismatch "unit" tree

def choose (known : List (String × α)) (given : String) : Except Fault α :=
  match Assoc.get? known given with
  | some value => .ok value
  | none => .error (.unknownVariant given (Assoc.keys known))

/-- One of the known names, alone or as the only member of an object. -/
def variant (known : List (String × α)) : Decoder α
  | _, .string (some given) => choose known given
  | context, .object [(some given, payload)] => do
      let value ← choose known given
      bare context payload
      return value
  | _, .object trees => .error (if Tree.intactMembers trees then .notOneVariant else .malformed)
  | _, tree => mismatch "string or map" tree

end Decoder

/-- The field `name`, read by `inner` and stored by `set`. -/
def RecordField.of {α σ : Type} (name : String) (inner : Decoder α) (set : σ → α → σ) :
    RecordField σ where
  name := name
  read context tree record := (inner context tree).map (set record)

/-- Decodes a document that was read from JSON text. What follows the document is looked
at last. -/
def Decoder.ofReading {α : Type} (decoder : Decoder α) (reading : Reading) : Except Fault α := do
  let value ← decoder .ofText reading.tree
  if reading.alone then .ok value else .error .malformed

def Decoder.ofText {α : Type} (decoder : Decoder α) (text : String) : Except Fault α :=
  decoder.ofReading (Reading.ofText text)

/-- Decodes a document that was read from TOML, which repeats no name. -/
def Decoder.ofToml {α : Type} (decoder : Decoder α) (tree : Tree) : Except Fault α :=
  decoder .ofToml tree

def Decoder.ofValue {α : Type} (decoder : Decoder α) (value : Value) : Except Fault α :=
  decoder .ofValue (.ofValue value)

end QueryGroup.Document
