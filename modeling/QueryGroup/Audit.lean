import QueryGroup.Json.Value
set_option autoImplicit false

namespace QueryGroup

open Json

inductive Slot where
  | keys
  | values
deriving DecidableEq, Repr

def Slot.name : Slot → String
  | .keys => "keys"
  | .values => "values"

inductive Audit.Record where
  /-- A positional part with `count` elements has slots defaulted. -/
  | shortPart (query : String) (count : Nat)
  | skippedItem (query : String) (kind : Kind) (slot : Slot)
  | droppedKey (query item : String)
  | droppedValue (query : String)
  /-- The whole text of a value is its alias too. -/
  | ownAlias (query item : String)
  | excludedKey (name query : String)
  | omittedSubstitutions
deriving DecidableEq, Repr

namespace Audit.Record

/-- The stage that wrote the record, as the log names it. -/
def stage : Record → String
  | .excludedKey _ _ => "querydef::layout"
  | .omittedSubstitutions => "querydef::compile"
  | _ => "querydef::normalize"

def inQuotes (text : String) : String := "'" ++ text ++ "'"

def message : Record → String
  | .shortPart query count =>
      "query " ++ inQuotes query ++ ": " ++ toString count ++
        " positional elements, defaulting missing slots"
  | .skippedItem query kind slot =>
      "query " ++ inQuotes query ++ ": skipping non-string " ++ kind.name ++ " item in " ++ slot.name
  | .droppedKey query item =>
      "query " ++ inQuotes query ++ ": dropping key " ++ inQuotes item ++ " without alias"
  | .droppedValue query => "query " ++ inQuotes query ++ ": dropping empty value"
  | .ownAlias query item =>
      "query " ++ inQuotes query ++ ": value " ++ inQuotes item ++ " used as its own alias"
  | .excludedKey name query =>
      "layout: excluding key " ++ inQuotes name ++ " of query " ++ inQuotes query
  | .omittedSubstitutions => "omitting empty text substitutions section"

end Audit.Record

structure Audited (ε α : Type) where
  records : List Audit.Record
  result : Except ε α

namespace Audited

variable {ε α β : Type}

def ok (value : α) : Audited ε α := ⟨[], .ok value⟩

def fail (error : ε) : Audited ε α := ⟨[], .error error⟩

def noted (records : List Audit.Record) (value : α) : Audited ε α := ⟨records, .ok value⟩

def ofExcept (result : Except ε α) : Audited ε α := ⟨[], result⟩

def bind (first : Audited ε α) (next : α → Audited ε β) : Audited ε β :=
  match first.result with
  | .ok value => ⟨first.records ++ (next value).records, (next value).result⟩
  | .error error => ⟨first.records, .error error⟩

instance : Monad (Audited ε) where
  pure := ok
  bind := bind

@[simp] theorem records_pure (value : α) : (pure value : Audited ε α).records = [] := rfl

@[simp] theorem result_pure (value : α) : (pure value : Audited ε α).result = .ok value := rfl

@[simp] theorem result_bind (first : Audited ε α) (next : α → Audited ε β) :
    (first >>= next).result = first.result.bind fun value => (next value).result := by
  rcases first with ⟨records, error | value⟩ <;> rfl

theorem records_bind_ok {first : Audited ε α} {value : α} (next : α → Audited ε β)
    (made : first.result = .ok value) :
    (first >>= next).records = first.records ++ (next value).records := by
  rcases first with ⟨records, result⟩
  cases made
  rfl

theorem records_bind_error {first : Audited ε α} {error : ε} (next : α → Audited ε β)
    (failed : first.result = .error error) : (first >>= next).records = first.records := by
  rcases first with ⟨records, result⟩
  cases failed
  rfl

theorem records_bind_pure (first : Audited ε α) (f : α → β) :
    (first >>= fun value => pure (f value)).records = first.records := by
  cases made : first.result with
  | error error => rw [records_bind_error _ made]
  | ok value => rw [records_bind_ok _ made, records_pure, List.append_nil]

end Audited

end QueryGroup
