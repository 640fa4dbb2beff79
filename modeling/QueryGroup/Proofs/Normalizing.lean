import Mathlib.Data.List.Forall2
import QueryGroup.Query.Normalize
set_option autoImplicit false

namespace QueryGroup.Query

open Json Audit

variable {policy : PositionalPolicy} {query : String}

theorem exists_of_map_eq_ok {ε α β : Type} {result : Except ε α} {f : α → β} {value : β}
    (made : result.map f = .ok value) : ∃ source, result = .ok source ∧ f source = value := by
  cases result with
  | error refusal => cases made
  | ok source => exact ⟨source, rfl, Except.ok.inj made⟩

theorem result_stringItems_array (slot : Slot) (items : List Value) :
    (stringItems query slot (some (.array items))).result =
      .ok (items.filterMap Value.string?) := rfl

theorem result_readKeys (slot : Option Value) :
    (readKeys query slot).result =
      (stringItems query .keys slot).result.map (List.filterMap Aliased.parseKey?) :=
  Audited.result_bind _ _

theorem result_readValues (slot : Option Value) :
    (readValues query slot).result =
      (stringItems query .values slot).result.map fun items =>
        (items.filter fun item => !item.isEmpty).map Aliased.parseValue :=
  Audited.result_bind _ _

theorem result_read (slots : Slots) :
    (slots.read query).result = do
      let keys ← (readKeys query slots.keys).result
      let values ← (readValues query slots.values).result
      let filter ← readFilter query slots.filter
      return { keys, values, filter, metadata := slots.metadata } := by
  simp only [Slots.read, Audited.result_bind]
  rfl

/-- A part that is read has all its slots read. -/
theorem result_read_eq_ok_iff {slots : Slots} {part : Part} :
    (slots.read query).result = .ok part ↔
      (readKeys query slots.keys).result = .ok part.keys ∧
        (readValues query slots.values).result = .ok part.values ∧
        readFilter query slots.filter = .ok part.filter ∧ slots.metadata = part.metadata := by
  rw [result_read]
  rcases part with ⟨keys, values, filter, metadata⟩
  cases (readKeys query slots.keys).result with
  | error refusal => simp [bind, Except.bind]
  | ok keysRead =>
      cases (readValues query slots.values).result with
      | error refusal => simp [bind, Except.bind]
      | ok valuesRead =>
          cases readFilter query slots.filter with
          | error refusal => simp [bind, Except.bind]
          | ok filterRead => simp [bind, Except.bind, pure, Except.pure]

/-- The part is what the raw part of that name comes to. -/
def Normalizes (policy : PositionalPolicy) (raw : String × Value) (made : String × Part) : Prop :=
  raw.1 = made.1 ∧ (normalize policy raw.1 raw.2).result = .ok made.2

theorem result_normalizeEntries_eq_ok_iff {raws : List (String × Value)}
    {parts : List (String × Part)} :
    (normalizeEntries policy raws).result = .ok parts ↔
      List.Forall₂ (Normalizes policy) raws parts := by
  induction raws generalizing parts with
  | nil => simp [normalizeEntries, Audited.ok, eq_comm]
  | cons raw rest ih =>
      rcases raw with ⟨name, value⟩
      rw [List.forall₂_cons_left_iff]
      simp only [normalizeEntries, Audited.result_bind]
      cases made : (normalize policy name value).result with
      | error refusal => simp [Except.bind, Normalizes, made]
      | ok part =>
          cases later : (normalizeEntries policy rest).result with
          | error refusal =>
              simp only [later, reduceCtorEq, false_iff] at ih
              simp [Except.bind, ih]
          | ok partsOfRest =>
              simp only [later, Except.ok.injEq] at ih
              simp only [Except.bind, Audited.result_pure, Except.ok.injEq, Normalizes,
                made, ← ih]
              grind

theorem keys_eq_of_forall₂ {raws : List (String × Value)} {parts : List (String × Part)}
    (normalized : List.Forall₂ (Normalizes policy) raws parts) :
    Assoc.keys parts = Assoc.keys raws := by
  induction normalized with
  | nil => rfl
  | cons first _ ih => rw [Assoc.keys_cons, Assoc.keys_cons, ih, first.1]

/-- All queries are read exactly when each of them is. Their names and their order stay. -/
theorem result_normalizeAll_eq_ok_iff {queries : OrderedMap Value} {parts : OrderedMap Part} :
    (normalizeAll policy queries).result = .ok parts ↔
      List.Forall₂ (Normalizes policy) queries.entries parts.entries := by
  have distinct : ∀ {made : List (String × Part)},
      List.Forall₂ (Normalizes policy) queries.entries made → (Assoc.keys made).Nodup := by
    intro made normalized
    rw [keys_eq_of_forall₂ normalized]
    exact queries.distinct
  rw [normalizeAll, Audited.result_bind]
  cases result : (normalizeEntries policy queries.entries).result with
  | error refusal =>
      have none_made : ¬ List.Forall₂ (Normalizes policy) queries.entries parts.entries := by
        simp [← result_normalizeEntries_eq_ok_iff, result]
      simp [Except.bind, none_made]
  | ok made =>
      have normalized := result_normalizeEntries_eq_ok_iff.1 result
      have kept := OrderedMap.entries_ofList_of_nodup (distinct normalized)
      rw [← result_normalizeEntries_eq_ok_iff, result]
      simp only [Except.bind, Audited.result_pure, Except.ok.injEq, OrderedMap.ext_iff, kept]

end QueryGroup.Query
