import QueryGroup.Proofs.NamedFields
import QueryGroup.Proofs.Trimming
import QueryGroup.Query.Canonical
set_option autoImplicit false

namespace QueryGroup.Query

open Json Text

namespace Aliased

/-- The pair comes from cutting an item at its first equals sign. -/
structure IsKey (pair : Aliased) : Prop where
  named : pair.name ≠ ""
  uncut : '=' ∉ pair.name.toList

theorem toList_text (pair : Aliased) :
    pair.text.toList = pair.name.toList ++ '=' :: pair.expression.toList := by
  simp [text]

theorem text_ne_empty (pair : Aliased) : pair.text ≠ "" := by
  rw [ne_eq, ← String.toList_inj, toList_text]
  simp

/-- A key is cut where its name ends. -/
theorem parseKey?_eq_some_iff {item : String} {pair : Aliased} :
    parseKey? item = some pair ↔ pair.IsKey ∧ item = pair.text := by
  constructor
  · intro parsed
    unfold parseKey? at parsed
    split at parsed
    · next c name expression cut =>
      cases parsed
      have shape := (split?_eq_some_iff _ _ _).1 cut
      refine ⟨⟨?_, ?_⟩, ?_⟩
      · simp
      · simpa using shape.1
      · rw [← String.toList_inj, toList_text, shape.2]
        simp
    · cases parsed
  · rintro ⟨⟨named, uncut⟩, rfl⟩
    have cut := (split?_eq_some_iff _ _ _).2 ⟨uncut, toList_text pair⟩
    obtain ⟨c, name, front⟩ := List.exists_cons_of_ne_nil (mt String.toList_eq_nil_iff.1 named)
    rw [front] at cut
    simp only [parseKey?, cut]
    rw [← front, String.ofList_toList, String.ofList_toList]

theorem parseKey?_eq_none_iff {item : String} :
    parseKey? item = none ↔ '=' ∉ item.toList ∨ item.toList.head? = some '=' := by
  unfold parseKey?
  cases cut : split? item.toList with
  | none => simp [(split?_eq_none_iff _).1 cut]
  | some parts =>
      rcases parts with ⟨name, expression⟩
      obtain ⟨uncut, shape⟩ := (split?_eq_some_iff _ _ _).1 cut
      cases name with
      | nil => simp [shape]
      | cons c rest =>
          have first : c ≠ '=' := fun same => uncut (by simp [same])
          simp [shape, first]

theorem parseKey?_text {pair : Aliased} (key : pair.IsKey) : parseKey? pair.text = some pair :=
  parseKey?_eq_some_iff.2 ⟨key, rfl⟩

/-- The pair comes from an item that was not cut, or from one that was. -/
def IsValue (pair : Aliased) : Prop :=
  pair.IsKey ∨ pair.name ≠ "" ∧ pair.expression = pair.name ∧ parseKey? pair.name = none

theorem isValue_parseValue {item : String} (present : item ≠ "") : (parseValue item).IsValue := by
  unfold parseValue
  cases parsed : parseKey? item with
  | none => exact .inr ⟨present, rfl, parsed⟩
  | some pair => exact .inl (parseKey?_eq_some_iff.1 parsed).1

theorem name_ne_empty {pair : Aliased} (value : pair.IsValue) : pair.name ≠ "" := by
  rcases value with key | ⟨present, -⟩
  · exact key.named
  · exact present

/-- A name without an equals sign is no key by itself. -/
theorem parseKey?_name {pair : Aliased} (key : pair.IsKey) : parseKey? pair.name = none := by
  have uncut : split? pair.name.toList = none := (split?_eq_none_iff _).2 key.uncut
  simp only [parseKey?, uncut]

theorem parseValue_shortItem {pair : Aliased} (value : pair.IsValue) :
    parseValue pair.shortItem = pair := by
  unfold shortItem
  by_cases same : pair.name = pair.expression
  · have whole : parseKey? pair.name = none := by
      rcases value with key | ⟨-, -, whole⟩
      · exact parseKey?_name key
      · exact whole
    rw [if_pos same, parseValue, whole, Option.getD_none]
    cases pair
    cases same
    rfl
  · rcases value with key | ⟨-, whole, -⟩
    · rw [if_neg same, parseValue, parseKey?_text key, Option.getD_some]
    · exact absurd whole.symm same

theorem shortItem_ne_empty {pair : Aliased} (value : pair.IsValue) : pair.shortItem ≠ "" := by
  unfold shortItem
  split
  · exact name_ne_empty value
  · exact text_ne_empty pair

end Aliased

/-- What holds of every part that normalizing gives. -/
structure Part.IsCanonical (part : Part) : Prop where
  keys : ∀ key ∈ part.keys, key.IsKey
  values : ∀ value ∈ part.values, value.IsValue
  filter : trim part.filter = part.filter

variable {policy : PositionalPolicy} {query : String}

theorem isKey_of_readKeys {slot : Option Value} {keys : List Aliased}
    (read : (readKeys query slot).result = .ok keys) : ∀ key ∈ keys, key.IsKey := by
  rw [result_readKeys] at read
  obtain ⟨items, -, rfl⟩ := exists_of_map_eq_ok read
  intro key member
  obtain ⟨item, -, parsed⟩ := List.mem_filterMap.1 member
  exact (Aliased.parseKey?_eq_some_iff.1 parsed).1

theorem isValue_of_readValues {slot : Option Value} {values : List Aliased}
    (read : (readValues query slot).result = .ok values) : ∀ value ∈ values, value.IsValue := by
  rw [result_readValues] at read
  obtain ⟨items, -, rfl⟩ := exists_of_map_eq_ok read
  intro value member
  obtain ⟨item, kept, rfl⟩ := List.mem_map.1 member
  have present : item ≠ "" := by simpa using (List.mem_filter.1 kept).2
  exact Aliased.isValue_parseValue present

theorem trim_of_readFilter {slot : Option Value} {filter : String}
    (read : readFilter query slot = .ok filter) : trim filter = filter := by
  unfold readFilter at read
  split at read <;> cases read
  · rfl
  · rfl
  · exact trim_trim _
  · exact trim_bool _
  · exact trim_number _

theorem isCanonical_of_read {slots : Slots} {part : Part}
    (read : (slots.read query).result = .ok part) : part.IsCanonical := by
  obtain ⟨keys, values, filter, -⟩ := result_read_eq_ok_iff.1 read
  exact ⟨isKey_of_readKeys keys, isValue_of_readValues values, trim_of_readFilter filter⟩

/-- An array that has a canonical part has its slots read. -/
theorem read_of_normalize_array {elements : List Value} {part : Part}
    (made : (normalize policy query (.array elements)).result = .ok part) :
    ((Slots.ofList elements).read query).result = .ok part := by
  change (normalizeRaw policy query (.positional elements)).result = .ok part at made
  rw [normalizeRaw, Audited.result_bind] at made
  cases admitted : (admitLength policy query elements.length).result with
  | error refusal => simp [admitted, Except.bind] at made
  | ok _ =>
      rw [admitted] at made
      exact made

/-- Whatever has a canonical part supplies slots, and they are read. -/
theorem exists_read_of_normalize {raw : Value} {part : Part}
    (made : (normalize policy query raw).result = .ok part) :
    ∃ slots, Supplies raw slots ∧ (slots.read query).result = .ok part := by
  cases raw with
  | array elements => exact ⟨_, supplies_array_iff.2 rfl, read_of_normalize_array made⟩
  | object fields => exact ⟨_, supplies_object_iff.2 rfl, made⟩
  | null | bool | number | string => cases made

theorem isCanonical_of_normalize {raw : Value} {part : Part}
    (made : (normalize policy query raw).result = .ok part) : part.IsCanonical := by
  obtain ⟨slots, -, read⟩ := exists_read_of_normalize made
  exact isCanonical_of_read read

namespace Part

variable {part : Part} {item : Aliased → String}

/-- What the part puts into its slots, behind an element that is ignored. -/
def elements (item : Aliased → String) (part : Part) : List Value :=
  [.null, strings (part.keys.map Aliased.text), strings (part.values.map item),
    .string part.filter] ++ part.metadata.toList

theorem toNamed_eq (item : Aliased → String) (part : Part) :
    part.toNamed item = .object (Slots.members (part.elements item)) := by
  rcases part with ⟨keys, values, filter, _ | metadata⟩ <;> rfl

theorem ofList_elements (item : Aliased → String) (part : Part) :
    Slots.ofList (part.elements item) = {
      keys := some (strings (part.keys.map Aliased.text))
      values := some (strings (part.values.map item))
      filter := some (.string part.filter)
      metadata := part.metadata } := by
  rcases part with ⟨keys, values, filter, _ | metadata⟩ <;> rfl

theorem completeLength_le_elements (item : Aliased → String) (part : Part) :
    completeLength ≤ (part.elements item).length := by
  simp [elements, completeLength]

/-- In either shape the part is read from the same slots. -/
theorem result_normalize_toRaw (shape : Shape) :
    (normalize policy query (part.toRaw item shape)).result =
      ((Slots.ofList (part.elements item)).read query).result := by
  cases shape with
  | named =>
      rw [toRaw, toNamed_eq]
      exact congrArg Audited.result (Slots.read_ofFields query (List.Perm.refl _))
  | positional =>
      exact result_normalize_array query (.inr (completeLength_le_elements item part))

theorem strings_filterMap (items : List String) :
    (items.map Value.string).filterMap Value.string? = items := by
  induction items with
  | nil => rfl
  | cons item rest ih =>
      have first : Value.string? (.string item) = some item := rfl
      rw [List.map_cons, List.filterMap_cons_some first, ih]

theorem result_readKeys_strings {keys : List Aliased} (each : ∀ key ∈ keys, key.IsKey) :
    (readKeys query (some (strings (keys.map Aliased.text)))).result = .ok keys := by
  rw [result_readKeys, strings, result_stringItems_array, strings_filterMap]
  induction keys with
  | nil => rfl
  | cons key rest ih =>
      have first := Aliased.parseKey?_text (each key (by simp))
      have later := ih fun other member => each other (List.mem_cons_of_mem _ member)
      simp only [Except.map, Except.ok.injEq] at later ⊢
      rw [List.map_cons, List.filterMap_cons_some first, later]

theorem result_readValues_strings {values : List Aliased}
    (each : ∀ value ∈ values, Aliased.parseValue (item value) = value ∧ item value ≠ "") :
    (readValues query (some (strings (values.map item)))).result = .ok values := by
  have kept : (values.map item).filter (fun item => !item.isEmpty) = values.map item := by
    apply List.filter_eq_self.2
    intro text member
    obtain ⟨value, inside, rfl⟩ := List.mem_map.1 member
    simpa using (each value inside).2
  have parsed : (values.map item).map Aliased.parseValue = values := by
    rw [List.map_map]
    exact (List.map_congr_left fun value inside => (each value inside).1).trans (List.map_id _)
  rw [result_readValues, strings, result_stringItems_array, strings_filterMap]
  simp only [Except.map, kept, parsed]

/-- A canonical part normalizes to itself, as long as its value items are parsed back. -/
theorem IsCanonical.result_normalize_toRaw (canonical : part.IsCanonical)
    (each : ∀ value ∈ part.values,
      Aliased.parseValue (item value) = value ∧ item value ≠ "") (shape : Shape) :
    (normalize policy query (part.toRaw item shape)).result = .ok part := by
  rw [Part.result_normalize_toRaw, ofList_elements]
  apply result_read_eq_ok_iff.2
  refine ⟨result_readKeys_strings canonical.keys, result_readValues_strings each, ?_, rfl⟩
  exact congrArg Except.ok canonical.filter

theorem IsCanonical.result_normalize_shortItem (canonical : part.IsCanonical) (shape : Shape) :
    (normalize policy query (part.toRaw Aliased.shortItem shape)).result = .ok part :=
  canonical.result_normalize_toRaw (fun value inside =>
    ⟨Aliased.parseValue_shortItem (canonical.values value inside),
      Aliased.shortItem_ne_empty (canonical.values value inside)⟩) shape

end Part

end QueryGroup.Query
