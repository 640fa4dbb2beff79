import QueryGroup.Proofs.IgnoredData
set_option autoImplicit false

namespace QueryGroup

namespace Audit

/-- The part stands somewhere in the text between quotes. -/
def Quotes (text part : String) : Prop :=
  ∃ front back, text = front ++ ("'" ++ part ++ "'") ++ back

namespace Quotes

variable {text part : String}

theorem inQuotes (part : String) : Quotes (Record.inQuotes part) part :=
  ⟨"", "", by rw [String.empty_append, String.append_empty, Record.inQuotes]⟩

theorem before (quotes : Quotes text part) (more : String) : Quotes (text ++ more) part := by
  obtain ⟨front, back, rfl⟩ := quotes
  exact ⟨front, back ++ more, String.append_assoc⟩

theorem behind (quotes : Quotes text part) (more : String) : Quotes (more ++ text) part := by
  obtain ⟨front, back, rfl⟩ := quotes
  exact ⟨more ++ front, back, by simp only [String.append_assoc]⟩

end Quotes

namespace Record

/-- The texts that a record is about: its query, and the item or the key of it. -/
def subjects : Record → List String
  | .shortPart query _ | .skippedItem query _ _ | .droppedValue query => [query]
  | .droppedKey query item | .ownAlias query item | .excludedKey item query => [query, item]
  | .omittedSubstitutions => []

/-- A message has every subject of its record between quotes. -/
theorem quotes_of_mem_subjects {record : Record} {text : String}
    (named : text ∈ record.subjects) : Quotes record.message text := by
  cases record with
  | shortPart query count =>
      obtain rfl := List.mem_singleton.1 named
      exact (Quotes.inQuotes text).behind _ |>.before _ |>.before _ |>.before _
  | skippedItem query kind slot =>
      obtain rfl := List.mem_singleton.1 named
      exact (Quotes.inQuotes text).behind _ |>.before _ |>.before _ |>.before _ |>.before _
  | droppedValue query =>
      obtain rfl := List.mem_singleton.1 named
      exact (Quotes.inQuotes text).behind _ |>.before _
  | droppedKey query item | ownAlias query item =>
      obtain rfl | rfl : text = query ∨ text = item := by simpa [subjects] using named
      · exact (Quotes.inQuotes text).behind _ |>.before _ |>.before _ |>.before _
      · exact (Quotes.inQuotes text).behind _ |>.before _
  | excludedKey item query =>
      obtain rfl | rfl : text = query ∨ text = item := by simpa [subjects] using named
      · exact (Quotes.inQuotes text).behind _
      · exact (Quotes.inQuotes text).behind _ |>.before _ |>.before _
  | omittedSubstitutions => cases named

end Record

end Audit

namespace Query

open Audit Json

/-- What becomes of an item in a list of keys or values. -/
inductive Fate where
  /-- It is no string. -/
  | skipped (kind : Kind)
  | dropped (item : String)
  | kept (pair : Aliased)
  /-- A value that cannot be cut is kept under its own name. -/
  | keptWhole (item : String)
deriving DecidableEq

namespace Fate

def of (slot : Slot) : Value → Fate
  | .string item =>
      match Aliased.parseKey? item, slot with
      | some pair, _ => .kept pair
      | none, .keys => .dropped item
      | none, .values => if item = "" then .dropped item else .keptWhole item
  | other => .skipped other.kind

def isSkipped : Fate → Bool
  | .skipped _ => true
  | _ => false

def pair? : Fate → Option Aliased
  | .kept pair => some pair
  | .keptWhole item => some ⟨item, item⟩
  | .skipped _ | .dropped _ => none

/-- The record that tells of the item. -/
def record? (query : String) (slot : Slot) : Fate → Option Record
  | .skipped kind => some (.skippedItem query kind slot)
  | .dropped item =>
      match slot with
      | .keys => some (.droppedKey query item)
      | .values => some (.droppedValue query)
  | .kept _ => none
  | .keptWhole item => some (.ownAlias query item)

/-- The records of a list, those of items that are no strings ahead of the others. -/
def records (query : String) (slot : Slot) (fates : List Fate) : List Record :=
  (fates.filter isSkipped ++ fates.filter fun fate => !fate.isSkipped).filterMap
    (record? query slot)

end Fate

def arrayItems : Option Value → List Value
  | some (.array items) => items
  | _ => []

namespace Slots

/-- What becomes of each item in a slot. -/
def fates (slots : Slots) (slot : Slot) : List Fate :=
  (arrayItems (slots.items slot)).map (Fate.of slot)

def records (query : String) (slots : Slots) (slot : Slot) : List Record :=
  Fate.records query slot (slots.fates slot)

/-- The records of the slots that are read before this one. -/
def recordsBefore (query : String) (slots : Slots) : Part.Field → List Record
  | .keys => []
  | .values => slots.records query .keys
  | .filter => slots.records query .keys ++ slots.records query .values

end Slots

/-- The record of an array that lacks slots. -/
def shortRecords (query : String) : Value → List Record
  | .array elements => if elements.length < 4 then [.shortPart query elements.length] else []
  | _ => []

/-- The records of a raw part: of its length, then of its keys and of its values. -/
def Tells (raw : String × Value) (records : List Record) : Prop :=
  ∃ slots, Supplies raw.2 slots ∧
    records = shortRecords raw.1 raw.2 ++ slots.records raw.1 .keys ++ slots.records raw.1 .values

/-- The records of a raw part up to what it is refused for. -/
inductive TellsUpTo (raw : String × Value) : Refusal → List Record → Prop
  | shape (found : Kind) : TellsUpTo raw (.inputShape raw.1 found) []
  | length (count : Nat) : TellsUpTo raw (.shortPositional raw.1 count) []
  | slot {slots : Slots} (supplied : Supplies raw.2 slots) (field : Part.Field) (found : Kind) :
      TellsUpTo raw (.fieldShape raw.1 field found)
        (shortRecords raw.1 raw.2 ++ slots.recordsBefore raw.1 field)

/-- The part has the items of the raw one that are kept, in their order. -/
def KeepsItems (raw : String × Value) (made : String × Part) : Prop :=
  raw.1 = made.1 ∧ ∃ slots, Supplies raw.2 slots ∧
    made.2.keys = (slots.fates .keys).filterMap Fate.pair? ∧
    made.2.values = (slots.fates .values).filterMap Fate.pair?

variable {policy : PositionalPolicy} {query : String}

/-- An item that can be cut is neither empty nor its own name. -/
theorem ne_of_parseKey? {item : String} {pair : Aliased}
    (parsed : Aliased.parseKey? item = some pair) : item ≠ "" ∧ pair ≠ ⟨item, item⟩ := by
  obtain ⟨key, rfl⟩ := Aliased.parseKey?_eq_some_iff.1 parsed
  refine ⟨Aliased.text_ne_empty pair, ?_⟩
  intro same
  have whole : pair.name = pair.text := congrArg Aliased.name same
  have inside : '=' ∈ pair.text.toList := by simp [Aliased.toList_text]
  exact key.uncut (whole ▸ inside)

namespace Fate

theorem pair?_of_key (item : String) :
    (of .keys (.string item)).pair? = Aliased.parseKey? item := by
  cases parsed : Aliased.parseKey? item <;> simp [of, parsed, pair?]

theorem record?_of_key (query item : String) :
    (of .keys (.string item)).record? query .keys =
      if (Aliased.parseKey? item).isSome then none else some (.droppedKey query item) := by
  cases parsed : Aliased.parseKey? item <;> simp [of, parsed, record?]

theorem pair?_of_value (item : String) :
    (of .values (.string item)).pair? =
      if item.isEmpty then none else some (Aliased.parseValue item) := by
  cases parsed : Aliased.parseKey? item with
  | some pair => simp [of, parsed, pair?, Aliased.parseValue, (ne_of_parseKey? parsed).1]
  | none =>
      by_cases empty : item = ""
      · subst empty
        rfl
      · simp [of, parsed, pair?, Aliased.parseValue, empty]

theorem record?_of_value (query item : String) :
    (of .values (.string item)).record? query .values = valueRecord? query item := by
  cases parsed : Aliased.parseKey? item with
  | some pair =>
      obtain ⟨present, other⟩ := ne_of_parseKey? parsed
      simp [of, parsed, record?, valueRecord?, Aliased.parseValue, present, other]
  | none =>
      by_cases empty : item = ""
      · subst empty
        rfl
      · simp [of, parsed, record?, valueRecord?, Aliased.parseValue, empty]

theorem isSkipped_of_string (slot : Slot) (item : String) :
    (of slot (.string item)).isSkipped = false := by
  cases parsed : Aliased.parseKey? item with
  | some pair => simp [of, parsed, isSkipped]
  | none =>
      cases slot with
      | keys => simp [of, parsed, isSkipped]
      | values =>
          simp only [of, parsed]
          split <;> rfl

/-- What is not said of items that are no strings is said of the strings alone. -/
theorem filterMap_map_of {β : Type} (slot : Slot) {said? : Fate → Option β}
    (nothing : ∀ kind, said? (.skipped kind) = none) (items : List Value) :
    (items.map (of slot)).filterMap said? =
      (items.filterMap Value.string?).filterMap fun item => said? (of slot (.string item)) := by
  rw [List.filterMap_map, List.filterMap_filterMap]
  apply List.filterMap_congr
  intro item _
  cases item with
  | string text => rfl
  | null | bool | number | array | object => exact nothing _

theorem filterMap_pair?_map_of (slot : Slot) (items : List Value) :
    (items.map (of slot)).filterMap pair? = keptItems slot items := by
  rw [filterMap_map_of slot fun _ => rfl]
  cases slot with
  | keys => simp only [pair?_of_key, keptItems]
  | values =>
      rw [keptItems, ← List.filterMap_eq_map, List.filterMap_filter]
      apply List.filterMap_congr
      intro item _
      rw [pair?_of_value]
      cases item.isEmpty <;> rfl

/-- The items that are no strings are told of on a first pass over the list, and the strings on
a second one. -/
theorem records_map_of (query : String) (slot : Slot) (items : List Value) :
    records query slot (items.map (of slot)) =
      (stringItems query slot (some (.array items))).records ++
        (items.filterMap Value.string?).filterMap fun item =>
          (of slot (.string item)).record? query slot := by
  rw [records, List.filterMap_append, List.filterMap_filter, List.filterMap_filter]
  congr 1
  · rw [List.filterMap_map]
    apply List.filterMap_congr
    intro item _
    cases item with
    | string text => simp [isSkipped_of_string]
    | null | bool | number | array | object => rfl
  · rw [filterMap_map_of slot fun _ => rfl]
    simp [isSkipped_of_string]

end Fate

theorem records_readKeys (query : String) (slots : Slots) :
    (readKeys query slots.keys).records = slots.records query .keys := by
  rcases slots with ⟨_ | _ | _ | _ | _ | items | _, values, filter, metadata⟩
  case some.array =>
    have read : (stringItems query .keys (some (.array items))).result = .ok _ :=
      result_stringItems_array .keys items
    simp only [readKeys, Audited.records_bind_ok _ read, Slots.records, Slots.fates, Slots.items,
      arrayItems, Fate.records_map_of, Fate.record?_of_key]
    rfl
  all_goals rfl

theorem records_readValues (query : String) (slots : Slots) :
    (readValues query slots.values).records = slots.records query .values := by
  rcases slots with ⟨keys, _ | _ | _ | _ | _ | items | _, filter, metadata⟩
  case some.array =>
    have read : (stringItems query .values (some (.array items))).result = .ok _ :=
      result_stringItems_array .values items
    simp only [readValues, Audited.records_bind_ok _ read, Slots.records, Slots.fates, Slots.items,
      arrayItems, Fate.records_map_of, Fate.record?_of_value]
    rfl
  all_goals rfl

namespace Slots

variable {slots : Slots}

/-- A slot that a part is refused for has no items to tell of. -/
theorem records_of_misfit (slot : Slot) {refusal : Refusal}
    (unfit : Misfit query (slotField slot) (slots.items slot) refusal) :
    slots.records query slot = [] := by
  obtain ⟨value, held, unread, -⟩ := unfit
  have listed : Kind.sequence ∈ (slotField slot).kinds := by cases slot <;> decide
  have unlisted : arrayItems (slots.items slot) = [] := by
    rw [held]
    cases value with
    | array items => exact absurd listed unread
    | null | bool | number | string | object => rfl
  rw [records, fates, unlisted]
  rfl

/-- Behind the keys the values are read, and nothing is told of the filter. -/
theorem records_read_of_keys {keys : List Aliased}
    (read : (readKeys query slots.keys).result = .ok keys) :
    (slots.read query).records = slots.records query .keys ++ slots.records query .values := by
  rw [Slots.read, Audited.records_bind_ok _ read, records_readKeys]
  congr 1
  cases values : (readValues query slots.values).result with
  | error refusal => rw [Audited.records_bind_error _ values, records_readValues]
  | ok made =>
      rw [Audited.records_bind_ok _ values, records_readValues]
      cases readFilter query slots.filter <;> exact List.append_nil _

theorem records_read_of_ok {part : Part} (made : (slots.read query).result = .ok part) :
    (slots.read query).records = slots.records query .keys ++ slots.records query .values :=
  records_read_of_keys (result_read_eq_ok_iff.1 made).1

theorem records_read_of_refused {refusal : Refusal} (refused : slots.Refused query refusal) :
    ∃ field found, refusal = .fieldShape query field found ∧
      (slots.read query).records = slots.recordsBefore query field := by
  obtain ⟨field, earlier, unfit⟩ := refused
  obtain ⟨value, -, -, shape⟩ := id unfit
  refine ⟨field, value.kind, shape, ?_⟩
  have readable (fits : slots.Fits .keys) :
      ∃ keys, (readKeys query slots.keys).result = .ok keys := exists_readKeys_iff.2 fits
  cases field with
  | keys =>
      have failed := result_readKeys_eq_error_iff.2 unfit
      rw [Slots.read, Audited.records_bind_error _ failed, records_readKeys,
        records_of_misfit .keys unfit]
      rfl
  | values =>
      obtain ⟨keys, read⟩ := readable (earlier .keys (by simp [Part.Field.before]))
      rw [records_read_of_keys read, records_of_misfit .values unfit, List.append_nil]
      rfl
  | filter =>
      obtain ⟨keys, read⟩ := readable (earlier .keys (by simp [Part.Field.before]))
      exact records_read_of_keys read

end Slots

theorem records_normalize_array {elements : List Value}
    (admitted : policy = .lenient ∨ completeLength ≤ elements.length) :
    (normalize policy query (.array elements)).records =
      shortRecords query (.array elements) ++ ((Slots.ofList elements).read query).records := by
  show (normalizeRaw policy query (.positional elements)).records = _
  rw [normalizeRaw, Audited.records_bind_ok _ (result_admitLength query admitted)]
  congr 1
  unfold admitLength
  rw [shortRecords]
  by_cases complete : completeLength ≤ elements.length
  · have long : ¬ elements.length < 4 := Nat.not_lt.2 complete
    rw [if_pos complete, if_neg long]
    rfl
  · have short : elements.length < 4 := Nat.lt_of_not_le complete
    rw [if_neg complete, if_pos short, admitted.resolve_right complete]
    rfl

/-- A raw part that is read has everything in its lists told of. -/
theorem tells_normalize_of_ok {raw : Value} {part : Part}
    (made : (normalize policy query raw).result = .ok part) :
    Tells (query, raw) (normalize policy query raw).records := by
  cases raw with
  | array elements =>
      cases (exists_normalize_iff query).1 ⟨part, made⟩ with
      | positional long _ _ =>
          refine ⟨_, supplies_array_iff.2 rfl, ?_⟩
          rw [records_normalize_array (admitted_of_long long),
            Slots.records_read_of_ok (read_of_normalize_array made), ← List.append_assoc]
  | object fields => exact ⟨_, supplies_object_iff.2 rfl, Slots.records_read_of_ok made⟩
  | null | bool | number | string => cases made

/-- A raw part that is refused has nothing told of but what was read of it before. -/
theorem tellsUpTo_normalize_of_refused {raw : Value} {refusal : Refusal}
    (refused : Refused policy query raw refusal) :
    TellsUpTo (query, raw) refusal (normalize policy query raw).records := by
  cases refused with
  | shapeless unlisted unnamed =>
      cases raw with
      | array elements => exact absurd rfl unlisted
      | object fields => exact absurd rfl unnamed
      | null | bool | number | string => exact .shape _
  | short strict few =>
      rw [normalize_short strict few]
      exact .length _
  | positional long places unfit =>
      obtain ⟨field, found, rfl, records⟩ := Slots.records_read_of_refused unfit
      rw [records_normalize_array (admitted_of_long long), ← placesSlots_iff.1 places, records]
      exact .slot (.positional places) field found
  | @named fields _ _ resolves unfit =>
      obtain ⟨field, found, rfl, records⟩ := Slots.records_read_of_refused unfit
      have told : (normalize policy query (.object fields)).records =
          ((Slots.ofFields fields).read query).records := rfl
      rw [told, ← resolvesSlots_iff.1 resolves, records]
      exact .slot (.named resolves) field found

/-- Parts are told of one after another, as long as they are read. -/
theorem records_normalizeEntries_append {front : List (String × Value)}
    (admissible : ∀ entry ∈ front, Admissible policy entry.2) (back : List (String × Value)) :
    ∃ told, List.Forall₂ Tells front told ∧
      (normalizeEntries policy (front ++ back)).records =
        told.flatten ++ (normalizeEntries policy back).records := by
  induction front with
  | nil => exact ⟨[], .nil, rfl⟩
  | cons entry rest ih =>
      rw [List.forall_mem_cons] at admissible
      obtain ⟨part, made⟩ := (exists_normalize_iff entry.1).2 admissible.1
      obtain ⟨told, each, later⟩ := ih admissible.2
      refine ⟨_ :: told, .cons (tells_normalize_of_ok made) each, ?_⟩
      rw [List.cons_append, normalizeEntries, Audited.records_bind_ok _ made,
        Audited.records_bind_pure, later, List.flatten_cons, List.append_assoc]

theorem tellsUpTo_normalizeEntries_cons {entry : String × Value} {refusal : Refusal}
    (refused : Refused policy entry.1 entry.2 refusal) (back : List (String × Value)) :
    TellsUpTo entry refusal (normalizeEntries policy (entry :: back)).records := by
  have failed := result_normalize_eq_error_iff.2 refused
  rw [normalizeEntries, Audited.records_bind_error _ failed]
  exact tellsUpTo_normalize_of_refused refused

theorem records_normalizeAll (queries : OrderedMap Value) :
    (normalizeAll policy queries).records = (normalizeEntries policy queries.entries).records :=
  Audited.records_bind_pure _ _

theorem kept_eq_of_readItems {slots : Slots} {slot : Slot} {kept : List Aliased}
    (read : readItems query slot (slots.items slot) = .ok kept) :
    kept = (slots.fates slot).filterMap Fate.pair? := by
  rw [Slots.fates, Fate.filterMap_pair?_map_of]
  generalize slots.items slot = held at read ⊢
  rcases held with _ | _ | _ | _ | _ | items | _
  case some.array =>
    rw [readItems_array] at read
    exact (Except.ok.inj read).symm
  all_goals cases slot <;> cases read <;> rfl

theorem Normalizes.keepsItems {raw : String × Value} {made : String × Part}
    (normalized : Normalizes policy raw made) : KeepsItems raw made := by
  obtain ⟨slots, supplied, read⟩ := exists_read_of_normalize normalized.2
  obtain ⟨keys, values, -, -⟩ := result_read_eq_ok_iff.1 read
  exact ⟨normalized.1, slots, supplied, @kept_eq_of_readItems raw.1 slots .keys _ keys,
    @kept_eq_of_readItems raw.1 slots .values _ values⟩

/-- The record was made where that query was normalized, and says so. -/
structure TellsOf (query : String) (record : Record) : Prop where
  stage : record.stage = "querydef::normalize"
  subject : query ∈ record.subjects

theorem tellsOf_of_mem_records {slots : Slots} {slot : Slot} {record : Record}
    (told : record ∈ slots.records query slot) : TellsOf query record := by
  obtain ⟨fate, -, named⟩ := List.mem_filterMap.1 told
  cases fate with
  | kept pair => cases named
  | skipped kind =>
      cases named
      exact ⟨rfl, List.mem_cons_self⟩
  | keptWhole item =>
      cases named
      exact ⟨rfl, List.mem_cons_self⟩
  | dropped item =>
      cases slot <;> cases named <;> exact ⟨rfl, List.mem_cons_self⟩

theorem tellsOf_of_mem_shortRecords {raw : Value} {record : Record}
    (told : record ∈ shortRecords query raw) : TellsOf query record := by
  cases raw with
  | array elements =>
      rw [shortRecords] at told
      split at told
      · cases List.mem_singleton.1 told
        exact ⟨rfl, List.mem_cons_self⟩
      · cases told
  | null | bool | number | string | object => cases told

theorem Tells.tellsOf {raw : String × Value} {records : List Record} (tells : Tells raw records)
    {record : Record} (told : record ∈ records) : TellsOf raw.1 record := by
  obtain ⟨slots, -, rfl⟩ := tells
  simp only [List.mem_append] at told
  rcases told with (short | key) | value
  · exact tellsOf_of_mem_shortRecords short
  · exact tellsOf_of_mem_records key
  · exact tellsOf_of_mem_records value

/-- Every record of a raw part has the part's name in its message. -/
theorem Tells.quotes {raw : String × Value} {records : List Record} (tells : Tells raw records)
    {record : Record} (told : record ∈ records) : Quotes record.message raw.1 :=
  Record.quotes_of_mem_subjects (tells.tellsOf told).subject

/-- The record of an item that is a text has the item in its message, if that is not empty. -/
theorem Fate.quotes_of_record? {slot : Slot} {item : String} (present : item ≠ "")
    {record : Record} (told : (Fate.of slot (.string item)).record? query slot = some record) :
    Quotes record.message item := by
  apply Record.quotes_of_mem_subjects
  cases parsed : Aliased.parseKey? item with
  | some pair => simp [of, parsed, record?] at told
  | none =>
      cases slot with
      | keys =>
          obtain rfl : .droppedKey query item = record := by simpa [of, parsed, record?] using told
          exact List.mem_cons_of_mem _ List.mem_cons_self
      | values =>
          obtain rfl : .ownAlias query item = record := by
            simpa [of, parsed, record?, present] using told
          exact List.mem_cons_of_mem _ List.mem_cons_self

theorem stage_of_mem_flatten {raws : List (String × Value)} {told : List (List Record)}
    (each : List.Forall₂ Tells raws told) {record : Record} (member : record ∈ told.flatten) :
    record.stage = "querydef::normalize" := by
  induction each with
  | nil => cases member
  | cons tells _ ih =>
      rw [List.flatten_cons, List.mem_append] at member
      exact member.elim (fun inside => (tells.tellsOf inside).stage) ih

/-- What is told up to a slot is the beginning of what is told of the whole part. -/
theorem TellsUpTo.isPrefix {raw : String × Value} {refusal : Refusal} {records whole : List Record}
    (upTo : TellsUpTo raw refusal records) (tells : Tells raw whole) : records <+: whole := by
  obtain ⟨slots, supplied, rfl⟩ := tells
  cases upTo with
  | shape | length => exact List.nil_prefix
  | slot supplied' field _ =>
      rw [List.append_assoc, supplied'.unique supplied]
      refine (List.prefix_append_right_inj _).2 ?_
      cases field with
      | keys => exact List.nil_prefix
      | values => exact List.prefix_append _ _
      | filter => exact List.prefix_refl _

theorem TellsUpTo.stage {raw : String × Value} {refusal : Refusal} {records : List Record}
    (upTo : TellsUpTo raw refusal records) {record : Record} (told : record ∈ records) :
    record.stage = "querydef::normalize" := by
  cases upTo with
  | shape | length => cases told
  | slot supplied field found =>
      have whole : Tells raw _ := ⟨_, supplied, rfl⟩
      exact (whole.tellsOf
        (((TellsUpTo.slot supplied field found).isPrefix whole).subset told)).stage

end Query

end QueryGroup
