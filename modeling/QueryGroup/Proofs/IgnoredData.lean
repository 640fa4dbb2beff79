import Mathlib.Logic.Relation
import QueryGroup.Proofs.Admission
import QueryGroup.Proofs.Canonical
import QueryGroup.Proofs.Fidelity
set_option autoImplicit false

namespace QueryGroup

open Json Query Text

namespace Query

/-- Items that a slot drops. -/
inductive Dropped : Slot → Value → Prop
  | noString {slot : Slot} {item : Value} (other : item.kind ≠ .string) : Dropped slot item
  | uncut {text : String} (absent : '=' ∉ text.toList) : Dropped .keys (.string text)
  | nameless {text : String} (starts : text.toList.head? = some '=') :
      Dropped .keys (.string text)
  | empty : Dropped .values (.string "")

/-- One dropped item more. -/
inductive ItemEdit (slot : Slot) : List Value → List Value → Prop
  | insert (front back : List Value) {item : Value} (dropped : Dropped slot item) :
      ItemEdit slot (front ++ back) (front ++ item :: back)

/-- The place of a slot in a positional part. -/
def slotIndex : Slot → Nat
  | .keys => 1
  | .values => 2

/-- The names under which a named part is read, its metadata aside. -/
def readNames : List String := ["keys", "values", "filterText", "filter"]

/-- One edit of data in a raw part that nothing is read from. Members come and go if their name
is, in whatever case, that of the metadata or none that is known. -/
inductive RawEdit : Value → Value → Prop
  | first (old new : Value) (rest : List Value) :
      RawEdit (.array (old :: rest)) (.array (new :: rest))
  | behind (slots old new : List Value) (complete : slots.length = 4) :
      RawEdit (.array (slots ++ old)) (.array (slots ++ new))
  | element {slot : Slot} {front old new : List Value} (back : List Value)
      (place : front.length = slotIndex slot) (edit : ItemEdit slot old new) :
      RawEdit (.array (front ++ .array old :: back)) (.array (front ++ .array new :: back))
  | member {slot : Slot} {name : String} {old new : List Value}
      (front back : List (String × Value)) (named : sameLetters name slot.name = true)
      (edit : ItemEdit slot old new) :
      RawEdit (.object (front ++ (name, .array old) :: back))
        (.object (front ++ (name, .array new) :: back))
  | unread {name : String} (front back : List (String × Value)) (value : Value)
      (unknown : ∀ wanted ∈ readNames, sameLetters name wanted = false) :
      RawEdit (.object (front ++ back)) (.object (front ++ (name, value) :: back))

/-- The items of a slot that are kept. -/
def keptItems : Slot → List Value → List Aliased
  | .keys, items => (items.filterMap Value.string?).filterMap Aliased.parseKey?
  | .values, items =>
      ((items.filterMap Value.string?).filter fun item => !item.isEmpty).map Aliased.parseValue

theorem keptItems_append (slot : Slot) (front back : List Value) :
    keptItems slot (front ++ back) = keptItems slot front ++ keptItems slot back := by
  cases slot <;> simp [keptItems]

theorem keptItems_cons_dropped {slot : Slot} {item : Value} (dropped : Dropped slot item)
    (rest : List Value) : keptItems slot (item :: rest) = keptItems slot rest := by
  have shorter (skipped : item.string? = none) :
      (item :: rest).filterMap Value.string? = rest.filterMap Value.string? :=
    List.filterMap_cons_none skipped
  cases dropped with
  | noString other =>
      have skipped : item.string? = none := by
        cases item with
        | string text => exact absurd rfl other
        | null | bool | number | array | object => rfl
      cases slot <;> simp only [keptItems, shorter skipped]
  | uncut absent =>
      have none_parsed := Aliased.parseKey?_eq_none_iff.2 (.inl absent)
      simp [keptItems, Value.string?, none_parsed]
  | nameless starts =>
      have none_parsed := Aliased.parseKey?_eq_none_iff.2 (.inr starts)
      simp [keptItems, Value.string?, none_parsed]
  | empty => simp [keptItems, Value.string?]

theorem keptItems_of_edit {slot : Slot} {old new : List Value} (edit : ItemEdit slot old new) :
    keptItems slot old = keptItems slot new := by
  cases edit with
  | insert front back dropped =>
      rw [keptItems_append, keptItems_append, keptItems_cons_dropped dropped]

variable {policy : PositionalPolicy} (query : String)

/-- What is read of a slot of items. -/
def readItems : Slot → Option Value → Except Refusal (List Aliased)
  | .keys, held => (readKeys query held).result
  | .values, held => (readValues query held).result

theorem readItems_array (slot : Slot) (items : List Value) :
    readItems query slot (some (.array items)) = .ok (keptItems slot items) := by
  cases slot
  · exact result_readKeys _
  · exact result_readValues _

def Slots.items (slots : Slots) : Slot → Option Value
  | .keys => slots.keys
  | .values => slots.values

theorem Slots.items_ofList (elements : List Value) (slot : Slot) :
    (ofList elements).items slot = elements[slotIndex slot]? := by
  cases slot <;> rfl

/-- The part without what is attached to it. -/
def Part.bare (part : Part) : Part := { part with metadata := none }

/-- What a raw part comes to, its metadata aside. -/
def outcome (policy : PositionalPolicy) (raw : Value) : Except Refusal Part :=
  (normalize policy query raw).result.map Part.bare

/-- Slots that read the same come to the same, whatever is attached to them. -/
theorem map_bare_read {slots slots' : Slots}
    (items : ∀ slot, readItems query slot (slots.items slot) =
      readItems query slot (slots'.items slot))
    (filter : readFilter query slots.filter = readFilter query slots'.filter) :
    (slots.read query).result.map Part.bare = (slots'.read query).result.map Part.bare := by
  have keys : (readKeys query slots.keys).result = (readKeys query slots'.keys).result :=
    items .keys
  have values : (readValues query slots.values).result = (readValues query slots'.values).result :=
    items .values
  rw [result_read, result_read, keys, values, filter]
  cases (readKeys query slots'.keys).result with
  | error refusal => rfl
  | ok keys =>
      cases (readValues query slots'.values).result with
      | error refusal => rfl
      | ok values => cases readFilter query slots'.filter <;> rfl

theorem outcome_array (policy : PositionalPolicy) (elements : List Value) :
    outcome query policy (.array elements) =
      (admitLength policy query elements.length).result.bind fun _ =>
        ((Slots.ofList elements).read query).result.map Part.bare := by
  show (normalizeRaw policy query (.positional elements)).result.map Part.bare = _
  rw [normalizeRaw, Audited.result_bind]
  cases (admitLength policy query elements.length).result <;> rfl

theorem outcome_object (policy : PositionalPolicy) (fields : List (String × Value)) :
    outcome query policy (.object fields) =
      ((Slots.ofFields fields).read query).result.map Part.bare := rfl

theorem outcome_array_first (policy : PositionalPolicy) (old new : Value) (rest : List Value) :
    outcome query policy (.array (old :: rest)) = outcome query policy (.array (new :: rest)) := by
  simp only [outcome_array, List.length_cons, Slots.ofList, List.getElem?_cons_succ]

theorem outcome_array_behind (policy : PositionalPolicy) {slots : List Value}
    (complete : slots.length = 4) (old new : List Value) :
    outcome query policy (.array (slots ++ old)) =
      outcome query policy (.array (slots ++ new)) := by
  have admitted (more : List Value) :
      (admitLength policy query (slots ++ more).length).result = .ok () := by
    apply result_admitLength query (.inr _)
    rw [List.length_append, complete, completeLength]
    omega
  have within (more : List Value) (index : Nat) (inside : index < 4) :
      (slots ++ more)[index]? = slots[index]? :=
    List.getElem?_append_left (by omega)
  rw [outcome_array, outcome_array, admitted, admitted]
  apply map_bare_read query
  · intro slot
    have inside : slotIndex slot < 4 := by cases slot <;> decide
    simp only [Slots.items_ofList, within _ _ inside]
  · simp only [Slots.ofList, within _ 3 (by decide)]

theorem outcome_array_element (policy : PositionalPolicy) {slot : Slot}
    {front old new : List Value} (back : List Value) (place : front.length = slotIndex slot)
    (edit : ItemEdit slot old new) :
    outcome query policy (.array (front ++ .array old :: back)) =
      outcome query policy (.array (front ++ .array new :: back)) := by
  have here (items : List Value) :
      (front ++ Value.array items :: back)[slotIndex slot]? = some (.array items) := by
    simp [← place]
  have elsewhere (index : Nat) (other : index ≠ slotIndex slot) :
      (front ++ Value.array old :: back)[index]? = (front ++ Value.array new :: back)[index]? := by
    simp only [List.getElem?_append, List.getElem?_cons, place]
    split
    · rfl
    · rw [if_neg (by omega), if_neg (by omega)]
  rw [outcome_array, outcome_array, List.length_append, List.length_append, List.length_cons,
    List.length_cons]
  congr 1
  funext _
  apply map_bare_read query
  · intro read
    rw [Slots.items_ofList, Slots.items_ofList]
    by_cases edited : read = slot
    · rw [edited, here, here, readItems_array, readItems_array, keptItems_of_edit edit]
    · have other : slotIndex read ≠ slotIndex slot := by
        cases read <;> cases slot <;> simp_all [slotIndex]
      rw [elsewhere _ other]
  · have other : 3 ≠ slotIndex slot := by cases slot <;> decide
    simp only [Slots.ofList, elsewhere 3 other]

namespace Slots

variable (front back : List (String × Value)) {name : String}

/-- A look-up passes over members whose names differ in more than their case. -/
theorem field?_insert {wanted : String} (value : Value) (other : sameLetters name wanted = false) :
    field? (front ++ (name, value) :: back) wanted = field? (front ++ back) wanted := by
  have differs : (name == wanted) = false := by
    rw [beq_eq_false_iff_ne]
    rintro rfl
    simp [sameLetters] at other
  simp only [field?, Assoc.get?, List.find?_append, List.find?_cons, differs, other]

/-- A look-up finds the member, whichever value it has, or does not depend on it. -/
theorem field?_replace (old new : Value) (wanted : String) :
    field? (front ++ (name, old) :: back) wanted = field? (front ++ (name, new) :: back) wanted ∨
      sameLetters name wanted = true ∧
        field? (front ++ (name, old) :: back) wanted = some old ∧
        field? (front ++ (name, new) :: back) wanted = some new := by
  cases same : sameLetters name wanted with
  | false => exact .inl (by rw [field?_insert _ _ _ same, field?_insert _ _ _ same])
  | true =>
      simp only [field?, Assoc.get?, List.find?_append, List.find?_cons, same]
      cases front.find? fun field => field.1 == wanted with
      | some field => exact .inl rfl
      | none =>
          cases name == wanted with
          | true => exact .inr ⟨trivial, rfl, rfl⟩
          | false =>
              cases back.find? fun field => field.1 == wanted with
              | some field => exact .inl rfl
              | none => cases front.find? fun field => sameLetters field.1 wanted <;> simp

theorem eq_of_sameLetters_name {slot other : Slot}
    (same : sameLetters slot.name other.name = true) : slot = other := by
  revert same
  cases slot <;> cases other <;> decide

theorem items_ofFields (fields : List (String × Value)) (slot : Slot) :
    (ofFields fields).items slot = field? fields slot.name := by
  cases slot <;> rfl

end Slots

theorem outcome_object_unread (policy : PositionalPolicy) (front back : List (String × Value))
    {name : String} (value : Value)
    (unknown : ∀ wanted ∈ readNames, sameLetters name wanted = false) :
    outcome query policy (.object (front ++ back)) =
      outcome query policy (.object (front ++ (name, value) :: back)) := by
  have found (wanted : String) (known : wanted ∈ readNames) :
      Slots.field? (front ++ back) wanted =
        Slots.field? (front ++ (name, value) :: back) wanted :=
    (Slots.field?_insert front back value (unknown wanted known)).symm
  rw [outcome_object, outcome_object]
  apply map_bare_read query
  · intro slot
    have known : slot.name ∈ readNames := by cases slot <;> decide
    rw [Slots.items_ofFields, Slots.items_ofFields, found _ known]
  · simp only [Slots.ofFields, Slots.filterField?, found "filterText" (by decide),
      found "filter" (by decide)]

theorem outcome_object_member (policy : PositionalPolicy) {slot : Slot} {name : String}
    {old new : List Value} (front back : List (String × Value))
    (named : sameLetters name slot.name = true) (edit : ItemEdit slot old new) :
    outcome query policy (.object (front ++ (name, .array old) :: back)) =
      outcome query policy (.object (front ++ (name, .array new) :: back)) := by
  have elsewhere (wanted : String) (other : sameLetters name wanted ≠ true) :
      Slots.field? (front ++ (name, .array old) :: back) wanted =
        Slots.field? (front ++ (name, .array new) :: back) wanted :=
    (Slots.field?_replace front back (.array old) (.array new) wanted).resolve_right
      fun found => other found.1
  have apart (wanted : String) (other : sameLetters slot.name wanted ≠ true) :
      sameLetters name wanted ≠ true := by
    intro found
    rw [sameLetters_iff] at named found
    exact other ((sameLetters_iff _ _).2 (named.symm.trans found))
  rw [outcome_object, outcome_object]
  apply map_bare_read query
  · intro read
    rw [Slots.items_ofFields, Slots.items_ofFields]
    rcases Slots.field?_replace front back (.array old) (.array new) read.name with
      same | ⟨found, before, after⟩
    · rw [same]
    · -- The names of the slots differ in more than their case.
      have edited : slot = read := by
        by_contra other
        exact apart read.name (fun same => other (Slots.eq_of_sameLetters_name same)) found
      rw [before, after, ← edited, readItems_array, readItems_array, keptItems_of_edit edit]
  · have text := elsewhere "filterText" (apart _ (by cases slot <;> decide))
    have filter := elsewhere "filter" (apart _ (by cases slot <;> decide))
    simp only [Slots.ofFields, Slots.filterField?, text, filter]

/-- An edit changes nothing that is read. -/
theorem outcome_of_edit {raw raw' : Value} (edit : RawEdit raw raw') (policy : PositionalPolicy) :
    outcome query policy raw = outcome query policy raw' := by
  cases edit with
  | first old new rest => exact outcome_array_first query policy old new rest
  | behind slots old new complete => exact outcome_array_behind query policy complete old new
  | element back place edit => exact outcome_array_element query policy back place edit
  | member front back named edit => exact outcome_object_member query policy front back named edit
  | unread front back value unknown =>
      exact outcome_object_unread query policy front back value unknown

/-- Nor do any number of edits, made or undone. -/
theorem outcome_of_edits {raw raw' : Value} (edits : Relation.EqvGen RawEdit raw raw')
    (policy : PositionalPolicy) : outcome query policy raw = outcome query policy raw' := by
  induction edits with
  | rel raw raw' edit => exact outcome_of_edit query edit policy
  | refl raw => rfl
  | symm raw raw' _ ih => exact ih.symm
  | trans raw middle raw' _ _ first second => exact first.trans second

/-- Entries of one name whose raw parts differ in edits only. -/
def EntriesAlike (entry entry' : String × Value) : Prop :=
  entry.1 = entry'.1 ∧ Relation.EqvGen RawEdit entry.2 entry'.2

def bareEntry (entry : String × Part) : String × Part := (entry.1, entry.2.bare)

/-- What the raw parts come to, their metadata aside. -/
def outcomes (policy : PositionalPolicy) (raws : List (String × Value)) :
    Except Refusal (List (String × Part)) :=
  (normalizeEntries policy raws).result.map (List.map bareEntry)

theorem outcomes_cons (policy : PositionalPolicy) (raw : Value) (rest : List (String × Value)) :
    outcomes policy ((query, raw) :: rest) =
      (outcome query policy raw).bind fun part =>
        (outcomes policy rest).map ((query, part) :: ·) := by
  unfold outcomes outcome
  simp only [normalizeEntries, Audited.result_bind, Audited.result_pure]
  cases (normalize policy query raw).result with
  | error refusal => rfl
  | ok part => cases (normalizeEntries policy rest).result <;> rfl

theorem outcomes_of_alike {raws raws' : List (String × Value)}
    (alike : List.Forall₂ EntriesAlike raws raws') (policy : PositionalPolicy) :
    outcomes policy raws = outcomes policy raws' := by
  induction alike with
  | nil => rfl
  | @cons entry entry' rest rest' first _ ih =>
      rcases entry with ⟨query, raw⟩
      rcases entry' with ⟨query', raw'⟩
      obtain ⟨rfl, edits⟩ := first
      rw [outcomes_cons, outcomes_cons, outcome_of_edits query edits policy, ih]

end Query

/-- The servers differ in edits of their raw parts only. -/
structure Server.Alike (server server' : Server) : Prop where
  columnExpressions : server.columnExpressions = server'.columnExpressions
  queries : List.Forall₂ EntriesAlike server.queries.entries server'.queries.entries

/-- The reports differ in their version and in edits of their raw parts only. -/
structure Report.Alike (report report' : Report) : Prop where
  server : Option.Rel Server.Alike report.server report'.server
  client : report.client = report'.client

namespace Report.Alike

variable {report report' : Report} (alike : report.Alike report')

include alike

theorem columnExpressions : report.columnExpressions = report'.columnExpressions := by
  rcases report with ⟨_, server, _⟩
  rcases report' with ⟨_, server', _⟩
  cases alike.server with
  | none => rfl
  | some servers => exact servers.columnExpressions

theorem substitutions : report.substitutions = report'.substitutions := by
  unfold Report.substitutions
  rw [alike.client]

theorem queries : List.Forall₂ EntriesAlike report.queries.entries report'.queries.entries := by
  rcases report with ⟨_, server, _⟩
  rcases report' with ⟨_, server', _⟩
  cases alike.server with
  | none => exact .nil
  | some servers => exact servers.queries

end Report.Alike

theorem Layout.fields_of_bare {parts parts' : OrderedMap Part}
    (same : parts.entries.map bareEntry = parts'.entries.map bareEntry) (suffix : String)
    (expressions : OrderedMap String) :
    fields suffix parts expressions = fields suffix parts' expressions := by
  have first (parts : OrderedMap Part) :
      (parts.first?.elim [] fun entry => keyFields suffix entry.2) =
        (parts.entries.map bareEntry).head?.elim [] fun entry => keyFields suffix entry.2 := by
    rw [List.head?_map, OrderedMap.first?]
    cases parts.entries.head? <;> rfl
  rw [fields, fields, first, first, same]

/-- Parts that differ in their metadata only have the same definitions. -/
theorem Emitted.queries_of_bare {parts parts' : OrderedMap Part}
    (same : parts.entries.map bareEntry = parts'.entries.map bareEntry) :
    (parts.entries.map fun entry => EmittedQuery.ofPart entry.1 entry.2) =
      parts'.entries.map fun entry => EmittedQuery.ofPart entry.1 entry.2 := by
  have shown (parts : OrderedMap Part) :
      (parts.entries.map fun entry => EmittedQuery.ofPart entry.1 entry.2) =
        (parts.entries.map bareEntry).map fun entry => EmittedQuery.ofPart entry.1 entry.2 := by
    rw [List.map_map]
    rfl
  rw [shown, shown, same]

theorem Emitted.ofCompiled_of_alike {report report' : Report} (alike : report.Alike report')
    {parts parts' : OrderedMap Part}
    (same : parts.entries.map bareEntry = parts'.entries.map bareEntry) (options : Options) :
    ofCompiled options report (Compile.outputOf options report parts) =
      ofCompiled options report' (Compile.outputOf options report' parts') := by
  have layout := Layout.fields_of_bare same options.sortSuffix report'.columnExpressions
  have queries := queries_of_bare same
  simp only [ofCompiled, Compile.outputOf, alike.columnExpressions, alike.substitutions, layout,
    queries]

/-- Two reports that differ in ignored data only are both refused, for the same reason, or both
compile, to the same markup and the same layout. -/
theorem compile_of_alike (options : Options) {report report' : Report}
    (alike : report.Alike report') :
    (compile options report).result.map Compile.Output.markup =
        (compile options report').result.map Compile.Output.markup ∧
      (compile options report).result.map Compile.Output.layout =
        (compile options report').result.map Compile.Output.layout := by
  have outcomes := outcomes_of_alike alike.queries options.positional
  unfold Query.outcomes at outcomes
  cases compiled : (compile options report).result with
  | error refusal =>
      rw [Compile.result_compile_eq_error_iff, ← result_normalizeEntries_eq_error_iff] at compiled
      rw [compiled] at outcomes
      have refused := map_eq_error_iff.1 outcomes.symm
      rw [result_normalizeEntries_eq_error_iff, ← Compile.result_compile_eq_error_iff] at refused
      rw [refused]
      exact ⟨rfl, rfl⟩
  | ok output =>
      obtain ⟨parts, normalized, rfl⟩ := Compile.compiled_iff.1 compiled
      rw [result_normalizeEntries_eq_ok_iff.2 normalized] at outcomes
      obtain ⟨made, normalized', same⟩ := exists_of_map_eq_ok outcomes.symm
      rw [result_normalizeEntries_eq_ok_iff] at normalized'
      have distinct : (Assoc.keys made).Nodup := by
        rw [keys_eq_of_forall₂ normalized']
        exact report'.queries.distinct
      let parts' : OrderedMap Part := ⟨made, distinct⟩
      have compiled' := Compile.compiled_iff.2 ⟨parts', normalized', rfl⟩
      have bare : parts.entries.map bareEntry = parts'.entries.map bareEntry := same.symm
      have emitted := Emitted.ofCompiled_of_alike alike bare options
      rw [compiled']
      constructor
      · simp only [Except.map, Emitted.markup_outputOf, emitted]
      · exact congrArg Except.ok (congrArg Emitted.layout emitted)

/-- A report that holds nothing but what is read of it. -/
def tidyReport : Report where
  server := some {
    queries := .ofList [
      ("main", .array [.null, .array [.string "a=b"], .null, .string "c"]),
      ("other", .object [("Values", .array [.string "d"]), ("filter", .bool true)])] }

/-- The same report with a version, another first element, a key item that starts with an equals
sign, elements behind the filter, an empty value item and a member of metadata. -/
def clutteredReport : Report where
  version := some "2"
  server := some {
    queries := .ofList [
      ("main", .array
        [.bool true, .array [.string "a=b", .string "=e"], .null, .string "c", .null, .null]),
      ("other", .object
        [("Values", .array [.string "", .string "d"]), ("META", .null), ("filter", .bool true)])] }

theorem alike_tidyReport_clutteredReport : tidyReport.Alike clutteredReport := by
  have main : Relation.EqvGen RawEdit
      (.array [.null, .array [.string "a=b"], .null, .string "c"])
      (.array
        [.bool true, .array [.string "a=b", .string "=e"], .null, .string "c", .null, .null]) := by
    have first := RawEdit.first .null (.bool true)
      [.array [.string "a=b"], .null, .string "c"]
    have keys := @RawEdit.element .keys [.bool true] _ _ [.null, .string "c"] rfl
      (.insert [.string "a=b"] [] (@Dropped.nameless "=e" (by decide)))
    have behind := RawEdit.behind
      [.bool true, .array [.string "a=b", .string "=e"], .null, .string "c"] [] [.null, .null] rfl
    exact .trans _ _ _ (.rel _ _ first) (.trans _ _ _ (.rel _ _ keys) (.rel _ _ behind))
  have other : Relation.EqvGen RawEdit
      (.object [("Values", .array [.string "d"]), ("filter", .bool true)])
      (.object
        [("Values", .array [.string "", .string "d"]), ("META", .null),
          ("filter", .bool true)]) := by
    have values := @RawEdit.member .values "Values" _ _ [] [("filter", .bool true)] (by decide)
      (.insert [] [.string "d"] .empty)
    have metadata := @RawEdit.unread "META" [("Values", .array [.string "", .string "d"])]
      [("filter", .bool true)] .null (by decide)
    exact .trans _ _ _ (.rel _ _ values) (.rel _ _ metadata)
  exact ⟨.some ⟨rfl, .cons ⟨rfl, main⟩ (.cons ⟨rfl, other⟩ .nil)⟩, rfl⟩

theorem compile_of_alike_clutteredReport :
    tidyReport.Alike clutteredReport ∧
      ∃ output output', (compile {} tidyReport).result = .ok output ∧
        (compile {} clutteredReport).result = .ok output' ∧ output.markup = output'.markup ∧
        output.layout = output'.layout := by
  obtain ⟨markup, layout⟩ := compile_of_alike {} alike_tidyReport_clutteredReport
  obtain ⟨output, compiled⟩ : ∃ output, (compile {} tidyReport).result = .ok output := ⟨_, rfl⟩
  obtain ⟨output', compiled'⟩ : ∃ output', (compile {} clutteredReport).result = .ok output' :=
    ⟨_, rfl⟩
  rw [compiled, compiled'] at markup layout
  exact ⟨alike_tidyReport_clutteredReport, output, output', compiled, compiled',
    Except.ok.inj markup, Except.ok.inj layout⟩

end QueryGroup
