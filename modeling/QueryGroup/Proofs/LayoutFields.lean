import QueryGroup.Proofs.Canonical
import QueryGroup.Proofs.Fidelity
set_option autoImplicit false

namespace QueryGroup

open Json Query Text

namespace Query

/-- The strings in a slot. -/
def slotStrings : Option Value → List String
  | some (.array items) => items.filterMap Value.string?
  | _ => []

variable {policy : PositionalPolicy} {query : String}

theorem items_eq_slotStrings {slot : Slot} {held : Option Value} {items : List String}
    (read : (stringItems query slot held).result = .ok items) : items = slotStrings held := by
  rcases held with _ | _ | _ | _ | _ | _ | _ <;> cases read <;> rfl

theorem keys_of_readKeys {held : Option Value} {keys : List Aliased}
    (read : (readKeys query held).result = .ok keys) :
    keys = (slotStrings held).filterMap Aliased.parseKey? := by
  rw [result_readKeys] at read
  obtain ⟨items, strings, rfl⟩ := exists_of_map_eq_ok read
  rw [items_eq_slotStrings strings]

/-- In either shape the keys of a part are the key items of the raw one that can be cut. -/
theorem keys_of_normalize {raw : Value} {part : Part}
    (made : (normalize policy query raw).result = .ok part) :
    ∃ slots, Supplies raw slots ∧
      part.keys = (slotStrings slots.keys).filterMap Aliased.parseKey? := by
  obtain ⟨slots, supplied, read⟩ := exists_read_of_normalize made
  exact ⟨slots, supplied, keys_of_readKeys (result_read_eq_ok_iff.1 read).1⟩

end Query

/-- The key items of the first raw part, if there is one. -/
inductive Report.FirstItems (report : Report) : List String → Prop
  | absent (empty : report.queries.entries = []) : FirstItems report []
  | first {entry : String × Value} {rest : List (String × Value)} {slots : Slots}
      (shape : report.queries.entries = entry :: rest) (supplied : Supplies entry.2 slots) :
      FirstItems report (slotStrings slots.keys)

theorem Report.FirstItems.unique {report : Report} {items others : List String}
    (first : report.FirstItems items) (second : report.FirstItems others) : items = others := by
  cases first with
  | absent empty =>
      cases second with
      | absent => rfl
      | first shape _ => cases empty.symm.trans shape
  | first shape supplied =>
      cases second with
      | absent empty => cases empty.symm.trans shape
      | first other supplied' =>
          cases shape.symm.trans other
          rw [supplied.unique supplied']

namespace Layout

/-- What stands before the item's first equals sign, if the item has one and does not start
with it. -/
def itemName? (item : String) : Option String :=
  if '=' ∈ item.toList ∧ item.toList.head? ≠ some '=' then
    some (.ofList (item.toList.takeWhile (· != '=')))
  else none

/-- The alias stays out of the layout. -/
def Hidden (suffix name : String) : Prop :=
  lowerChars name.toList = lowerChars "uniqueKey".toList ∨
    lowerChars name.toList = lowerChars "govCorp".toList ∨
    suffix ≠ "" ∧ suffix.toList <:+ name.toList

instance (suffix name : String) : Decidable (Hidden suffix name) :=
  inferInstanceAs (Decidable (_ ∨ _ ∨ _ ∧ _))

/-- A key field for every item that has a name, unless it is hidden, and then a data field for
every column. -/
def ofItems (name? : String → Option String) (suffix : String) (items columns : List String) :
    List Field :=
  ((items.filterMap name?).filter fun name => ¬ Hidden suffix name).map .key ++
    columns.map .data

theorem map_name_parseKey? (item : String) :
    (Aliased.parseKey? item).map Aliased.name = itemName? item := by
  unfold itemName?
  cases parsed : Aliased.parseKey? item with
  | none =>
      rw [Aliased.parseKey?_eq_none_iff] at parsed
      rw [if_neg (by tauto), Option.map_none]
  | some pair =>
      have cut : ¬ ('=' ∉ item.toList ∨ item.toList.head? = some '=') := by
        simp [← Aliased.parseKey?_eq_none_iff, parsed]
      obtain ⟨key, rfl⟩ := Aliased.parseKey?_eq_some_iff.1 parsed
      have front : pair.text.toList.takeWhile (· != '=') = pair.name.toList := by
        rw [Aliased.toList_text, List.takeWhile_append_of_pos]
        · simp
        · intro c inside
          simpa using fun same : c = '=' => key.uncut (same ▸ inside)
      rw [if_pos (by tauto), front, String.ofList_toList, Option.map_some]

theorem isMetadata_iff (name : String) :
    isMetadata name = true ↔
      lowerChars name.toList = lowerChars "uniqueKey".toList ∨
        lowerChars name.toList = lowerChars "govCorp".toList := by
  simp only [isMetadata, metadataAliases, List.any_cons, List.any_nil, Bool.or_false,
    Bool.or_eq_true, sameLetters_iff]
  exact or_congr eq_comm eq_comm

theorem isSortHelper_iff (suffix name : String) :
    isSortHelper suffix name = true ↔ suffix ≠ "" ∧ suffix.toList <:+ name.toList := by
  simp [isSortHelper]

theorem isLayoutAlias_eq (suffix name : String) :
    isLayoutAlias suffix name = decide (¬ Hidden suffix name) := by
  rw [Bool.eq_iff_iff, decide_eq_true_iff, Hidden, ← or_assoc, ← isMetadata_iff,
    ← isSortHelper_iff]
  simp [isLayoutAlias]

theorem keyFields_eq {suffix : String} {items : List String} {part : Part}
    (keys : part.keys = items.filterMap Aliased.parseKey?) :
    keyFields suffix part =
      ((items.filterMap itemName?).filter fun name => ¬ Hidden suffix name).map .key := by
  have names : items.filterMap itemName? = part.keys.map Aliased.name := by
    rw [keys, List.map_filterMap]
    exact congrArg (List.filterMap · items) (funext fun item => (map_name_parseKey? item).symm)
  rw [names, List.filter_map, List.map_map, keyFields]
  simp only [isLayoutAlias_eq]
  rfl

/-- Only the first raw part and the names of the columns shape a layout. -/
theorem fields_eq_ofItems {policy : PositionalPolicy} {report : Report}
    {parts : OrderedMap Part} (suffix : String)
    (normalized : List.Forall₂ (Normalizes policy) report.queries.entries parts.entries) :
    ∃ items, report.FirstItems items ∧
      fields suffix parts report.columnExpressions =
        ofItems itemName? suffix items report.columnExpressions.keys := by
  unfold fields ofItems OrderedMap.first? dataFields
  generalize shape : report.queries.entries = raws, parts.entries = made at normalized ⊢
  cases normalized with
  | nil => exact ⟨[], .absent shape, rfl⟩
  | cons first _ =>
      obtain ⟨slots, supplied, keys⟩ := keys_of_normalize first.2
      refine ⟨_, .first shape supplied, ?_⟩
      simp only [List.head?_cons, Option.elim_some, keyFields_eq keys]

end Layout

/-- The key items of the first raw part and the names of the columns say what the layout is, and
the markup shows just that; without queries the data fields remain. So two compilations have the
same layout, if they have the same names and hide the same suffix. -/
theorem layout_eq_ofItems {options : Options} {report : Report} {output : Compile.Output}
    (compiled : (compile options report).result = .ok output) :
    ∃ items, (∀ others, report.FirstItems others ↔ others = items) ∧
      let law := Layout.ofItems Layout.itemName? options.sortSuffix items
        report.columnExpressions.keys
      output.layout = law ∧ (Emitted.ofMarkup? output.markup).map Emitted.layout = some law ∧
        (report.queries.entries = [] → law = report.columnExpressions.keys.map .data) ∧
        ∀ {options' : Options} {report' : Report} {output' : Compile.Output}
            {items' : List String},
          (compile options' report').result = .ok output' →
            options'.sortSuffix = options.sortSuffix →
              report'.FirstItems items' →
                items'.filterMap Layout.itemName? = items.filterMap Layout.itemName? →
                  report'.columnExpressions.keys = report.columnExpressions.keys →
                    output'.layout = output.layout := by
  obtain ⟨parts, normalized, rfl⟩ := Compile.compiled_iff.1 compiled
  obtain ⟨items, given, layout⟩ := Layout.fields_eq_ofItems options.sortSuffix normalized
  have only (others : List String) : report.FirstItems others ↔ others = items :=
    ⟨fun other => other.unique given, fun same => same ▸ given⟩
  refine ⟨items, only, layout, ?_, ?_, ?_⟩
  · rw [Emitted.ofMarkup?_outputOf, Option.map_some]
    exact congrArg some layout
  · intro without_queries
    obtain rfl := (only []).1 (.absent without_queries)
    simp [Layout.ofItems]
  · intro options' report' output' items' compiled' suffix given' names columns
    obtain ⟨parts', normalized', rfl⟩ := Compile.compiled_iff.1 compiled'
    obtain ⟨others, found, layout'⟩ := Layout.fields_eq_ofItems options'.sortSuffix normalized'
    obtain rfl := given'.unique found
    have same : Layout.ofItems Layout.itemName? options'.sortSuffix items'
        report'.columnExpressions.keys =
          Layout.ofItems Layout.itemName? options.sortSuffix items
            report.columnExpressions.keys := by
      simp only [Layout.ofItems, suffix, names, columns]
    exact layout'.trans (same.trans layout.symm)

/-- A report whose first query has keys of all sorts: hidden, not cut, doubled and no strings. -/
def gridReport : Report where
  server := some {
    columnExpressions := .ofList [("Total", "=x"), ("uniqueKey", "y")]
    queries := .ofList [
      ("first", .object [("Keys", .array [
        .string "Desk=a=b", .string "UNIQUEKEY=c", .null, .string "=d=e", .string "GovCorp=f",
        .string "Tenor_SortField=g", .string "h", .string "Desk=i", .string "Tenor_sortfield="])]),
      ("second", .array [.null, .array [.string "Book=j"]])] }

theorem layout_eq_ofItems_gridReport :
    ∃ output, (compile {} gridReport).result = .ok output ∧
      output.layout =
        [.key "Desk", .key "Desk", .key "Tenor_sortfield", .data "Total", .data "uniqueKey"] := by
  obtain ⟨output, compiled⟩ : ∃ output, (compile {} gridReport).result = .ok output := ⟨_, rfl⟩
  obtain ⟨items, given, layout, -⟩ := layout_eq_ofItems compiled
  obtain rfl := (given _).1 (.first rfl (supplies_object_iff.2 rfl))
  refine ⟨output, compiled, layout.trans ?_⟩
  decide

/-- What stands before the item's first equals sign, if one stands at position one or later. An
item that starts with an equals sign and has another one is given the empty name. -/
def Layout.looseItemName? (item : String) : Option String :=
  if '=' ∈ item.toList.tail then some (.ofList (item.toList.takeWhile (· != '='))) else none

/-- A report whose only key item has an equals sign, but no name in front of the first one. -/
def namelessReport : Report where
  server := some {
    queries := .ofList [("main", .array [.null, .array [.string "=a=b"], .array [], .string ""])] }

/-- An equals sign behind the first character of an item does not give it a name. -/
theorem layout_ne_ofItems_namelessReport :
    ∃ output items, (compile {} namelessReport).result = .ok output ∧ output.layout = [] ∧
      namelessReport.FirstItems items ∧
      Layout.ofItems Layout.looseItemName? ({} : Options).sortSuffix items
        namelessReport.columnExpressions.keys = [.key ""] := by
  refine ⟨_, _, rfl, by decide, .first rfl (supplies_array_iff.2 rfl), ?_⟩
  decide

namespace EmittedQuery

/-- Row keys are told by their names, so a definition shows all keys of a name or none. -/
theorem exists_key_ofPart_iff (query : String) (part : Part) (name : String) :
    (∃ key ∈ (ofPart query part).keys, key.name = name) ↔
      (∃ key ∈ part.keys, key.name = name) ∧ ¬ "uniqueKey".toList <+: name.toList := by
  constructor
  · rintro ⟨shown, member, rfl⟩
    obtain ⟨key, kept, rfl⟩ := List.mem_map.1 member
    obtain ⟨inside, plain⟩ := List.mem_filter.1 kept
    exact ⟨⟨key, inside, rfl⟩, of_decide_eq_true plain⟩
  · rintro ⟨⟨key, inside, rfl⟩, plain⟩
    exact ⟨_, List.mem_map_of_mem (List.mem_filter.2 ⟨inside, decide_eq_true plain⟩), rfl⟩

end EmittedQuery

namespace Layout

theorem exists_key_of_mem_fields {suffix name : String} {parts : OrderedMap Part}
    {expressions : OrderedMap String} (listed : Field.key name ∈ fields suffix parts expressions) :
    ∃ entry, parts.first? = some entry ∧ ∃ key ∈ entry.2.keys, key.name = name := by
  rcases List.mem_append.1 listed with fromKeys | fromColumns
  · cases first : parts.first? with
    | none => simp [first] at fromKeys
    | some entry =>
        rw [first, Option.elim_some, keyFields] at fromKeys
        obtain ⟨key, kept, same⟩ := List.mem_map.1 fromKeys
        exact ⟨entry, rfl, key, (List.mem_filter.1 kept).1, congrArg Field.name same⟩
  · obtain ⟨column, -, same⟩ := List.mem_map.1 fromColumns
    cases same

end Layout

/-- The definition of the first query shows a key of that name. -/
def Emitted.ShowsKey (emitted : Emitted) (name : String) : Prop :=
  ∃ first, emitted.queries.head? = some first ∧ ∃ key ∈ first.keys, key.name = name

theorem Emitted.head?_queries_ofCompiled (options : Options) (report : Report)
    (parts : OrderedMap Part) :
    (ofCompiled options report (Compile.outputOf options report parts)).queries.head? =
      parts.first?.map fun entry => EmittedQuery.ofPart entry.1 entry.2 :=
  List.head?_map

/-- A key field stands for a key that the first query's definition shows, unless its name starts
like that of a row key; such a key it does not show. -/
theorem showsKey_iff_of_mem_layout {options : Options} {report : Report}
    {output : Compile.Output} (compiled : (compile options report).result = .ok output)
    {name : String} (listed : Layout.Field.key name ∈ output.layout) :
    ∃ emitted, Emitted.ofMarkup? output.markup = some emitted ∧
      Layout.Field.key name ∈ emitted.layout ∧
      (emitted.ShowsKey name ↔ ¬ "uniqueKey".toList <+: name.toList) := by
  obtain ⟨parts, -, rfl⟩ := Compile.compiled_iff.1 compiled
  refine ⟨_, Emitted.ofMarkup?_outputOf options report parts, listed, ?_⟩
  obtain ⟨entry, first, key⟩ := Layout.exists_key_of_mem_fields listed
  have shown := EmittedQuery.exists_key_ofPart_iff entry.1 entry.2 name
  simp only [Emitted.ShowsKey, Emitted.head?_queries_ofCompiled, first, Option.map_some,
    Option.some.injEq, exists_eq_left', shown, key, true_and]

theorem showsKey_iff_of_mem_layout_gridReport :
    ∃ output emitted, (compile {} gridReport).result = .ok output ∧
      Layout.Field.key "Tenor_sortfield" ∈ output.layout ∧
      Emitted.ofMarkup? output.markup = some emitted ∧ emitted.ShowsKey "Tenor_sortfield" := by
  obtain ⟨output, compiled, listed⟩ : ∃ output, (compile {} gridReport).result = .ok output ∧
      Layout.Field.key "Tenor_sortfield" ∈ output.layout := ⟨_, rfl, by decide⟩
  obtain ⟨emitted, read, -, shown_iff⟩ := showsKey_iff_of_mem_layout compiled listed
  exact ⟨output, emitted, compiled, listed, read, shown_iff.2 (by decide)⟩

/-- A report with a row key that has a name of its own. -/
def rowKeyReport : Report where
  server := some {
    queries := .ofList [
      ("main", .array [.null, .array [.string "uniqueKeyTrade=id"], .array [], .string ""])] }

/-- The layout has a key field for it, and the definition shows no such key. -/
theorem not_showsKey_rowKeyReport :
    ∃ output emitted, (compile {} rowKeyReport).result = .ok output ∧
      Emitted.ofMarkup? output.markup = some emitted ∧
      Layout.Field.key "uniqueKeyTrade" ∈ emitted.layout ∧
      ¬ emitted.ShowsKey "uniqueKeyTrade" := by
  let parts : OrderedMap Part := .ofList [("main", { keys := [⟨"uniqueKeyTrade", "id"⟩] })]
  have compiled : (compile {} rowKeyReport).result =
      .ok (Compile.outputOf {} rowKeyReport parts) := rfl
  refine ⟨_, _, compiled, Emitted.ofMarkup?_outputOf {} rowKeyReport parts, by decide, ?_⟩
  rintro ⟨first, ⟨⟩, key, member, -⟩
  exact absurd member List.not_mem_nil

end QueryGroup
