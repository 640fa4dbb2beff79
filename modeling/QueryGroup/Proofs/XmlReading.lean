import QueryGroup.Proofs.Fidelity
import QueryGroup.Proofs.TreeStrings
set_option autoImplicit false

/- Documents as an XML 1.0 processor reads them. Escaping leaves two things to a processor that
the strings of a report may hold: characters that the language has no place for, for which the
whole document is refused, and line ends and white space, which are read as others. Where
none of the strings has them, every string is read as it was given. -/
namespace QueryGroup

open Markup Query

namespace Query.Aliased

def strings (pair : Aliased) : List String := [pair.name, pair.expression]

def asRead (pair : Aliased) : Aliased where
  name := Xml.readValue pair.name
  expression := Xml.readValue pair.expression

end Query.Aliased

namespace MenuEntry

def strings (entry : MenuEntry) : List String := [entry.displayName, entry.substitutionText]

def asRead (entry : MenuEntry) : MenuEntry where
  displayName := Xml.readValue entry.displayName
  substitutionText := Xml.readValue entry.substitutionText

end MenuEntry

namespace Substitution

def strings (substitution : Substitution) : List String :=
  substitution.token :: substitution.description ::
    substitution.entries.flatMap MenuEntry.strings

def asRead (substitution : Substitution) : Substitution where
  token := Xml.readValue substitution.token
  description := Xml.readValue substitution.description
  multi := substitution.multi
  entries := substitution.entries.map MenuEntry.asRead

end Substitution

namespace EmittedQuery

/-- The strings of the query that stand in attributes. -/
def valueStrings (query : EmittedQuery) : List String :=
  [query.name] ++ query.keys.flatMap Aliased.strings ++ query.values.flatMap Aliased.strings

def asRead (query : EmittedQuery) : EmittedQuery where
  name := Xml.readValue query.name
  keys := query.keys.map Aliased.asRead
  values := query.values.map Aliased.asRead
  filter := query.filter.map Xml.readText

end EmittedQuery

namespace Emitted

/-- The strings of a document that stand in attributes. -/
def valueStrings (emitted : Emitted) : List String :=
  emitted.expressions.map Prod.fst ++ emitted.layout.map Layout.Field.name ++
    emitted.queries.flatMap EmittedQuery.valueStrings ++
    (emitted.substitutions.getD []).flatMap Substitution.strings

/-- The strings of a document that are texts: the column expressions and the filters. -/
def textStrings (emitted : Emitted) : List String :=
  emitted.expressions.map Prod.snd ++ emitted.queries.filterMap EmittedQuery.filter

/-- What a processor makes of it. -/
def asRead (emitted : Emitted) : Emitted where
  expressions := emitted.expressions.map fun pair => (Xml.readValue pair.1, Xml.readText pair.2)
  layout := emitted.layout.map fun field => { field with name := Xml.readValue field.name }
  queries := emitted.queries.map EmittedQuery.asRead
  substitutions := emitted.substitutions.map (List.map Substitution.asRead)

/-- What the text of a document says to a processor, unless it is refused. -/
def ofXml? (text : String) : Option Emitted :=
  if Xml.isText text then do
    ofElement? (← Element.ofXml? (← body? (Xml.readText text)))
  else none

open Element Xml

theorem mapStrings_columnExpression (pair : String × String) :
    (Sections.columnExpression pair).mapStrings readValue readText =
      Sections.columnExpression (readValue pair.1, readText pair.2) := rfl

theorem mapStrings_layoutField (field : Layout.Field) :
    (Sections.layoutField field).mapStrings readValue readText =
      Sections.layoutField { field with name := readValue field.name } := by
  rcases field with ⟨name, _ | _⟩ <;> rfl

theorem mapStrings_pairElement (kind : String) (pair : Aliased) :
    (pairElement kind pair).mapStrings readValue readText = pairElement kind pair.asRead := rfl

theorem mapStrings_definition (query : EmittedQuery) :
    query.definition.mapStrings readValue readText = query.asRead.definition := by
  obtain ⟨name, keys, values, filter⟩ := query
  have keysRead := mapStrings_section (mapStrings_pairElement "AliasedKey") "Keys" keys
  have valuesRead := mapStrings_section (mapStrings_pairElement "AliasedValue") "Values" values
  unfold EmittedQuery.definition
  simp only [mapStrings, mapStringsAll, keysRead, valuesRead]
  cases filter <;> rfl

theorem mapStrings_menuEntry (entry : MenuEntry) :
    (Sections.menuEntry entry).mapStrings readValue readText =
      Sections.menuEntry entry.asRead := rfl

theorem mapStrings_substitution (substitution : Substitution) :
    (Sections.substitution substitution).mapStrings readValue readText =
      Sections.substitution substitution.asRead := by
  have multi (truth : Bool) : readValue (if truth then "true" else "false") =
      if truth then "true" else "false" := by
    cases truth <;> rfl
  have entries : substitution.entries.map (mapStrings readValue readText ∘ Sections.menuEntry) =
      substitution.entries.map (Sections.menuEntry ∘ MenuEntry.asRead) :=
    List.map_congr_left fun entry _ => mapStrings_menuEntry entry
  simp only [substitution_eq, mapStrings_ofList, List.map_map, Substitution.asRead, mapValues,
    List.map_cons, List.map_nil, multi, entries]

/-- The element of a document is read as the element of what a processor makes of it. -/
theorem mapStrings_element (emitted : Emitted) :
    emitted.element.mapStrings readValue readText = emitted.asRead.element := by
  obtain ⟨expressions, layout, queries, substitutions⟩ := emitted
  have expressionsRead := mapStrings_section mapStrings_columnExpression "ColumnExpressions"
    expressions
  have layoutRead := mapStrings_section mapStrings_layoutField "Layout" layout
  have queriesRead := mapStrings_section mapStrings_definition "QueryDefinitions" queries
  have substitutionsRead (list : List Substitution) :=
    mapStrings_section mapStrings_substitution "TextSubstitutions" list
  unfold element Sections.layout sectionOfQueries sectionOfSubstitutions
  cases substitutions with
  | none =>
      simp only [mapStrings, mapStringsAll, expressionsRead, layoutRead, queriesRead]
      rfl
  | some list =>
      simp only [mapStrings, mapStringsAll, expressionsRead, layoutRead, queriesRead,
        Option.map_some, Option.toList_some, substitutionsRead]
      rfl

/-- The root element has all of it, so no two say the same. -/
theorem element_inj {emitted emitted' : Emitted} :
    emitted.element = emitted'.element ↔ emitted = emitted' := by
  constructor
  · intro same
    have read := ofElement?_element emitted
    rw [same, ofElement?_element] at read
    exact (Option.some.inj read).symm
  · exact congrArg element

section Strings

variable {value text : String → Prop}

theorem holds_columnExpression (pair : String × String) :
    (Sections.columnExpression pair).Holds value text ↔ value pair.1 ∧ text pair.2 := by
  simp [Sections.columnExpression, named, withAttribute, Element.text, Holds]

theorem holds_pairElement (kind : String) (pair : Aliased) :
    (pairElement kind pair).Holds value text ↔ ∀ string ∈ pair.strings, value string := by
  simp [pairElement, Holds, Aliased.strings]

theorem holds_definition (query : EmittedQuery) :
    query.definition.Holds value text ↔
      (∀ string ∈ query.valueStrings, value string) ∧
        ∀ filter, query.filter = some filter → text filter := by
  have filter : HoldsAll value text (query.filter.map fun filter =>
      (Element.named "Filters").text filter).toList ↔
        ∀ filter, query.filter = some filter → text filter := by
    cases query.filter <;> simp [HoldsAll, Holds, named, Element.text]
  simp only [EmittedQuery.definition, EmittedQuery.valueStrings, Holds, HoldsAll, holds_section,
    holds_pairElement, filter, List.forall_mem_append, List.forall_mem_flatMap,
    List.forall_mem_singleton, and_assoc]

theorem holds_menuEntry (entry : MenuEntry) :
    (Sections.menuEntry entry).Holds value text ↔ ∀ string ∈ entry.strings, value string := by
  simp [Sections.menuEntry, named, withAttribute, Holds, MenuEntry.strings]

/-- The values that do not come from a report. -/
def fixedValues : List String := ["true", "false", "PivotGrid", "Data"]

variable (fixed : ∀ string ∈ fixedValues, value string)

include fixed

theorem holds_layoutField (field : Layout.Field) :
    (Sections.layoutField field).Holds value text ↔ value field.name := by
  have isTrue := fixed "true" (by decide)
  have isData := fixed "Data" (by decide)
  obtain ⟨name, role⟩ := field
  cases role <;> simp [Sections.layoutField, named, withAttribute, Holds, isTrue, isData]

theorem holds_substitution (substitution : Substitution) :
    (Sections.substitution substitution).Holds value text ↔
      ∀ string ∈ substitution.strings, value string := by
  have multi : value (if substitution.multi then "true" else "false") :=
    fixed _ (by cases substitution.multi <;> decide)
  simp only [substitution_eq, holds_ofList, Substitution.strings, List.forall_mem_map,
    holds_menuEntry, List.forall_mem_cons, List.forall_mem_flatMap]
  simp [multi, and_assoc]

theorem holdsAll_substitutions (shown : Option (List Substitution)) :
    HoldsAll value text (shown.map sectionOfSubstitutions).toList ↔
      ∀ string ∈ (shown.getD []).flatMap Substitution.strings, value string := by
  cases shown with
  | none => simp [HoldsAll]
  | some list =>
      simp only [Option.map_some, Option.toList_some, HoldsAll, and_true, Option.getD_some,
        sectionOfSubstitutions, holds_section, List.forall_mem_flatMap, holds_substitution fixed]

/-- What is said of the strings of the root element is said of the strings of the document. -/
theorem holds_element (emitted : Emitted) :
    emitted.element.Holds value text ↔
      (∀ string ∈ emitted.valueStrings, value string) ∧
        ∀ string ∈ emitted.textStrings, text string := by
  have constants : ∀ pair ∈ [("ServerSideAggregation", "true"), ("EfficientQueries", "false"),
      ("GridType", "PivotGrid")], value pair.2 := by
    intro pair member
    exact fixed _ (by revert pair; decide)
  unfold element Sections.layout sectionOfQueries
  simp only [Holds, HoldsAll, holdsAll_substitutions fixed, holds_section,
    holds_columnExpression, holds_layoutField fixed, holds_definition, valueStrings, textStrings,
    List.forall_mem_append, List.forall_mem_flatMap, List.forall_mem_map,
    List.forall_mem_filterMap, forall_and]
  -- Both sides list the same facts, by element on the left and by kind on the right.
  constructor
  · rintro ⟨-, ⟨names, texts⟩, fields, ⟨values, filters⟩, substitutions⟩
    exact ⟨⟨⟨⟨names, fields⟩, values⟩, substitutions⟩, texts, filters⟩
  · rintro ⟨⟨⟨⟨names, fields⟩, values⟩, substitutions⟩, texts, filters⟩
    exact ⟨constants, ⟨names, texts⟩, fields, ⟨values, filters⟩, substitutions⟩

end Strings

/-- A processor leaves a document as it is where the strings hold nothing that it changes. -/
theorem asRead_eq_self_iff (emitted : Emitted) :
    emitted.asRead = emitted ↔
      (∀ value ∈ emitted.valueStrings, ∀ c ∈ value.toList, isBreak c = false) ∧
        ∀ text ∈ emitted.textStrings, '\r' ∉ text.toList := by
  -- The root element has every string of the document, so it is enough to look at trees.
  have fixed : ∀ string ∈ fixedValues, readValue string = string := by decide
  rw [← element_inj, ← mapStrings_element, mapStrings_eq_self_iff, holds_element fixed]
  simp only [readValue_eq_self_iff, readText_eq_self_iff]

/-- A document is allowed exactly when its strings are. -/
theorem isText_outputOf (options : Options) (report : Report) (parts : OrderedMap Part) :
    let emitted := ofCompiled options report (Compile.outputOf options report parts)
    isText (Compile.outputOf options report parts).markup = true ↔
      ∀ string ∈ emitted.valueStrings ++ emitted.textStrings, isText string = true := by
  intro emitted
  have declaration : declarationLine.toList.all isChar = true := by decide
  have fixed : ∀ string ∈ fixedValues, isText string = true := by decide
  have body := isText_writtenLines (readable_element options report parts)
  rw [isText, IsAllowed, holds_element fixed] at body
  rw [markup_outputOf, isText, String.toList_append, List.all_append, declaration, Bool.true_and,
    body, List.forall_mem_append]

/-- A document that is not refused is read as its strings are read one by one. -/
theorem ofXml?_outputOf (options : Options) (report : Report) (parts : OrderedMap Part) :
    ofXml? (Compile.outputOf options report parts).markup =
      if isText (Compile.outputOf options report parts).markup then
        some (ofCompiled options report (Compile.outputOf options report parts)).asRead
      else none := by
  have absent : '\r' ∉ declarationLine.toList := by decide
  have body : body? (readText (Compile.outputOf options report parts).markup) =
      some (readText (writtenLines ((ofCompiled options report
        (Compile.outputOf options report parts)).element.lines 0))) := by
    rw [markup_outputOf, readText_append absent, body?_append]
  rw [ofXml?, body]
  simp only [Option.bind_eq_bind, Option.bind_some,
    ofXml?_readText_writtenLines (readable_element options report parts), mapStrings_element,
    ofElement?_element]

end Emitted

/-- What becomes of the strings of a report in the hands of a processor: the document is
refused for a character that is not allowed in one of them, and else it is read with line ends and
white space changed string by string. So it is read as it was given exactly when the values have
no white space but blanks and the texts no carriage return. -/
theorem markup_read_as_xml {options : Options} {report : Report} {output : Compile.Output}
    (compiled : (compile options report).result = .ok output) :
    let emitted := Emitted.ofCompiled options report output
    (Xml.isText output.markup = true ↔
        ∀ string ∈ emitted.valueStrings ++ emitted.textStrings, Xml.isText string = true) ∧
      (Emitted.ofXml? output.markup =
        if Xml.isText output.markup then some emitted.asRead else none) ∧
      (Emitted.ofXml? output.markup = some emitted ↔
        (∀ string ∈ emitted.valueStrings ++ emitted.textStrings, Xml.isText string = true) ∧
          (∀ value ∈ emitted.valueStrings, ∀ c ∈ value.toList, Xml.isBreak c = false) ∧
            ∀ text ∈ emitted.textStrings, '\r' ∉ text.toList) := by
  obtain ⟨parts, -, rfl⟩ := Compile.compiled_iff.1 compiled
  intro emitted
  have allowed : Xml.isText (Compile.outputOf options report parts).markup = true ↔
      ∀ string ∈ emitted.valueStrings ++ emitted.textStrings, Xml.isText string = true :=
    Emitted.isText_outputOf options report parts
  have read : Emitted.ofXml? (Compile.outputOf options report parts).markup =
      if Xml.isText (Compile.outputOf options report parts).markup then some emitted.asRead
      else none :=
    Emitted.ofXml?_outputOf options report parts
  refine ⟨allowed, read, ?_⟩
  rw [read, ← allowed, ← Emitted.asRead_eq_self_iff]
  cases Xml.isText (Compile.outputOf options report parts).markup with
  | true => simp
  | false => simp

/-- A key expression and a filter of two lines each. -/
def multilineReport : Report where
  server := some {
    queries := .ofList [("main", .array [.null, .array [.string "k=a\nb"], .array [],
      .string "x\r\ny"])] }

theorem markup_read_as_xml_multilineReport :
    ∃ output, (compile {} multilineReport).result = .ok output ∧
      Xml.isText output.markup = true ∧
      (Emitted.ofXml? output.markup).map Emitted.queries =
        some [⟨"main", [⟨"k", "a b"⟩], [], some "x\ny"⟩] := by
  obtain ⟨output, compiled, emitted⟩ : ∃ output, (compile {} multilineReport).result = .ok output ∧
      Emitted.ofCompiled {} multilineReport output =
        ⟨[], [.key "k"], [⟨"main", [⟨"k", "a\nb"⟩], [], some "x\r\ny"⟩], none⟩ :=
    ⟨_, rfl, rfl⟩
  obtain ⟨allowed, read, -⟩ := markup_read_as_xml compiled
  rw [emitted] at allowed read
  have text : Xml.isText output.markup = true := allowed.2 (by decide)
  refine ⟨output, compiled, text, ?_⟩
  rw [read, if_pos text]
  rfl

/-- A value expression with a control character. -/
def controlReport : Report where
  server := some {
    queries := .ofList [("main", .array [.null, .array [], .array [.string "v=\x01"],
      .string ""])] }

/-- Not every character of a document is allowed, and where all are, not every string is read
as it was given. -/
theorem not_read_as_given_multilineReport :
    (∃ output, (compile {} controlReport).result = .ok output ∧
      Xml.isText output.markup = false) ∧
    ∃ output, (compile {} multilineReport).result = .ok output ∧
      Xml.isText output.markup = true ∧
      Emitted.ofXml? output.markup ≠ some (Emitted.ofCompiled {} multilineReport output) := by
  constructor
  · let parts : OrderedMap Part := .ofList [("main", { values := [⟨"v", "\x01"⟩] })]
    have compiled : (compile {} controlReport).result =
        .ok (Compile.outputOf {} controlReport parts) := rfl
    have allowed := Emitted.isText_outputOf {} controlReport parts
    refine ⟨_, compiled, Bool.eq_false_iff.2 fun text => ?_⟩
    exact absurd (allowed.1 text "\x01" (by decide)) (by decide)
  · let parts : OrderedMap Part :=
      .ofList [("main", { keys := [⟨"k", "a\nb"⟩], filter := "x\r\ny" })]
    have compiled : (compile {} multilineReport).result =
        .ok (Compile.outputOf {} multilineReport parts) := rfl
    have text : Xml.isText (Compile.outputOf {} multilineReport parts).markup = true :=
      (Emitted.isText_outputOf {} multilineReport parts).2 (by decide)
    refine ⟨_, compiled, text, ?_⟩
    rw [Emitted.ofXml?_outputOf, if_pos text]
    intro same
    obtain ⟨values, -⟩ := (Emitted.asRead_eq_self_iff _).1 (Option.some.inj same)
    exact absurd (values "a\nb" (by decide) '\n' (by decide)) (by decide)

end QueryGroup
