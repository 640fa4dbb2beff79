import QueryGroup.Emitted
import QueryGroup.Proofs.Document
import QueryGroup.Proofs.ReadBack
set_option autoImplicit false

namespace QueryGroup

open Markup Query

/-- A pair as an element of the section of keys or of values. -/
def pairElement (kind : String) (pair : Aliased) : Element :=
  .node kind [("Alias", pair.name), ("Expression", pair.expression)] .empty

namespace EmittedQuery

/-- The definition that shows the query. -/
def definition (query : EmittedQuery) : Element :=
  .node "QueryGroupPartDefinition" [("Name", query.name)]
    (.elements
      ((Element.named "Keys").children (query.keys.map (pairElement "AliasedKey")) ::
        (Element.named "Values").children (query.values.map (pairElement "AliasedValue")) ::
        (query.filter.map fun filter => (Element.named "Filters").text filter).toList))

theorem isRowKey_eq (key : Aliased) :
    Sections.isRowKey key = decide (IsRowKeyName key.name) := by
  rw [Bool.eq_iff_iff, decide_eq_true_iff, Sections.isRowKey, List.isPrefixOf_iff_prefix]
  rfl

theorem query_eq_definition (name : String) (part : Part) :
    Sections.query name part = (ofPart name part).definition := by
  have keys : Sections.keys part =
      (Element.named "Keys").children ((ofPart name part).keys.map (pairElement "AliasedKey")) := by
    simp only [Sections.keys, ofPart, List.map_map, isRowKey_eq, decide_not]
    rfl
  unfold Sections.query definition
  rw [keys]
  by_cases empty : part.filter.isEmpty = true
  · simp only [Part.hasFilter, ofPart, empty]
    rfl
  · simp only [Part.hasFilter, ofPart, empty]
    rfl

end EmittedQuery

namespace Emitted

def sectionOfQueries (queries : List EmittedQuery) : Element :=
  (Element.named "QueryDefinitions").children (queries.map EmittedQuery.definition)

def sectionOfSubstitutions (list : List Substitution) : Element :=
  (Element.named "TextSubstitutions").children (list.map Sections.substitution)

/-- The root element that says it. -/
def element (emitted : Emitted) : Element :=
  .node "QueryGroupDefinition"
    [("ServerSideAggregation", "true"), ("EfficientQueries", "false"), ("GridType", "PivotGrid")]
    (.elements
      ((Element.named "ColumnExpressions").children
          (emitted.expressions.map Sections.columnExpression) ::
        Sections.layout emitted.layout :: sectionOfQueries emitted.queries ::
        (emitted.substitutions.map sectionOfSubstitutions).toList))

theorem queries_eq_section (parts : OrderedMap Part) :
    Sections.queries parts =
      sectionOfQueries (parts.entries.map fun entry => EmittedQuery.ofPart entry.1 entry.2) := by
  simp only [Sections.queries, sectionOfQueries, List.map_map, EmittedQuery.query_eq_definition]
  rfl

theorem substitutions?_eq_section (policy : SubstitutionsPolicy) (list : List Substitution) :
    Sections.substitutions? policy list =
      (shownSubstitutions? policy list).map sectionOfSubstitutions := by
  unfold Sections.substitutions? shownSubstitutions?
  split <;> rfl

/-- The document depends on nothing but what it is meant to say. -/
theorem document_eq_element (options : Options) (report : Report) (parts : OrderedMap Part) :
    Compile.document options report parts
        (Layout.fields options.sortSuffix parts report.columnExpressions) =
      (ofCompiled options report (Compile.outputOf options report parts)).element := by
  rw [Compile.document_eq, queries_eq_section, substitutions?_eq_section]
  rfl

theorem mapM_map_of_read {α β : Type} {write : α → β} {read? : β → Option α}
    (each : ∀ item, read? (write item) = some item) (items : List α) :
    (items.map write).mapM read? = some items := by
  induction items with
  | nil => rfl
  | cons item rest ih => simp [each, ih]

theorem sectionChildren?_children (name : String) (children : List Element) :
    sectionChildren? name ((Element.named name).children children) = some children := by
  rw [Element.named, Element.children_empty]
  cases children <;> simp [Content.ofList, sectionChildren?]

theorem children?_ofList (children : List Element) :
    children? (.ofList children) = some children := by
  cases children <;> rfl

theorem readExpression?_columnExpression (expression : String × String) :
    readExpression? (Sections.columnExpression expression) = some expression := rfl

theorem readField?_layoutField (field : Layout.Field) :
    readField? (Sections.layoutField field) = some field := by
  rcases field with ⟨name, _ | _⟩ <;> rfl

theorem readPair?_pairElement (kind : String) (pair : Aliased) :
    readPair? kind (pairElement kind pair) = some pair := by
  simp [readPair?, pairElement]

theorem readFilter?_filter (filter : Option String) :
    readFilter? (filter.map fun text => (Element.named "Filters").text text).toList =
      some filter := by
  cases filter <;> rfl

theorem readQuery?_definition (query : EmittedQuery) :
    readQuery? query.definition = some query := by
  simp [readQuery?, EmittedQuery.definition, sectionChildren?_children,
    mapM_map_of_read (readPair?_pairElement _), readFilter?_filter]

theorem readEntry?_menuEntry (entry : MenuEntry) :
    readEntry? (Sections.menuEntry entry) = some entry := rfl

theorem readTruth?_text (truth : Bool) :
    readTruth? (if truth then "true" else "false") = some truth := by
  cases truth <;> rfl

theorem substitution_eq (substitution : Substitution) :
    Sections.substitution substitution =
      .node "TextSubstitution"
        [("Token", substitution.token), ("Description", substitution.description),
          ("Multi", if substitution.multi then "true" else "false")]
        (.ofList (substitution.entries.map Sections.menuEntry)) :=
  Element.children_empty _ _ _

theorem readSubstitution?_substitution (substitution : Substitution) :
    readSubstitution? (Sections.substitution substitution) = some substitution := by
  rw [substitution_eq]
  simp [readSubstitution?, children?_ofList, mapM_map_of_read readEntry?_menuEntry,
    readTruth?_text]

theorem readSubstitutions?_section (shown : Option (List Substitution)) :
    readSubstitutions? (shown.map sectionOfSubstitutions).toList = some shown := by
  cases shown with
  | none => rfl
  | some list =>
      simp [readSubstitutions?, sectionOfSubstitutions, sectionChildren?_children,
        mapM_map_of_read readSubstitution?_substitution]

/-- The root element says all of it. -/
theorem ofElement?_element (emitted : Emitted) : ofElement? emitted.element = some emitted := by
  simp [ofElement?, element, sectionOfQueries, Sections.layout, sectionChildren?_children,
    mapM_map_of_read readExpression?_columnExpression, mapM_map_of_read readField?_layoutField,
    mapM_map_of_read readQuery?_definition, readSubstitutions?_section]

theorem body?_append (body : String) : body? (declarationLine ++ body) = some body := by
  have shape : (declarationLine ++ body).toList = declarationLine.toList ++ body.toList :=
    String.toList_append
  have starts : declarationLine.toList.isPrefixOf (declarationLine.toList ++ body.toList) = true :=
    List.isPrefixOf_iff_prefix.2 (List.prefix_append _ _)
  simp only [body?, shape, starts, if_true, List.drop_left, String.ofList_toList]

theorem markup_outputOf (options : Options) (report : Report) (parts : OrderedMap Part) :
    (Compile.outputOf options report parts).markup =
      declarationLine ++ writtenLines
        ((ofCompiled options report (Compile.outputOf options report parts)).element.lines 0) := by
  rw [← document_eq_element]
  exact Compile.render_eq _

theorem readable_element (options : Options) (report : Report) (parts : OrderedMap Part) :
    (ofCompiled options report (Compile.outputOf options report parts)).element.Readable := by
  rw [← document_eq_element]
  exact Compile.readable_document ..

/-- The root element in the text of a document. -/
def root? (text : String) : Option Element := (body? text).bind Element.ofMarkup?

theorem root?_outputOf (options : Options) (report : Report) (parts : OrderedMap Part) :
    root? (Compile.outputOf options report parts).markup =
      some (ofCompiled options report (Compile.outputOf options report parts)).element := by
  rw [root?, markup_outputOf, body?_append, Option.bind_some,
    Element.ofMarkup?_writtenLines (readable_element options report parts)]

theorem ofMarkup?_eq_root? (text : String) : ofMarkup? text = (root? text).bind ofElement? := by
  rw [ofMarkup?, root?, Option.bind_assoc]
  rfl

/-- A document is read as what its compilation emitted. -/
theorem ofMarkup?_outputOf (options : Options) (report : Report) (parts : OrderedMap Part) :
    ofMarkup? (Compile.outputOf options report parts).markup =
      some (ofCompiled options report (Compile.outputOf options report parts)) := by
  rw [ofMarkup?_eq_root?, root?_outputOf, Option.bind_some, ofElement?_element]

end Emitted

/-- Reading the markup gives what was emitted: the parts that the queries come to, each in its
place, and the other sections of the report. So two compilations write the same markup exactly
when they emit the same. -/
theorem markup_faithful {options : Options} {report : Report} {output : Compile.Output}
    (compiled : (compile options report).result = .ok output) :
    Emitted.ofMarkup? output.markup = some (Emitted.ofCompiled options report output) ∧
      List.Forall₂ (Normalizes options.positional) report.queries.entries
        output.queries.entries ∧
      ∀ {options' : Options} {report' : Report} {output' : Compile.Output},
        (compile options' report').result = .ok output' →
          (output.markup = output'.markup ↔
            Emitted.ofCompiled options report output =
              Emitted.ofCompiled options' report' output') := by
  obtain ⟨parts, normalized, rfl⟩ := Compile.compiled_iff.1 compiled
  refine ⟨Emitted.ofMarkup?_outputOf options report parts, normalized, ?_⟩
  intro options' report' output' compiled'
  obtain ⟨parts', -, rfl⟩ := Compile.compiled_iff.1 compiled'
  constructor
  · intro same
    have read := Emitted.ofMarkup?_outputOf options report parts
    rw [same, Emitted.ofMarkup?_outputOf] at read
    exact (Option.some.inj read).symm
  · intro same
    rw [Emitted.markup_outputOf, Emitted.markup_outputOf, same]

theorem markup_faithful_hostileReport :
    ∃ output empty, (compile {} hostileReport).result = .ok output ∧
      (compile {} {}).result = .ok empty ∧
      Emitted.ofMarkup? output.markup = some (Emitted.ofCompiled {} hostileReport output) ∧
      List.Forall₂ (Normalizes .lenient) hostileReport.queries.entries output.queries.entries ∧
      output.markup ≠ empty.markup := by
  obtain ⟨output, compiled⟩ : ∃ output, (compile {} hostileReport).result = .ok output :=
    ⟨_, rfl⟩
  obtain ⟨empty, compiledEmpty⟩ : ∃ empty, (compile {} {}).result = .ok empty := ⟨_, rfl⟩
  obtain ⟨read, normalized, same_iff⟩ := markup_faithful compiled
  refine ⟨output, empty, compiled, compiledEmpty, read, normalized, ?_⟩
  intro same
  have expressions := congrArg Emitted.expressions ((same_iff compiledEmpty).1 same)
  exact List.cons_ne_nil _ _ expressions

end QueryGroup
