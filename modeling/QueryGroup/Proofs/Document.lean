import QueryGroup.Emitted
import QueryGroup.Proofs.Building
import QueryGroup.Proofs.ElementText
import QueryGroup.Proofs.Normalizing
set_option autoImplicit false

namespace QueryGroup

open Markup Query

/-- The key fields of the first query and a data field for every column expression. -/
def Layout.fields (suffix : String) (queries : OrderedMap Part)
    (expressions : OrderedMap String) : List Field :=
  (queries.first?.elim [] fun entry => keyFields suffix entry.2) ++ dataFields expressions

theorem Layout.result_project {ε : Type} (suffix : String) (queries : OrderedMap Part)
    (expressions : OrderedMap String) :
    (project suffix queries expressions : Audited ε (List Field)).result =
      .ok (fields suffix queries expressions) := by
  unfold project fields
  split
  · next query part first =>
    rw [first]
    rfl
  · next first =>
    rw [first]
    rfl

namespace Compile

/-- The output of a compilation whose queries came to these parts. -/
def outputOf (options : Options) (report : Report) (parts : OrderedMap Part) : Output where
  markup := render (document options report parts
    (Layout.fields options.sortSuffix parts report.columnExpressions))
  queries := parts
  layout := Layout.fields options.sortSuffix parts report.columnExpressions

/-- Nothing behind the queries can fail. -/
theorem result_compile (options : Options) (report : Report) :
    (compile options report).result =
      (queries options report).result.map (outputOf options report) := by
  simp only [compile, Audited.result_bind]
  cases (queries options report).result with
  | error refusal => rfl
  | ok parts =>
      simp only [Except.bind, Layout.result_project]
      rfl

theorem result_compile_eq_ok_iff {options : Options} {report : Report} {output : Output} :
    (compile options report).result = .ok output ↔
      ∃ parts, (queries options report).result = .ok parts ∧
        output = outputOf options report parts := by
  rw [result_compile]
  cases (queries options report).result with
  | error refusal => simp [Except.map]
  | ok parts => simp [Except.map, eq_comm]

/-- The parts of a compilation are those that its queries come to, each under its name. -/
theorem compiled_iff {options : Options} {report : Report} {output : Output} :
    (compile options report).result = .ok output ↔
      ∃ parts : OrderedMap Part,
        List.Forall₂ (Normalizes options.positional) report.queries.entries parts.entries ∧
          output = outputOf options report parts := by
  simp only [result_compile_eq_ok_iff, queries, result_normalizeAll_eq_ok_iff]

theorem render_eq (root : Element) :
    render root = Emitted.declarationLine ++ writtenLines (root.lines 0) := by
  have line : (Writer.line {} Sections.declaration).buffer = Emitted.declarationLine := by decide
  rw [render, Element.write_eq, line]
  rfl

end Compile

namespace Sections

theorem readable_root : root.Readable := by
  apply Element.Readable.withAttribute _ (by decide)
  apply Element.Readable.withAttribute _ (by decide)
  apply Element.Readable.withAttribute _ (by decide)
  exact Element.readable_named (by decide)

theorem readable_children_map {α : Type} {name : String}
    (word : Token.isName name.toList = true) {build : α → Element}
    (each : ∀ item, (build item).Readable) (items : List α) :
    ((Element.named name).children (items.map build)).Readable := by
  apply (Element.readable_named word).children
  intro child member
  obtain ⟨item, -, rfl⟩ := List.mem_map.1 member
  exact each item

theorem readable_columnExpressions (expressions : OrderedMap String) :
    (columnExpressions expressions).Readable := by
  apply readable_children_map (by decide)
  intro expression
  exact ((Element.readable_named (by decide)).withAttribute (by decide) _).withText _

theorem readable_layout (fields : List Layout.Field) : (layout fields).Readable := by
  apply readable_children_map (by decide)
  rintro ⟨name, role⟩
  have field : ((Element.named "Field").withAttribute "Name" name).Readable :=
    (Element.readable_named (by decide)).withAttribute (by decide) name
  cases role with
  | key => exact field
  | data => exact (field.withAttribute (by decide) _).withAttribute (by decide) _

theorem readable_keyElement (key : Aliased) : (keyElement key).Readable :=
  ((Element.readable_named (by decide)).withAttribute (by decide) _).withAttribute (by decide) _

theorem readable_keys (part : Part) : (keys part).Readable :=
  readable_children_map (by decide) readable_keyElement _

theorem readable_values (part : Part) : (values part).Readable := by
  apply readable_children_map (by decide)
  intro value
  exact ((Element.readable_named (by decide)).withAttribute (by decide) _).withAttribute
    (by decide) _

theorem readable_query (name : String) (part : Part) : (query name part).Readable := by
  have named : ((Element.named "QueryGroupPartDefinition").withAttribute "Name" name).Readable :=
    (Element.readable_named (by decide)).withAttribute (by decide) name
  have definition := (named.child (readable_keys part)).child (readable_values part)
  rw [query]
  split
  · exact definition.child ((Element.readable_named (by decide)).withText _)
  · exact definition

theorem readable_queries (parts : OrderedMap Part) : (queries parts).Readable := by
  apply readable_children_map (by decide)
  intro entry
  exact readable_query entry.1 entry.2

theorem readable_menuEntry (entry : MenuEntry) : (menuEntry entry).Readable :=
  ((Element.readable_named (by decide)).withAttribute (by decide) _).withAttribute (by decide) _

theorem readable_substitution (substitution : Substitution) :
    (Sections.substitution substitution).Readable := by
  apply Element.Readable.children
  · apply Element.Readable.withAttribute _ (by decide)
    apply Element.Readable.withAttribute _ (by decide)
    apply Element.Readable.withAttribute _ (by decide)
    exact Element.readable_named (by decide)
  intro child member
  obtain ⟨entry, -, rfl⟩ := List.mem_map.1 member
  exact readable_menuEntry entry

theorem readable_of_substitutions? {policy : SubstitutionsPolicy} {list : List Substitution}
    {last : Element} (shown : substitutions? policy list = some last) : last.Readable := by
  unfold substitutions? at shown
  split at shown
  · cases shown
  · cases shown
    exact readable_children_map (by decide) readable_substitution list

end Sections

namespace Compile

/-- The root's children are the sections, the last of them only where it is shown. -/
theorem document_eq (options : Options) (report : Report) (parts : OrderedMap Part)
    (layout : List Layout.Field) :
    document options report parts layout =
      .node "QueryGroupDefinition"
        [("ServerSideAggregation", "true"), ("EfficientQueries", "false"),
          ("GridType", "PivotGrid")]
        (.elements (Sections.columnExpressions report.columnExpressions ::
          Sections.layout layout :: Sections.queries parts ::
          (Sections.substitutions? options.substitutions report.substitutions).toList)) := by
  unfold document
  cases Sections.substitutions? options.substitutions report.substitutions <;> rfl

theorem readable_document (options : Options) (report : Report) (parts : OrderedMap Part)
    (layout : List Layout.Field) : (document options report parts layout).Readable := by
  have sections := ((Sections.readable_root.child
    (Sections.readable_columnExpressions report.columnExpressions)).child
    (Sections.readable_layout layout)).child (Sections.readable_queries parts)
  unfold document
  split
  · next last shown => exact sections.child (Sections.readable_of_substitutions? shown)
  · exact sections

end Compile

/-- A report whose strings are all about to break out of their place. -/
def hostileReport : Report where
  server := some {
    columnExpressions := .ofList [("</Expression>", "&amp; ]]> \"<'")]
    queries := .ofList [
      ("\" />\n<Query", .object [
        ("keys", .array [.string "<a href='x'>=&lt;&", .string "uniqueKey=\n"]),
        ("values", .array [.string "=\">", .string "</Values>"]),
        ("filter", .string " </Filters>\n<Filters> ")])] }
  client := some {
    textSubstitutions := [⟨"&", "\n  <", true, [⟨"'", "\""⟩]⟩] }

end QueryGroup
