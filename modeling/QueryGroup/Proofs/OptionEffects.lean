import QueryGroup.Proofs.LayoutFields
import QueryGroup.Proofs.SectionTexts
set_option autoImplicit false

namespace QueryGroup

open Markup Query

namespace Layout

/-- A longer suffix hides fewer aliases. -/
theorem hidden_of_suffix {suffix longer name : String} (present : suffix ≠ "")
    (ends : suffix.toList <:+ longer.toList) (hidden : Hidden longer name) :
    Hidden suffix name := by
  rcases hidden with rowKey | corporation | ⟨-, helper⟩
  · exact .inl rowKey
  · exact .inr (.inl corporation)
  · exact .inr (.inr ⟨present, ends.trans helper⟩)

theorem keyFields_sublist {suffix longer : String} (present : suffix ≠ "")
    (ends : suffix.toList <:+ longer.toList) (part : Part) :
    (keyFields suffix part).Sublist (keyFields longer part) := by
  apply List.Sublist.map
  apply List.monotone_filter_right
  intro key shown
  simp only [isLayoutAlias_eq, decide_eq_true_eq] at shown ⊢
  exact mt (hidden_of_suffix present ends) shown

theorem fields_sublist {suffix longer : String} (present : suffix ≠ "")
    (ends : suffix.toList <:+ longer.toList) (parts : OrderedMap Part)
    (expressions : OrderedMap String) :
    (fields suffix parts expressions).Sublist (fields longer parts expressions) := by
  apply List.Sublist.append_right
  cases parts.first? with
  | none => exact List.Sublist.refl _
  | some entry => exact keyFields_sublist present ends entry.2

theorem filter_isData_fields (suffix : String) (parts : OrderedMap Part)
    (expressions : OrderedMap String) :
    (fields suffix parts expressions).filter Field.isData = dataFields expressions := by
  have keys (part : Part) : (keyFields suffix part).filter Field.isData = [] := by
    rw [List.filter_eq_nil_iff]
    intro field member
    obtain ⟨key, -, rfl⟩ := List.mem_map.1 member
    simp [Field.isData, Field.key]
  have data : (dataFields expressions).filter Field.isData = dataFields expressions := by
    rw [List.filter_eq_self]
    intro field member
    obtain ⟨name, -, rfl⟩ := List.mem_map.1 member
    simp [Field.isData, Field.data]
  rw [fields, List.filter_append, data]
  cases parts.first? with
  | none => rfl
  | some entry => rw [Option.elim_some, keys, List.nil_append]

end Layout

namespace SectionTexts

variable {options options' : Options} (report : Report) (parts : OrderedMap Part)

theorem ofCompiled_of_substitutions (same : options'.substitutions = options.substitutions) :
    let texts := ofCompiled options report (Compile.outputOf options report parts)
    let texts' := ofCompiled options' report (Compile.outputOf options' report parts)
    texts' = { texts with layout := texts'.layout } := by
  simp only [ofCompiled, Compile.outputOf, same]

theorem ofCompiled_of_sortSuffix (same : options'.sortSuffix = options.sortSuffix) :
    let texts := ofCompiled options report (Compile.outputOf options report parts)
    let texts' := ofCompiled options' report (Compile.outputOf options' report parts)
    texts' = { texts with substitutions := texts'.substitutions } := by
  simp only [ofCompiled, Compile.outputOf, same]

/-- The last section stands right before the closing tag of the root. -/
theorem document_eq_last (texts : SectionTexts) :
    texts.document = texts.head ++ texts.layout ++ texts.queries ++ texts.substitutions ++
      "</QueryGroupDefinition>\n" := by
  rw [document_eq]
  unfold tail
  simp only [String.append_assoc]

end SectionTexts

namespace Sections

theorem substitutions?_of_ne_nil {list : List Substitution} (present : list ≠ [])
    (policy : SubstitutionsPolicy) :
    substitutions? policy list =
      some ((Element.named "TextSubstitutions").children (list.map substitution)) := by
  have filled : list.isEmpty = false := by simpa using present
  rw [substitutions?, filled]
  rfl

/-- The section without substitutions is a line of its own. -/
theorem sectionText_substitutions_nil :
    (substitutions? .always []).elim "" sectionText = "  <TextSubstitutions />\n" := by
  decide

end Sections

theorem Compile.queries_of_positional {options options' : Options}
    (same : options'.positional = options.positional) (report : Report) :
    Compile.queries options' report = Compile.queries options report := by
  rw [Compile.queries, Compile.queries, same]

namespace Compile

variable {options options' : Options} {report : Report} (parts : OrderedMap Part)

theorem markup_of_substitutions (same : options'.substitutions = options.substitutions) :
    let texts := SectionTexts.ofCompiled options report (outputOf options report parts)
    (outputOf options report parts).markup =
        texts.head ++ sectionText (Sections.layout (outputOf options report parts).layout) ++
          (texts.queries ++ texts.tail) ∧
      (outputOf options' report parts).markup =
        texts.head ++ sectionText (Sections.layout (outputOf options' report parts).layout) ++
          (texts.queries ++ texts.tail) := by
  intro texts
  have sections := SectionTexts.ofCompiled_of_substitutions report parts same
  rw [SectionTexts.markup_outputOf, SectionTexts.markup_outputOf, sections,
    SectionTexts.document_eq, SectionTexts.document_eq]
  exact ⟨rfl, rfl⟩

/-- With substitutions to show, both policies show them. -/
theorem markup_of_ne_nil (same : options'.sortSuffix = options.sortSuffix)
    (present : report.substitutions ≠ []) :
    (outputOf options' report parts).markup = (outputOf options report parts).markup := by
  have sections := SectionTexts.ofCompiled_of_sortSuffix report parts same
  have last :
      (SectionTexts.ofCompiled options' report (outputOf options' report parts)).substitutions =
        (SectionTexts.ofCompiled options report (outputOf options report parts)).substitutions := by
    simp only [SectionTexts.ofCompiled, Sections.substitutions?_of_ne_nil present]
  rw [SectionTexts.markup_outputOf, SectionTexts.markup_outputOf, sections, last]

/-- With none to show, one policy writes a line that the other does not. -/
theorem markup_of_nil (same : options'.sortSuffix = options.sortSuffix)
    (empty : report.substitutions = []) (omitted : options.substitutions = .omitWhenEmpty)
    (always : options'.substitutions = .always) :
    let texts := SectionTexts.ofCompiled options report (outputOf options report parts)
    (outputOf options report parts).markup =
        texts.head ++ texts.layout ++ texts.queries ++ "</QueryGroupDefinition>\n" ∧
      (outputOf options' report parts).markup =
        texts.head ++ texts.layout ++ texts.queries ++ "  <TextSubstitutions />\n" ++
          "</QueryGroupDefinition>\n" := by
  intro texts
  have sections := SectionTexts.ofCompiled_of_sortSuffix report parts same
  have nothing : texts.substitutions = "" := by
    simp only [texts, SectionTexts.ofCompiled, empty, omitted]
    rfl
  have line : (SectionTexts.ofCompiled options' report
      (outputOf options' report parts)).substitutions = "  <TextSubstitutions />\n" := by
    simp only [SectionTexts.ofCompiled, empty, always]
    exact Sections.sectionText_substitutions_nil
  constructor
  · have written := SectionTexts.document_eq_last texts
    rw [nothing, String.append_empty] at written
    exact (SectionTexts.markup_outputOf options report parts).trans written
  · rw [SectionTexts.markup_outputOf, sections, line, SectionTexts.document_eq_last]
    rfl

end Compile

/-- Under one policy on short arrays a report is refused for one reason or comes to the same parts.
The suffix reaches the key fields of the layout only, and a longer one leaves more of them; the
policy on substitutions reaches one line of a document without any. -/
theorem compile_of_positional (report : Report) {options options' : Options}
    (positional : options'.positional = options.positional) :
    (compile options' report).result.map Compile.Output.queries =
        (compile options report).result.map Compile.Output.queries ∧
      ∀ {output output' : Compile.Output}, (compile options report).result = .ok output →
        (compile options' report).result = .ok output' →
          let texts := SectionTexts.ofCompiled options report output
          (options'.substitutions = options.substitutions →
            output.markup = texts.head ++ sectionText (Sections.layout output.layout) ++
                (texts.queries ++ texts.tail) ∧
              output'.markup = texts.head ++ sectionText (Sections.layout output'.layout) ++
                (texts.queries ++ texts.tail)) ∧
          output'.layout.filter Layout.Field.isData = output.layout.filter Layout.Field.isData ∧
          (options'.sortSuffix = options.sortSuffix →
            output'.layout = output.layout ∧
              (report.substitutions ≠ [] → output'.markup = output.markup) ∧
              (report.substitutions = [] → options.substitutions = .omitWhenEmpty →
                options'.substitutions = .always →
                  ∃ body, output.markup = body ++ "</QueryGroupDefinition>\n" ∧
                    output'.markup =
                      body ++ "  <TextSubstitutions />\n" ++ "</QueryGroupDefinition>\n")) ∧
          (options.sortSuffix ≠ "" →
            options.sortSuffix.toList <:+ options'.sortSuffix.toList →
              output.layout.Sublist output'.layout) := by
  have queries := Compile.queries_of_positional positional report
  constructor
  · rw [Compile.result_compile, Compile.result_compile, queries]
    cases (Compile.queries options report).result <;> rfl
  · intro output output' compiled compiled' texts
    obtain ⟨parts, made, rfl⟩ := Compile.result_compile_eq_ok_iff.1 compiled
    obtain ⟨parts', made', rfl⟩ := Compile.result_compile_eq_ok_iff.1 compiled'
    rw [queries, made] at made'
    obtain rfl := Except.ok.inj made'
    refine ⟨fun same => Compile.markup_of_substitutions parts same, ?_, ?_, ?_⟩
    · exact (Layout.filter_isData_fields _ _ _).trans (Layout.filter_isData_fields _ _ _).symm
    · intro same
      have layout : (Compile.outputOf options' report parts).layout =
          (Compile.outputOf options report parts).layout := by
        simp only [Compile.outputOf, same]
      exact ⟨layout, fun present => Compile.markup_of_ne_nil parts same present,
        fun empty omitted always =>
          ⟨_, Compile.markup_of_nil parts same empty omitted always⟩⟩
    · intro present ends
      exact Layout.fields_sublist present ends parts report.columnExpressions

theorem compile_of_positional_gridReport :
    ∃ output longer always, (compile {} gridReport).result = .ok output ∧
      (compile { sortSuffix := "Book_SortField" } gridReport).result = .ok longer ∧
      (compile { substitutions := .always } gridReport).result = .ok always ∧
      (∃ before after,
        output.markup = before ++ sectionText (Sections.layout output.layout) ++ after ∧
          longer.markup = before ++ sectionText (Sections.layout longer.layout) ++ after) ∧
      output.layout.Sublist longer.layout ∧ always.layout = output.layout ∧
      ∃ body, output.markup = body ++ "</QueryGroupDefinition>\n" ∧
        always.markup = body ++ "  <TextSubstitutions />\n" ++ "</QueryGroupDefinition>\n" := by
  let book : Options := { sortSuffix := "Book_SortField" }
  let shown : Options := { substitutions := .always }
  obtain ⟨output, compiled⟩ : ∃ output, (compile {} gridReport).result = .ok output := ⟨_, rfl⟩
  obtain ⟨longer, compiledLonger⟩ : ∃ longer, (compile book gridReport).result = .ok longer :=
    ⟨_, rfl⟩
  obtain ⟨always, compiledAlways⟩ : ∃ always, (compile shown gridReport).result = .ok always :=
    ⟨_, rfl⟩
  have samePolicy : book.positional = ({} : Options).positional := rfl
  have samePolicy' : shown.positional = ({} : Options).positional := rfl
  obtain ⟨sections, -, -, fewer⟩ :=
    (compile_of_positional gridReport samePolicy).2 compiled compiledLonger
  obtain ⟨-, -, substitutions, -⟩ :=
    (compile_of_positional gridReport samePolicy').2 compiled compiledAlways
  obtain ⟨layout, -, line⟩ := substitutions rfl
  exact ⟨output, longer, always, compiled, compiledLonger, compiledAlways,
    ⟨_, _, sections rfl⟩, fewer (by decide) (by decide), layout, line rfl rfl rfl⟩

end QueryGroup
