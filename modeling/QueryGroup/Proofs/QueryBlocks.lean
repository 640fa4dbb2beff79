import QueryGroup.Proofs.SectionTexts
set_option autoImplicit false

namespace QueryGroup

open Json Markup Query

/-- The report with a raw part under a name. A name that is there keeps its place, and a new one
goes to the end. -/
def Report.withQuery (report : Report) (name : String) (raw : Value) : Report :=
  let server := report.server.getD {}
  { report with server := some { server with queries := server.queries.insert name raw } }

namespace Report

variable (report : Report) (name : String) (raw : Value)

theorem queries_withQuery :
    (report.withQuery name raw).queries = report.queries.insert name raw := by
  rcases report with ⟨version, _ | server, client⟩ <;> rfl

theorem columnExpressions_withQuery :
    (report.withQuery name raw).columnExpressions = report.columnExpressions := by
  rcases report with ⟨version, _ | server, client⟩ <;> rfl

end Report

namespace Assoc

variable {α : Type}

/-- A name that is there takes its value in place. -/
theorem put_append_cons {front back : List (String × α)} {name : String} {old : α}
    (distinct : (keys (front ++ (name, old) :: back)).Nodup) (value : α) :
    put name value (front ++ (name, old) :: back) = front ++ (name, value) :: back := by
  induction front with
  | nil => simp [put]
  | cons pair front ih =>
      rw [List.cons_append, keys_cons, List.nodup_cons] at distinct
      have other : pair.1 ≠ name := by
        rintro same
        exact distinct.1 (by simp [same])
      rw [List.cons_append, put, if_neg other, ih distinct.2, List.cons_append]

end Assoc

namespace OrderedMap

variable {α : Type} {map : OrderedMap α}

theorem exists_first_of_behind {before after : List (String × α)} {name : String} {value : α}
    (shape : map.entries = before ++ (name, value) :: after) (behind : before ≠ []) :
    ∃ entry, map.first? = some entry ∧ entry.1 ≠ name := by
  obtain ⟨entry, rest, rfl⟩ := List.exists_cons_of_ne_nil behind
  have distinct := map.distinct
  rw [shape, List.cons_append, Assoc.keys_cons, List.nodup_cons] at distinct
  refine ⟨entry, by simp [first?, shape], ?_⟩
  rintro rfl
  exact distinct.1 (by simp)

theorem exists_first_of_absent {name : String} (present : map.entries ≠ [])
    (absent : name ∉ map.keys) : ∃ entry, map.first? = some entry ∧ entry.1 ≠ name := by
  obtain ⟨entry, rest, shape⟩ := List.exists_cons_of_ne_nil present
  refine ⟨entry, by simp [first?, shape], ?_⟩
  rintro rfl
  exact absent (by simp [keys, shape])

end OrderedMap

namespace Query

variable {policy : PositionalPolicy} {raws : List (String × Value)} {parts : List (String × Part)}

/-- One raw part more, or another one in its place, adds or replaces one part. -/
theorem normalizes_put (normalized : List.Forall₂ (Normalizes policy) raws parts)
    {name : String} {raw : Value} {part : Part}
    (made : (normalize policy name raw).result = .ok part) :
    List.Forall₂ (Normalizes policy) (Assoc.put name raw raws) (Assoc.put name part parts) := by
  induction normalized with
  | nil => exact .cons ⟨rfl, made⟩ .nil
  | @cons entry shown rest later first others ih =>
      have same := first.1
      by_cases here : entry.1 = name
      · rw [Assoc.put, Assoc.put, if_pos here, if_pos (same ▸ here)]
        exact .cons ⟨same, by rw [here]; exact made⟩ others
      · rw [Assoc.put, Assoc.put, if_neg here, if_neg (same ▸ here)]
        exact .cons first ih

theorem exists_of_normalizes_append {front back : List (String × Value)} {entry : String × Value}
    (normalized : List.Forall₂ (Normalizes policy) (front ++ entry :: back) parts) :
    ∃ before part after, parts = before ++ (entry.1, part) :: after ∧
      before.length = front.length ∧ (normalize policy entry.1 entry.2).result = .ok part := by
  induction front generalizing parts with
  | nil =>
      obtain ⟨⟨name, part⟩, after, made, -, rfl⟩ := List.forall₂_cons_left_iff.1 normalized
      obtain ⟨same, made⟩ := made
      exact ⟨[], part, after, by rw [same]; rfl, rfl, made⟩
  | cons first front ih =>
      obtain ⟨shown, rest, -, others, rfl⟩ := List.forall₂_cons_left_iff.1 normalized
      obtain ⟨before, part, after, rfl, long, made⟩ := ih others
      exact ⟨shown :: before, part, after, rfl, by simp [long], made⟩

end Query

/-- The lines of a query's definition, at the depth at which a document has them. -/
def definitionText (name : String) (part : Part) : String :=
  ((Sections.query name part).write { depth := 2 }).buffer

def definitionTexts (entries : List (String × Part)) : String :=
  String.join (entries.map fun entry => definitionText entry.1 entry.2)

theorem definitionText_eq (name : String) (part : Part) :
    definitionText name part = writtenLines ((Sections.query name part).lines 2) := by
  rw [definitionText, Element.write_eq, String.empty_append]

theorem definitionTexts_append (front back : List (String × Part)) :
    definitionTexts (front ++ back) = definitionTexts front ++ definitionTexts back := by
  rw [definitionTexts, List.map_append, String.join_append]
  rfl

theorem definitionTexts_cons (entry : String × Part) (rest : List (String × Part)) :
    definitionTexts (entry :: rest) = definitionText entry.1 entry.2 ++ definitionTexts rest := by
  rw [definitionTexts, List.map_cons, String.join_cons]
  rfl

theorem definitionTexts_singleton (entry : String × Part) :
    definitionTexts [entry] = definitionText entry.1 entry.2 := by
  rw [definitionTexts_cons]
  exact String.append_empty

/-- The definitions with one of them brought out. -/
theorem definitionTexts_frame (opening closing : String) (before after : List (String × Part))
    (name : String) (part : Part) :
    opening ++ definitionTexts (before ++ (name, part) :: after) ++ closing =
      (opening ++ definitionTexts before) ++ definitionText name part ++
        (definitionTexts after ++ closing) := by
  rw [definitionTexts_append, definitionTexts_cons]
  simp only [String.append_assoc]

theorem writtenLines_linesAll_query (entries : List (String × Part)) :
    writtenLines (Element.linesAll 2 (entries.map fun entry => Sections.query entry.1 entry.2)) =
      definitionTexts entries := by
  induction entries with
  | nil => rfl
  | cons entry rest ih =>
      rw [List.map_cons, Element.linesAll, writtenLines_append, ih, definitionTexts_cons,
        definitionText_eq]

/-- Where there are queries, their definitions are the lines between the section's tags. -/
theorem sectionText_queries {parts : OrderedMap Part} (present : parts.entries ≠ []) :
    sectionText (Sections.queries parts) =
      "  <QueryDefinitions>\n" ++ definitionTexts parts.entries ++ "  </QueryDefinitions>\n" := by
  have children : (parts.entries.map fun entry => Sections.query entry.1 entry.2) ≠ [] := by
    simpa using present
  have content : Sections.queries parts = .node "QueryDefinitions" []
      (.elements (parts.entries.map fun entry => Sections.query entry.1 entry.2)) := by
    rw [Sections.queries, Element.named, Element.children_empty]
    obtain ⟨first, rest, shape⟩ := List.exists_cons_of_ne_nil children
    rw [shape]
    rfl
  have opened : Line.written ⟨1, Element.openTag "QueryDefinitions" [] ++ ">"⟩ =
      "  <QueryDefinitions>\n" := by decide
  have closed : Line.written ⟨1, "</" ++ "QueryDefinitions" ++ ">"⟩ =
      "  </QueryDefinitions>\n" := by decide
  rw [sectionText, content, Element.lines, List.cons_append, writtenLines_cons,
    writtenLines_append, writtenLines_linesAll_query, writtenLines_singleton, opened, closed,
    String.append_assoc]

namespace SectionTexts

/-- The document up to its first definition. -/
def opening (texts : SectionTexts) : String :=
  texts.head ++ texts.layout ++ "  <QueryDefinitions>\n"

/-- The document from behind its last definition on. -/
def closing (texts : SectionTexts) : String := "  </QueryDefinitions>\n" ++ texts.tail

theorem document_eq_definitions {texts : SectionTexts} {definitions : String}
    (shape : texts.queries =
      "  <QueryDefinitions>\n" ++ definitions ++ "  </QueryDefinitions>\n") :
    texts.document = texts.opening ++ definitions ++ texts.closing := by
  rw [document_eq, shape]
  unfold opening closing
  simp only [String.append_assoc]

variable (options : Options) (report : Report) {parts : OrderedMap Part}

/-- A document with queries is their definitions between an opening and a closing. -/
theorem markup_outputOf_definitions (present : parts.entries ≠ []) :
    (Compile.outputOf options report parts).markup =
      (ofCompiled options report (Compile.outputOf options report parts)).opening ++
        definitionTexts parts.entries ++
        (ofCompiled options report (Compile.outputOf options report parts)).closing := by
  rw [markup_outputOf]
  exact document_eq_definitions (sectionText_queries present)

/-- Neither of the two depends on the queries behind the first. -/
theorem ofCompiled_withQuery (name : String) (raw : Value) {parts' : OrderedMap Part}
    (first : parts'.first? = parts.first?) :
    let texts := ofCompiled options report (Compile.outputOf options report parts)
    let texts' := ofCompiled options (report.withQuery name raw)
      (Compile.outputOf options (report.withQuery name raw) parts')
    texts'.opening = texts.opening ∧ texts'.closing = texts.closing := by
  intro texts texts'
  have columns := Report.columnExpressions_withQuery report name raw
  have fields : Layout.fields options.sortSuffix parts'
      (report.withQuery name raw).columnExpressions =
        Layout.fields options.sortSuffix parts report.columnExpressions := by
    rw [Layout.fields, Layout.fields, first, columns]
  have expressions : texts'.expressions = texts.expressions :=
    congrArg (fun map => sectionText (Sections.columnExpressions map)) columns
  have layout : texts'.layout = texts.layout :=
    congrArg (fun shown => sectionText (Sections.layout shown)) fields
  have substitutions : texts'.substitutions = texts.substitutions := rfl
  unfold opening closing head tail
  rw [expressions, layout, substitutions]
  exact ⟨rfl, rfl⟩

/-- The document with one part more, or with another one in the place of a part. -/
theorem compile_withQuery {options : Options} {report : Report}
    (normalized : List.Forall₂ (Normalizes options.positional) report.queries.entries
      parts.entries)
    {name : String} {raw : Value} {part : Part}
    (made : (normalize options.positional name raw).result = .ok part)
    {entry : String × Part} (first : parts.first? = some entry) (behind : entry.1 ≠ name) :
    ∃ output, (compile options (report.withQuery name raw)).result = .ok output ∧
      let texts := ofCompiled options report (Compile.outputOf options report parts)
      output.markup = texts.opening ++ definitionTexts (Assoc.put name part parts.entries) ++
        texts.closing := by
  have normalized' : List.Forall₂ (Normalizes options.positional)
      (report.withQuery name raw).queries.entries (parts.insert name part).entries := by
    rw [Report.queries_withQuery]
    exact normalizes_put normalized made
  -- The first part stays, since it has another name; so the layout does too.
  have same : (parts.insert name part).first? = parts.first? := by
    unfold OrderedMap.first? OrderedMap.insert at *
    obtain ⟨rest, shape⟩ : ∃ rest, parts.entries = entry :: rest := by
      cases shape : parts.entries with
      | nil => simp [shape] at first
      | cons head rest => simp_all
    simp only [shape, Assoc.put, if_neg behind, List.head?_cons]
  have present : (parts.insert name part).entries ≠ [] := by
    intro empty
    rw [OrderedMap.first?, empty, first] at same
    cases same
  obtain ⟨opened, closed⟩ := ofCompiled_withQuery options report name raw same
  refine ⟨_, Compile.compiled_iff.2 ⟨_, normalized', rfl⟩, ?_⟩
  rw [markup_outputOf_definitions _ _ present, opened, closed]
  rfl

end SectionTexts

/-- Another raw part for a query behind the first one, if it is read at all, replaces the lines
of that query's definition; and a query of a new name adds those of its own behind the last
definition. All other text stays where it is. -/
theorem markup_withQuery {options : Options} {report : Report} {output : Compile.Output}
    (compiled : (compile options report).result = .ok output) :
    let texts := SectionTexts.ofCompiled options report output
    (∀ {front back : List (String × Value)} {name : String} {raw : Value},
      report.queries.entries = front ++ (name, raw) :: back → front ≠ [] →
        ∃ before part after, output.queries.entries = before ++ (name, part) :: after ∧
          before.length = front.length ∧
          (normalize options.positional name raw).result = .ok part ∧
          output.markup = (texts.opening ++ definitionTexts before) ++ definitionText name part ++
            (definitionTexts after ++ texts.closing) ∧
          ∀ {raw' : Value} {part' : Part},
            (normalize options.positional name raw').result = .ok part' →
              ∃ output', (compile options (report.withQuery name raw')).result = .ok output' ∧
                output'.markup =
                  (texts.opening ++ definitionTexts before) ++ definitionText name part' ++
                    (definitionTexts after ++ texts.closing)) ∧
    ∀ {name : String} {raw : Value} {part : Part}, report.queries.entries ≠ [] →
      name ∉ report.queries.keys → (normalize options.positional name raw).result = .ok part →
        ∃ output', (compile options (report.withQuery name raw)).result = .ok output' ∧
          output.markup =
            (texts.opening ++ definitionTexts output.queries.entries) ++ texts.closing ∧
          output'.markup = (texts.opening ++ definitionTexts output.queries.entries) ++
            definitionText name part ++ texts.closing := by
  obtain ⟨parts, normalized, rfl⟩ := Compile.compiled_iff.1 compiled
  intro texts
  have written (present : parts.entries ≠ []) :=
    SectionTexts.markup_outputOf_definitions options report present
  constructor
  · intro front back name raw shape behind
    obtain ⟨before, part, after, made, long, read⟩ :=
      exists_of_normalizes_append (shape ▸ normalized)
    have nonempty : before ≠ [] := by
      rintro rfl
      exact behind (List.length_eq_zero_iff.1 long.symm)
    obtain ⟨entry, first, other⟩ := OrderedMap.exists_first_of_behind made nonempty
    refine ⟨before, part, after, made, long, read, ?_, ?_⟩
    · rw [written (by simp [made]), made]
      exact definitionTexts_frame ..
    · intro raw' part' read'
      have distinct := parts.distinct
      rw [made] at distinct
      obtain ⟨output', compiled', markup⟩ :=
        SectionTexts.compile_withQuery normalized read' first other
      rw [made, Assoc.put_append_cons distinct] at markup
      exact ⟨output', compiled', markup.trans (definitionTexts_frame ..)⟩
  · intro name raw part present absent read
    have names : parts.keys = report.queries.keys := keys_eq_of_forall₂ normalized
    rw [← names] at absent
    have nonempty : parts.entries ≠ [] := by
      intro empty
      rw [empty] at normalized
      exact present (List.forall₂_nil_right_iff.1 normalized)
    obtain ⟨entry, first, other⟩ := OrderedMap.exists_first_of_absent nonempty absent
    obtain ⟨output', compiled', markup⟩ :=
      SectionTexts.compile_withQuery normalized read first other
    rw [Assoc.put_of_not_mem absent, definitionTexts_append, definitionTexts_singleton] at markup
    refine ⟨output', compiled', written nonempty, ?_⟩
    rw [markup]
    simp only [String.append_assoc]
    rfl

/-- A report with a query behind the first one that looks like the end of the definitions. -/
def blockReport : Report where
  server := some {
    columnExpressions := .ofList [("Total", "1")]
    queries := .ofList [
      ("first", .array [.null, .array [.string "a=b"]]),
      ("</QueryDefinitions>", .object [("filter", .string "  </QueryDefinitions>\n")]),
      ("third", .object [])] }

theorem markup_withQuery_blockReport :
    ∃ output replaced extended, (compile {} blockReport).result = .ok output ∧
      (compile {} (blockReport.withQuery "</QueryDefinitions>" (.array []))).result =
        .ok replaced ∧
      (compile {} (blockReport.withQuery "fourth" (.array []))).result = .ok extended ∧
      (∃ before part after,
        output.markup = before ++ definitionText "</QueryDefinitions>" part ++ after ∧
          replaced.markup = before ++ definitionText "</QueryDefinitions>" {} ++ after) ∧
      ∃ before after, output.markup = before ++ after ∧
        extended.markup = before ++ definitionText "fourth" {} ++ after := by
  obtain ⟨output, compiled⟩ : ∃ output, (compile {} blockReport).result = .ok output := ⟨_, rfl⟩
  obtain ⟨replace, extend⟩ := markup_withQuery compiled
  have empty (name : String) : (normalize .lenient name (.array [])).result = .ok {} := rfl
  have shape : blockReport.queries.entries =
      [("first", .array [.null, .array [.string "a=b"]])] ++
        ("</QueryDefinitions>", .object [("filter", .string "  </QueryDefinitions>\n")]) ::
          [("third", .object [])] := rfl
  obtain ⟨before, part, after, -, -, -, markup, others⟩ := replace shape (by simp)
  obtain ⟨replaced, compiledReplaced, markupReplaced⟩ := others (empty _)
  obtain ⟨extended, compiledExtended, markupOutput, markupExtended⟩ :=
    extend (by simp [shape]) (by decide) (empty "fourth")
  exact ⟨output, replaced, extended, compiled, compiledReplaced, compiledExtended,
    ⟨_, part, _, markup, markupReplaced⟩, _, _, markupOutput, markupExtended⟩

end QueryGroup
