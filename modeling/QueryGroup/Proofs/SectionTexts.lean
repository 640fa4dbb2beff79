import QueryGroup.Proofs.Document
set_option autoImplicit false

namespace QueryGroup

open Markup Query

/-- The lines of a section inside a document. -/
def sectionText (element : Element) : String := writtenLines (element.lines 1)

/-- The texts of a document's sections. A section that is left out has no text. -/
@[ext]
structure SectionTexts where
  expressions : String
  layout : String
  queries : String
  substitutions : String

namespace SectionTexts

def ofCompiled (options : Options) (report : Report) (output : Compile.Output) :
    SectionTexts where
  expressions := sectionText (Sections.columnExpressions report.columnExpressions)
  layout := sectionText (Sections.layout output.layout)
  queries := sectionText (Sections.queries output.queries)
  substitutions :=
    (Sections.substitutions? options.substitutions report.substitutions).elim "" sectionText

/-- The document with the sections in their places. -/
def document (texts : SectionTexts) : String :=
  Emitted.declarationLine ++
    "<QueryGroupDefinition ServerSideAggregation=\"true\" EfficientQueries=\"false\"" ++
      " GridType=\"PivotGrid\">\n" ++
    texts.expressions ++ texts.layout ++ texts.queries ++ texts.substitutions ++
    "</QueryGroupDefinition>\n"

theorem writtenLines_linesAll_option (last : Option Element) :
    writtenLines (Element.linesAll 1 last.toList) = last.elim "" sectionText := by
  cases last with
  | none => rfl
  | some element => simp [Element.linesAll, sectionText]

theorem rootLine_written :
    (Line.written ⟨0, Element.openTag "QueryGroupDefinition"
      [("ServerSideAggregation", "true"), ("EfficientQueries", "false"),
        ("GridType", "PivotGrid")] ++ ">"⟩) =
      "<QueryGroupDefinition ServerSideAggregation=\"true\" EfficientQueries=\"false\"" ++
        " GridType=\"PivotGrid\">\n" := by
  decide

/-- A document is its sections in their places. -/
theorem markup_outputOf (options : Options) (report : Report) (parts : OrderedMap Part) :
    (Compile.outputOf options report parts).markup =
      (ofCompiled options report (Compile.outputOf options report parts)).document := by
  have rendered : (Compile.outputOf options report parts).markup = _ := Compile.render_eq _
  rw [rendered, Compile.document_eq, Element.lines]
  simp only [writtenLines_append, List.cons_append, writtenLines_cons, writtenLines_nil,
    Nat.zero_add, Element.linesAll, writtenLines_linesAll_option, rootLine_written,
    String.append_assoc, String.append_empty]
  simp only [document, ofCompiled, String.append_assoc]
  rfl

/-- The document up to its layout. -/
def head (texts : SectionTexts) : String :=
  Emitted.declarationLine ++
    "<QueryGroupDefinition ServerSideAggregation=\"true\" EfficientQueries=\"false\"" ++
      " GridType=\"PivotGrid\">\n" ++
    texts.expressions

/-- The document from behind its queries on. -/
def tail (texts : SectionTexts) : String := texts.substitutions ++ "</QueryGroupDefinition>\n"

theorem document_eq (texts : SectionTexts) :
    texts.document = texts.head ++ texts.layout ++ (texts.queries ++ texts.tail) := by
  unfold document head tail
  simp only [String.append_assoc]

end SectionTexts

end QueryGroup
