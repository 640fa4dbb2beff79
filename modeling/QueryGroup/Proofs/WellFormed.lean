import QueryGroup.Proofs.Document
import QueryGroup.Proofs.ElementTokens
set_option autoImplicit false

namespace QueryGroup

open Markup

/-- The tokens of one element, with a line feed behind it. -/
def framed (name : String) (attributes : List RawAttribute) (inner : List Token) : List Token :=
  .opening name.toList attributes :: (inner ++ [.closing name.toList, .text ['\n']])

theorem tokens_eq_framed (name : String) (attributes : List (String × String))
    (children : List Element) :
    (Element.node name attributes (.elements children)).tokens 0 ++ [.text (Element.gap 0)] =
      framed name (Element.rawAttributes attributes) (Element.childTokens 0 children) := by
  simp [Element.tokens, framed, Element.gap]

theorem framed_writtenLines {name : String} {attributes : List (String × String)}
    {children : List Element} (readable : (Element.node name attributes (.elements children)).Readable) :
    let body := writtenLines ((Element.node name attributes (.elements children)).lines 0)
    let tokens := framed name (Element.rawAttributes attributes) (Element.childTokens 0 children)
    Token.scan? body.toList = some tokens ∧ body.toList = tokens.flatMap Token.written ∧
      isWellFormed name body = true := by
  have scanned := Element.scan?_writtenLines readable
  have written := Element.toList_writtenLines_root (.node name attributes (.elements children))
  rw [tokens_eq_framed] at scanned written
  exact ⟨scanned, written, Element.isWellFormed_writtenLines readable⟩

/-- Behind the declaration's line stands one root element and nothing but a line feed. The
tokens are those that scanning gives, and together they are the whole text; what the checker
looks at in them is nested and escaped. -/
theorem markup_wellFormed {options : Options} {report : Report} {output : Compile.Output}
    (compiled : (compile options report).result = .ok output) :
    ∃ (body : String) (attributes : List RawAttribute) (inner : List Token),
      output.markup = "<?xml version=\"1.0\" encoding=\"utf-8\"?>\n" ++ body ∧
      Token.scan? body.toList = some (framed "QueryGroupDefinition" attributes inner) ∧
      body.toList = (framed "QueryGroupDefinition" attributes inner).flatMap Token.written ∧
      isWellFormed "QueryGroupDefinition" body = true := by
  obtain ⟨parts, -, rfl⟩ := Compile.compiled_iff.1 compiled
  have readable := Compile.readable_document options report parts
    (Layout.fields options.sortSuffix parts report.columnExpressions)
  have rendered : (Compile.outputOf options report parts).markup = _ := Compile.render_eq _
  rw [Compile.document_eq] at readable rendered
  exact ⟨_, _, _, rendered, framed_writtenLines readable⟩

theorem markup_wellFormed_hostileReport :
    ∃ output, (compile {} hostileReport).result = .ok output ∧
      ∃ (body : String) (attributes : List RawAttribute) (inner : List Token),
        output.markup = "<?xml version=\"1.0\" encoding=\"utf-8\"?>\n" ++ body ∧
        Token.scan? body.toList = some (framed "QueryGroupDefinition" attributes inner) ∧
        body.toList = (framed "QueryGroupDefinition" attributes inner).flatMap Token.written ∧
        isWellFormed "QueryGroupDefinition" body = true := by
  obtain ⟨output, compiled⟩ : ∃ output, (compile {} hostileReport).result = .ok output :=
    ⟨_, rfl⟩
  exact ⟨output, compiled, markup_wellFormed compiled⟩

end QueryGroup
