import QueryGroup.Proofs.BuiltTrees
import QueryGroup.Proofs.Document
import QueryGroup.Proofs.Occurrences
set_option autoImplicit false

namespace QueryGroup.Text

variable {pattern replacement : List Char}

/-- Substituting back finds every replacement that was written, and no other. -/
theorem Unbordered.substitute_substitute (whole : Unbordered replacement)
    (nonempty : pattern ≠ []) {text : List Char} (absent : ¬ replacement <:+: text) :
    substitute replacement pattern (substitute pattern replacement text) = text := by
  induction text using substitute_induct nonempty with
  | nil => rw [substitute_nil, substitute_nil]
  | replaced rest ih =>
      have later : ¬ replacement <:+: rest :=
        fun inside => absent (inside.trans (List.suffix_append pattern rest).isInfix)
      rw [substitute_append nonempty, substitute_append whole.nonempty, ih later]
  | kept c rest stays ih =>
      rw [List.infix_cons_iff, not_or] at absent
      -- The character kept starts no replacement, not even one that ends in what was written.
      have seam := not_prefix_substitute nonempty whole.ends whole.nonempty absent.1
      rw [substitute_cons nonempty stays, substitute_cons whole.nonempty seam, ih absent.2]

end QueryGroup.Text

namespace QueryGroup.Tenor

open Markup Text

theorem unbordered_castCall : Unbordered castCall where
  nonempty := by decide
  ends := by decide +kernel

/-- Takes the cast of the report date away wherever `DateToTenor` takes it cast. -/
def uncastReportDate (expression : String) : String :=
  .ofList (substitute castCall bareCall expression.toList)

theorem uncastReportDate_castReportDate {expression : String}
    (uncast : ¬ castCall <:+: expression.toList) :
    uncastReportDate (castReportDate expression) = expression := by
  rw [uncastReportDate, castReportDate, String.toList_ofList,
    unbordered_castCall.substitute_substitute unbordered_bareCall.nonempty uncast,
    String.ofList_toList]

end QueryGroup.Tenor

namespace QueryGroup.Sections

open Markup Query

/-- The line of a key tells its name and the expression it is shown with, at any depth. -/
theorem keyElement_write_inj {writer : Writer} {key other : Aliased}
    (same : ((keyElement key).write writer).buffer = ((keyElement other).write writer).buffer) :
    key.name = other.name ∧
      Tenor.castReportDate key.expression = Tenor.castReportDate other.expression := by
  have outermost : (keyElement key).markup = (keyElement other).markup := by
    simp only [keyElement, Element.named, Element.withAttribute, Element.write, Element.markup,
      Writer.buffer_line, String.append_left_inj, String.append_right_inj] at same ⊢
    exact same
  have read (key : Aliased) : Element.ofMarkup? (keyElement key).markup = some (keyElement key) := by
    rw [Element.markup_eq, Element.ofMarkup?_writtenLines (readable_keyElement key)]
  have elements := read key
  rw [outermost, read other] at elements
  simpa [keyElement, Element.named, Element.withAttribute, eq_comm] using elements

end QueryGroup.Sections

namespace QueryGroup.Tenor

open Markup Text

/-- Taking every cast away gives back an expression that held no cast call, so two such
expressions are cast alike, and are shown alike in keys, only if they are the same. -/
theorem castReportDate_recoverable {expression : String}
    (uncast : ¬ castCall <:+: expression.toList) :
    uncastReportDate (castReportDate expression) = expression ∧
      replacedEach castCall bareCall (castReportDate expression).toList = expression.toList ∧
      ∀ {other : String}, ¬ castCall <:+: other.toList → other ≠ expression →
        castReportDate other ≠ castReportDate expression ∧
          ∀ writer name otherName,
            ((Sections.keyElement ⟨otherName, other⟩).write writer).buffer ≠
              ((Sections.keyElement ⟨name, expression⟩).write writer).buffer := by
  have recovered := uncastReportDate_castReportDate uncast
  have everywhere : replacedEach castCall bareCall (castReportDate expression).toList =
      expression.toList := by
    rw [← unbordered_castCall.substitute_eq]
    exact String.toList_ofList.symm.trans (congrArg String.toList recovered)
  refine ⟨recovered, everywhere, ?_⟩
  intro other otherUncast different
  have apart : castReportDate other ≠ castReportDate expression := by
    intro same
    apply different
    rw [← uncastReportDate_castReportDate otherUncast, same, recovered]
  exact ⟨apart, fun _ _ _ same => apart (Sections.keyElement_write_inj same).2⟩

/-- A call behind one whose cast is still open. -/
def openCast : String := "DateToTenor(date(REPORT_DATEDateToTenor(REPORT_DATE)"

theorem castReportDate_recoverable_openCast :
    ¬ castCall <:+: openCast.toList ∧ ¬ castCall <:+: abuttingCalls.toList ∧
      castReportDate openCast = "DateToTenor(date(REPORT_DATEDateToTenor(date(REPORT_DATE))" ∧
      uncastReportDate (castReportDate openCast) = openCast ∧
      replacedEach castCall bareCall (castReportDate openCast).toList = openCast.toList ∧
      castReportDate abuttingCalls ≠ castReportDate openCast ∧
      ((Sections.keyElement ⟨"Tenor", abuttingCalls⟩).write {}).buffer ≠
        ((Sections.keyElement ⟨"Tenor", openCast⟩).write {}).buffer := by
  have uncast : ¬ castCall <:+: openCast.toList := by decide +kernel
  have otherUncast : ¬ castCall <:+: abuttingCalls.toList := by decide +kernel
  obtain ⟨recovered, everywhere, others⟩ := castReportDate_recoverable uncast
  obtain ⟨apart, shown⟩ := others otherUncast (by decide)
  exact ⟨uncast, otherUncast, by decide +kernel, recovered, everywhere, apart, shown _ _ _⟩

end QueryGroup.Tenor
