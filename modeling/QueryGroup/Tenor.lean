import QueryGroup.Text.Substitute
set_option autoImplicit false

/- Tenor expressions. The engine's `DateToTenor` wants a date, but the report date is a
text, so key expressions that pass it bare have it wrapped in a cast. -/
namespace QueryGroup.Tenor

open Text

/-- The report date passed bare. -/
def bareCall : List Char := "DateToTenor(REPORT_DATE".toList

/-- The report date passed through the cast. -/
def castCall : List Char := "DateToTenor(date(REPORT_DATE)".toList

def isSettled (expression : String) : Bool := !occurs bareCall expression.toList

/-- Wraps the report date in a cast wherever `DateToTenor` takes it bare. -/
def castReportDate (expression : String) : String :=
  .ofList (substitute bareCall castCall expression.toList)

theorem castReportDate_of_isSettled {expression : String}
    (settled : isSettled expression = true) : castReportDate expression = expression := by
  simp only [isSettled, Bool.not_eq_eq_eq_not, Bool.not_true] at settled
  rw [castReportDate, substitute_of_not_occurs settled, String.ofList_toList]

end QueryGroup.Tenor
