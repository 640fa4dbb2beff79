set_option autoImplicit false

/- Literal substitution. A text is read from the left; wherever the pattern starts, the
replacement is written and the whole pattern is passed over, so that the occurrences
replaced never overlap and a replacement is not read again. -/
namespace QueryGroup.Text

def occurs (pattern : List Char) : List Char → Bool
  | [] => pattern.isEmpty
  | c :: rest => pattern.isPrefixOf (c :: rest) || occurs pattern rest

/-- Substitution that first passes over `skip` characters, the rest of an occurrence
already replaced. -/
def substituteFrom (pattern replacement : List Char) : Nat → List Char → List Char
  | _, [] => []
  | skip + 1, _ :: rest => substituteFrom pattern replacement skip rest
  | 0, c :: rest =>
      if pattern.isPrefixOf (c :: rest) then
        replacement ++ substituteFrom pattern replacement (pattern.length - 1) rest
      else
        c :: substituteFrom pattern replacement 0 rest

/-- Replaces every occurrence of a nonempty pattern; the empty pattern replaces nothing. -/
def substitute (pattern replacement text : List Char) : List Char :=
  if pattern.isEmpty then text else substituteFrom pattern replacement 0 text

theorem substituteFrom_of_not_occurs {pattern replacement text : List Char}
    (absent : occurs pattern text = false) :
    substituteFrom pattern replacement 0 text = text := by
  induction text with
  | nil => rfl
  | cons c rest ih =>
    simp only [occurs, Bool.or_eq_false_iff] at absent
    simp [substituteFrom, absent.1, ih absent.2]

theorem substitute_of_not_occurs {pattern replacement text : List Char}
    (absent : occurs pattern text = false) :
    substitute pattern replacement text = text := by
  simp [substitute, substituteFrom_of_not_occurs absent]

end QueryGroup.Text
