import QueryGroup.Pattern.Meaning
import QueryGroup.Pattern.Reader
import QueryGroup.Pattern.Weight
set_option autoImplicit false

/- Patterns from text, as far as the limits on them allow. A fault in the text comes before
one in how its parts are nested, that before one in what they mean, and that before one in
the pattern as a whole. -/
namespace QueryGroup.Pattern

def isForeignEdge : Pattern → Bool
  | look (.word _ ascii) => !ascii
  | _ => false

/-- The machine for reading backward is built only if the one for reading forward can tell
the edges of words, and none for a pattern that is searched for by its texts. -/
def checked (pattern : Pattern) : Except Fault Pattern :=
  if pattern.isSearchedByTexts then .ok pattern
  else if greatestWeight < pattern.machineWeight .forward then .error .size
  else if pattern.hasPart isForeignEdge then .error .wordEdges
  else if greatestWeight < pattern.machineWeight .backward then .error .size
  else .ok pattern

def ofText (text : String) : Except Fault Pattern := do
  let expression ← Expression.ofText text
  if let some span := expression.tooDeep? greatestDepth then blame .tooDeep span
  checked (← expression.meaning)

end QueryGroup.Pattern
