set_option autoImplicit false

namespace QueryGroup.Text

def lowerChars (text : List Char) : List Char := text.map Char.toLower

/-- The two texts differ at most in the case of ASCII letters. -/
def sameLetters (a b : String) : Bool := lowerChars a.toList == lowerChars b.toList

@[simp] theorem sameLetters_iff (a b : String) :
    sameLetters a b = true ↔ lowerChars a.toList = lowerChars b.toList := by
  simp [sameLetters]

end QueryGroup.Text
