import QueryGroup.Markup.Escape
import QueryGroup.Markup.Token
set_option autoImplicit false

namespace QueryGroup.Markup

namespace Token

/-- Everything in the token that is not a name is escaped. -/
def isEscaped : Token → Bool
  | .text raw => Markup.isEscaped raw
  | .opening _ attributes | .single _ attributes =>
      attributes.all fun pair => Markup.isEscaped pair.2
  | .closing _ => true

end Token

/-- The names of the elements still open, innermost first, and the outermost names so far. -/
structure Nesting where
  opened : List (List Char) := []
  roots : List (List Char) := []

namespace Nesting

def enter (nesting : Nesting) (name : List Char) : Nesting :=
  if nesting.opened.isEmpty then { nesting with roots := nesting.roots ++ [name] } else nesting

def step? (nesting : Nesting) : Token → Option Nesting
  | .text _ => some nesting
  | .single name _ => some (nesting.enter name)
  | .opening name _ => some { nesting.enter name with opened := name :: nesting.opened }
  | .closing name =>
      match nesting.opened with
      | innermost :: outer =>
          if innermost = name then some { nesting with opened := outer } else none
      | [] => none

end Nesting

/-- The tokens are properly nested under one outermost element of that name. -/
def isNested (root : List Char) (tokens : List Token) : Bool :=
  match tokens.foldlM Nesting.step? ({} : Nesting) with
  | some nesting => nesting.opened.isEmpty && nesting.roots == [root]
  | none => false

/-- The text is one well-formed element of that name. -/
def isWellFormed (root : String) (text : String) : Bool :=
  match Token.scan? text.toList with
  | some tokens => tokens.all Token.isEscaped && isNested root.toList tokens
  | none => false

end QueryGroup.Markup
