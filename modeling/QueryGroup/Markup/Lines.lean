import QueryGroup.Markup.Element
set_option autoImplicit false

namespace QueryGroup.Markup

structure Line where
  level : Nat
  text : String
deriving DecidableEq, Repr

namespace Element

mutual

/-- The lines of an element whose tags stand at a level. -/
def lines (level : Nat) : Element → List Line
  | .node name attributes .empty => [⟨level, openTag name attributes ++ " />"⟩]
  | .node name attributes (.text text) =>
      [⟨level, openTag name attributes ++ ">" ++ escape text ++ "</" ++ name ++ ">"⟩]
  | .node name attributes (.elements children) =>
      ⟨level, openTag name attributes ++ ">"⟩ :: linesAll (level + 1) children ++
        [⟨level, "</" ++ name ++ ">"⟩]

def linesAll (level : Nat) : List Element → List Line
  | [] => []
  | element :: rest => lines level element ++ linesAll level rest

end

end Element

def Line.written (line : Line) : String := indentation line.level ++ line.text ++ "\n"

def writtenLines (lines : List Line) : String := String.join (lines.map Line.written)

end QueryGroup.Markup
