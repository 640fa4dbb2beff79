import QueryGroup.Markup.Element
import QueryGroup.Markup.Token
set_option autoImplicit false

namespace QueryGroup.Markup

structure Opened where
  name : String
  attributes : List (String × String)
  /-- The text since the last tag. -/
  text : String := ""
  children : List Element := []

structure ReaderState where
  opened : List Opened := []
  root : Option Element := none

namespace Opened

def element (opened : Opened) : Element :=
  .node opened.name opened.attributes
    (if opened.children.isEmpty then .text opened.text else .elements opened.children)

def addChild (opened : Opened) (child : Element) : Opened :=
  { opened with text := "", children := opened.children ++ [child] }

end Opened

namespace ReaderState

/-- Blanks and line feeds, as indentation has them. -/
def isIndentation (text : String) : Bool := text.toList.all fun c => c == ' ' || c == '\n'

/-- Nothing but indentation was met since the last tag. -/
def atTag (state : ReaderState) : Bool :=
  match state.opened with
  | [] => state.root.isNone
  | innermost :: _ => isIndentation innermost.text

/-- A whole element was read: it is a child of the innermost open one, or the root. -/
def deliver (element : Element) (state : ReaderState) : ReaderState :=
  match state.opened with
  | [] => { state with root := some element }
  | innermost :: outer => { state with opened := innermost.addChild element :: outer }

def decodeText? (raw : List Char) : Option String := (decode? raw).map String.ofList

def decodeAttributes? (attributes : List RawAttribute) : Option (List (String × String)) :=
  attributes.mapM fun pair =>
    (decodeText? pair.2).map fun value => (String.ofList pair.1, value)

/-- Takes a text. Behind a child, and outside the root, only indentation may stand. -/
def takeText? (text : String) (state : ReaderState) : Option ReaderState :=
  match state.opened with
  | [] => if isIndentation text then some state else none
  | innermost :: outer =>
      if innermost.children.isEmpty || isIndentation text then
        some { state with opened := { innermost with text := text } :: outer }
      else none

def step? (state : ReaderState) : Token → Option ReaderState
  | .text raw => (decodeText? raw).bind fun text => state.takeText? text
  | .opening name raw =>
      if state.atTag then
        (decodeAttributes? raw).map fun attributes =>
          { state with opened := { name := .ofList name, attributes } :: state.opened }
      else none
  | .single name raw =>
      if state.atTag then
        (decodeAttributes? raw).map fun attributes =>
          state.deliver (.node (.ofList name) attributes .empty)
      else none
  | .closing name =>
      match state.opened with
      | innermost :: outer =>
          if innermost.name.toList = name then
            some (deliver innermost.element { state with opened := outer })
          else none
      | [] => none

end ReaderState

def Element.ofTokens? (tokens : List Token) : Option Element :=
  match tokens.foldlM ReaderState.step? ({} : ReaderState) with
  | some ⟨[], root⟩ => root
  | _ => none

def Element.ofMarkup? (text : String) : Option Element :=
  (Token.scan? text.toList).bind Element.ofTokens?

end QueryGroup.Markup
