import QueryGroup.Markup.Escape
import QueryGroup.Markup.Writer
set_option autoImplicit false

namespace QueryGroup.Markup

inductive Content (α : Type) where
  | empty
  | text (text : String)
  | elements (children : List α)
deriving Repr, Inhabited

inductive Element where
  | node (name : String) (attributes : List (String × String)) (content : Content Element)
deriving Repr

namespace Element

def name : Element → String
  | .node name _ _ => name

def attributes : Element → List (String × String)
  | .node _ attributes _ => attributes

def content : Element → Content Element
  | .node _ _ content => content

/-- An element with nothing in it. -/
def named (name : String) : Element := .node name [] .empty

instance : Inhabited Element := ⟨named ""⟩

def withAttribute : Element → String → String → Element
  | .node name attributes content, key, value =>
      .node name (attributes ++ [(key, value)]) content

def text : Element → String → Element
  | .node name attributes _, text => .node name attributes (.text text)

/-- Adds a child behind the others; an earlier text is dropped. -/
def child : Element → Element → Element
  | .node name attributes (.elements children), last =>
      .node name attributes (.elements (children ++ [last]))
  | .node name attributes _, only => .node name attributes (.elements [only])

/-- Adds children in order. No children leave the element as it is. -/
def children (element : Element) (added : List Element) : Element := added.foldl child element

/-- One call on an element under construction. -/
inductive Step where
  | withAttribute (key value : String)
  | text (text : String)
  | child (last : Element)
  | children (added : List Element)

def step (element : Element) : Step → Element
  | .withAttribute key value => element.withAttribute key value
  | .text text => element.text text
  | .child last => element.child last
  | .children added => element.children added

/-- The element that the calls make, one after another, of an element with nothing in it. -/
def build (name : String) (steps : List Step) : Element := steps.foldl step (named name)

@[simp] theorem build_nil (name : String) : build name [] = named name := rfl

theorem build_append_singleton (name : String) (steps : List Step) (last : Step) :
    build name (steps ++ [last]) = (build name steps).step last := by
  simp [build]

def attributeText (pair : String × String) : String :=
  " " ++ pair.1 ++ "=\"" ++ escape pair.2 ++ "\""

def openTag (name : String) (attributes : List (String × String)) : String :=
  attributes.foldl (fun tag pair => tag ++ attributeText pair) ("<" ++ name)

mutual

/-- Writes the element at the writer's depth. An element without content closes itself, a
text stands on one line with its tags, and children stand one level deeper. -/
def write : Element → Writer → Writer
  | .node name attributes .empty, writer => writer.line (openTag name attributes ++ " />")
  | .node name attributes (.text text), writer =>
      writer.line (openTag name attributes ++ ">" ++ escape text ++ "</" ++ name ++ ">")
  | .node name attributes (.elements children), writer =>
      (writeAll children (writer.line (openTag name attributes ++ ">")).indent).dedent.line
        ("</" ++ name ++ ">")

def writeAll : List Element → Writer → Writer
  | [], writer => writer
  | element :: rest, writer => writeAll rest (element.write writer)

end

def markup (element : Element) : String := (element.write {}).buffer

mutual

@[simp] theorem depth_write (element : Element) (writer : Writer) :
    (element.write writer).depth = writer.depth := by
  rcases element with ⟨name, attributes, _ | _ | children⟩
  · rfl
  · rfl
  · simp [write, depth_writeAll children]

@[simp] theorem depth_writeAll (elements : List Element) (writer : Writer) :
    (writeAll elements writer).depth = writer.depth := by
  cases elements with
  | nil => rfl
  | cons element rest => simp [writeAll, depth_write element, depth_writeAll rest]

end

end Element

end QueryGroup.Markup
