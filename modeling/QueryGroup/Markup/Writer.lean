set_option autoImplicit false

namespace QueryGroup.Markup

structure Writer where
  buffer : String := ""
  depth : Nat := 0
deriving DecidableEq, Repr, Inhabited

def indentation (depth : Nat) : String := .ofList (List.replicate (2 * depth) ' ')

namespace Writer

def indent (writer : Writer) : Writer := { writer with depth := writer.depth + 1 }

/-- One level less; at the outermost level nothing changes. -/
def dedent (writer : Writer) : Writer := { writer with depth := writer.depth - 1 }

def line (writer : Writer) (text : String) : Writer :=
  { writer with buffer := writer.buffer ++ indentation writer.depth ++ text ++ "\n" }

/-- One call on a writer. -/
inductive Step where
  | indent
  | dedent
  | line (text : String)
deriving DecidableEq, Repr

def step (writer : Writer) : Step → Writer
  | .indent => writer.indent
  | .dedent => writer.dedent
  | .line text => writer.line text

def run (writer : Writer) (steps : List Step) : Writer := steps.foldl step writer

@[simp] theorem depth_indent (writer : Writer) : writer.indent.depth = writer.depth + 1 := rfl

@[simp] theorem depth_dedent (writer : Writer) : writer.dedent.depth = writer.depth - 1 := rfl

@[simp] theorem depth_line (writer : Writer) (text : String) :
    (writer.line text).depth = writer.depth := rfl

@[simp] theorem buffer_indent (writer : Writer) : writer.indent.buffer = writer.buffer := rfl

@[simp] theorem buffer_dedent (writer : Writer) : writer.dedent.buffer = writer.buffer := rfl

@[simp] theorem buffer_line (writer : Writer) (text : String) :
    (writer.line text).buffer =
      writer.buffer ++ indentation writer.depth ++ text ++ "\n" := rfl

@[simp] theorem run_nil (writer : Writer) : writer.run [] = writer := rfl

@[simp] theorem run_cons (writer : Writer) (first : Step) (rest : List Step) :
    writer.run (first :: rest) = (writer.step first).run rest := rfl

theorem run_append (writer : Writer) (front back : List Step) :
    writer.run (front ++ back) = (writer.run front).run back :=
  List.foldl_append

end Writer

end QueryGroup.Markup
