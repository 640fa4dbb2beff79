import QueryGroup.Markup.Lines
import QueryGroup.Proofs.Escaping
import QueryGroup.Proofs.Scanning
set_option autoImplicit false

namespace QueryGroup.Markup

@[simp] theorem toList_indentation (level : Nat) :
    (indentation level).toList = List.replicate (2 * level) ' ' := by
  simp only [indentation, String.toList_ofList]

theorem writtenLines_cons (line : Line) (rest : List Line) :
    writtenLines (line :: rest) = line.written ++ writtenLines rest := by
  simp only [writtenLines, List.map_cons, String.join_cons]

theorem writtenLines_append (front back : List Line) :
    writtenLines (front ++ back) = writtenLines front ++ writtenLines back := by
  simp only [writtenLines, List.map_append, String.join_append]

@[simp] theorem writtenLines_nil : writtenLines [] = "" := rfl

@[simp] theorem writtenLines_singleton (line : Line) : writtenLines [line] = line.written := by
  rw [writtenLines_cons, writtenLines_nil, String.append_empty]

theorem Line.toList_written (line : Line) :
    line.written.toList = List.replicate (2 * line.level) ' ' ++ line.text.toList ++ ['\n'] := by
  simp [written]

theorem Writer.line_eq (writer : Writer) (text : String) :
    writer.line text =
      { writer with buffer := writer.buffer ++ writtenLines [⟨writer.depth, text⟩] } := by
  simp [line, Line.written, String.append_assoc]

namespace Element

/-- What holds of a node as soon as it holds of its children holds of every element. -/
@[elab_as_elim, induction_eliminator]
theorem inductOn {motive : Element → Prop}
    (empty : ∀ name attributes, motive (.node name attributes .empty))
    (text : ∀ name attributes text, motive (.node name attributes (.text text)))
    (elements : ∀ name attributes children, (∀ child ∈ children, motive child) →
      motive (.node name attributes (.elements children))) (element : Element) :
    motive element :=
  match element with
  | .node name attributes .empty => empty name attributes
  | .node name attributes (.text content) => text name attributes content
  | .node name attributes (.elements children) =>
      elements name attributes children fun child _ => inductOn empty text elements child

theorem writeAll_eq {children : List Element}
    (each : ∀ child ∈ children, ∀ writer : Writer, child.write writer =
      { writer with buffer := writer.buffer ++ writtenLines (child.lines writer.depth) })
    (writer : Writer) :
    writeAll children writer =
      { writer with buffer := writer.buffer ++ writtenLines (linesAll writer.depth children) } := by
  induction children generalizing writer with
  | nil => simp [writeAll, linesAll]
  | cons child rest ih =>
      rw [writeAll, each child (by simp),
        ih fun other member => each other (List.mem_cons_of_mem _ member)]
      simp only [linesAll, writtenLines_append, String.append_assoc]

/-- Writing appends the element's lines and leaves the depth as it was. -/
theorem write_eq (element : Element) (writer : Writer) :
    element.write writer =
      { writer with buffer := writer.buffer ++ writtenLines (element.lines writer.depth) } := by
  induction element generalizing writer with
  | empty name attributes => rw [write, Writer.line_eq, lines]
  | text name attributes text => rw [write, Writer.line_eq, lines]
  | elements name attributes children ih =>
      rw [write, writeAll_eq ih, Writer.line_eq, Writer.line_eq, lines]
      simp only [Writer.indent, Writer.dedent, Nat.add_sub_cancel, writtenLines_append,
        List.cons_append, writtenLines_cons, String.append_assoc, writtenLines_nil,
        String.append_empty]

/-- Names as they are and values escaped, as a tag has them. -/
def rawAttributes (attributes : List (String × String)) : List RawAttribute :=
  attributes.map fun pair => (pair.1.toList, escapeChars pair.2.toList)

/-- The line feed behind a tag and the indentation of the line after it. -/
def gap (level : Nat) : List Char := '\n' :: List.replicate (2 * level) ' '

theorem mem_gap {level : Nat} {c : Char} (inside : c ∈ gap level) : c = '\n' ∨ c = ' ' := by
  rcases List.mem_cons.1 inside with feed | blank
  · exact .inl feed
  · exact .inr (List.eq_of_mem_replicate blank)

theorem escapeChars_gap (level : Nat) : escapeChars (gap level) = gap level := by
  apply escapeChars_of_plain
  intro c inside
  rcases mem_gap inside with rfl | rfl <;> rfl

/-- The token between two tags; where nothing stands there is none. -/
def textTokens : List Char → List Token
  | [] => []
  | raw => [.text raw]

mutual

/-- The tokens of an element whose tags stand at a level. -/
def tokens (level : Nat) : Element → List Token
  | .node name attributes .empty => [.single name.toList (rawAttributes attributes)]
  | .node name attributes (.text text) =>
      .opening name.toList (rawAttributes attributes) ::
        (textTokens (escapeChars text.toList) ++ [.closing name.toList])
  | .node name attributes (.elements children) =>
      .opening name.toList (rawAttributes attributes) ::
        (childTokens level children ++ [.closing name.toList])

/-- Every child on a line of its own, up to the closing tag's line. -/
def childTokens (level : Nat) : List Element → List Token
  | [] => [.text (gap level)]
  | child :: rest => .text (gap (level + 1)) :: tokens (level + 1) child ++ childTokens level rest

end

theorem toList_openTag (name : String) (attributes : List (String × String)) :
    (openTag name attributes).toList =
      '<' :: name.toList ++ (rawAttributes attributes).flatMap Token.attributeWritten := by
  have onward (front : String) :
      (attributes.foldl (fun tag pair => tag ++ attributeText pair) front).toList =
        front.toList ++ (rawAttributes attributes).flatMap Token.attributeWritten := by
    induction attributes generalizing front with
    | nil => simp [rawAttributes]
    | cons pair rest ih =>
        rw [List.foldl_cons, ih]
        simp [rawAttributes, attributeText, Token.attributeWritten]
  rw [openTag, onward]
  simp

theorem flatMap_written_textTokens (raw : List Char) :
    (textTokens raw).flatMap Token.written = raw := by
  cases raw <;> simp [textTokens, Token.written]

theorem flatMap_written_childTokens {level : Nat} {children : List Element}
    (each : ∀ child ∈ children, (writtenLines (child.lines (level + 1))).toList =
      List.replicate (2 * (level + 1)) ' ' ++
        (child.tokens (level + 1)).flatMap Token.written ++ ['\n']) :
    (childTokens level children).flatMap Token.written =
      '\n' :: (writtenLines (linesAll (level + 1) children)).toList ++
        List.replicate (2 * level) ' ' := by
  induction children with
  | nil => simp [childTokens, linesAll, Token.written, gap]
  | cons child rest ih =>
      have later := ih fun other member => each other (List.mem_cons_of_mem _ member)
      simp only [childTokens, linesAll, List.flatMap_append, List.flatMap_cons, later,
        writtenLines_append, String.toList_append, each child (by simp)]
      simp [Token.written, gap]

/-- The lines of an element are its tokens, between its indentation and a line feed. -/
theorem toList_writtenLines_lines (element : Element) (level : Nat) :
    (writtenLines (element.lines level)).toList =
      List.replicate (2 * level) ' ' ++ (element.tokens level).flatMap Token.written ++
        ['\n'] := by
  induction element generalizing level with
  | empty name attributes =>
      rw [lines, writtenLines_singleton, Line.toList_written, String.toList_append,
        toList_openTag]
      simp [tokens, Token.written]
  | text name attributes text =>
      rw [lines, writtenLines_singleton, Line.toList_written]
      simp only [String.toList_append, toList_openTag, toList_escape, tokens,
        List.flatMap_cons, List.flatMap_append, flatMap_written_textTokens]
      simp [Token.written]
  | elements name attributes children ih =>
      have inner : (childTokens level children).flatMap Token.written =
          '\n' :: (writtenLines (linesAll (level + 1) children)).toList ++
            List.replicate (2 * level) ' ' :=
        flatMap_written_childTokens fun child member => ih child member (level + 1)
      simp only [lines, writtenLines_append, List.cons_append, writtenLines_cons,
        writtenLines_nil, String.append_empty, String.toList_append, Line.toList_written,
        toList_openTag, tokens, List.flatMap_cons, List.flatMap_append, inner]
      simp [Token.written]

/-- At the outermost level the last line feed is a token too. -/
theorem toList_writtenLines_root (element : Element) :
    (writtenLines (element.lines 0)).toList =
      (element.tokens 0 ++ [Token.text (gap 0)]).flatMap Token.written := by
  rw [toList_writtenLines_lines]
  simp [gap, Token.written]

end Element

end QueryGroup.Markup
