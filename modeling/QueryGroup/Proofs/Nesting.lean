import QueryGroup.Proofs.BuiltTrees
set_option autoImplicit false

namespace QueryGroup.Markup

/-- Puts a margin before each line of a text; `fresh` tells whether a line starts here. -/
def marginLines (margin : List Char) : Bool → List Char → List Char
  | _, [] => []
  | true, c :: rest => margin ++ c :: marginLines margin (c == '\n') rest
  | false, c :: rest => c :: marginLines margin (c == '\n') rest

/-- The text with two spaces a level before each of its lines. -/
def indentLines (depth : Nat) (text : String) : String :=
  .ofList (marginLines (List.replicate (2 * depth) ' ') true text.toList)

namespace Line

/-- The same line so many levels deeper. -/
def deeper (depth : Nat) (line : Line) : Line := ⟨depth + line.level, line.text⟩

theorem toList_written_deeper (depth : Nat) (line : Line) :
    (line.deeper depth).written.toList =
      List.replicate (2 * depth) ' ' ++ line.written.toList := by
  simp only [toList_written, deeper, Nat.mul_add, List.replicate_add, List.append_assoc]

end Line

namespace Element

/-- The line that an element's opening tag stands on. -/
def openLine : Element → String
  | .node name attributes .empty => openTag name attributes ++ " />"
  | .node name attributes (.text text) =>
      openTag name attributes ++ ">" ++ escape text ++ "</" ++ name ++ ">"
  | .node name attributes (.elements _) => openTag name attributes ++ ">"

/-- The closing tag's line, where it is not the line of the opening tag. -/
def closeLine? : Element → Option String
  | .node name _ (.elements _) => some ("</" ++ name ++ ">")
  | _ => none

/-- The lines that belong to the element itself. -/
def tagLines (element : Element) : List String := element.openLine :: element.closeLine?.toList

/-- The node stands so many levels below the root. -/
inductive StandsAt (root : Element) : Nat → Element → Prop
  | root : StandsAt root 0 root
  | child {level : Nat} {name : String} {attributes : List (String × String)}
      {children : List Element} {child : Element}
      (parent : StandsAt root level (.node name attributes (.elements children)))
      (member : child ∈ children) : StandsAt root (level + 1) child

/-- Neither a name nor an attribute's value nor a text of the tree holds a line feed. -/
def IsUnbroken (element : Element) : Prop :=
  ∀ level node, element.StandsAt level node →
    '\n' ∉ node.name.toList ∧
    (∀ pair ∈ node.attributes, '\n' ∉ pair.1.toList ∧ '\n' ∉ pair.2.toList) ∧
    ∀ text, node.content = .text text → '\n' ∉ text.toList

theorem linesAll_eq_flatMap (level : Nat) (children : List Element) :
    linesAll level children = children.flatMap (lines level) := by
  induction children with
  | nil => rfl
  | cons child rest ih => rw [linesAll, ih, List.flatMap_cons]

/-- The lines of the nodes below an element. -/
def innerLines (level : Nat) : Element → List Line
  | .node _ _ (.elements children) => linesAll (level + 1) children
  | _ => []

theorem lines_eq (element : Element) (level : Nat) :
    element.lines level = ⟨level, element.openLine⟩ ::
      (element.innerLines level ++ element.closeLine?.toList.map (Line.mk level)) := by
  rcases element with ⟨name, attributes, _ | text | children⟩
  · rfl
  · rfl
  · rfl

/-- Deeper in the page every line is as much deeper. -/
theorem lines_add (element : Element) (depth level : Nat) :
    element.lines (depth + level) = (element.lines level).map (Line.deeper depth) := by
  induction element generalizing level with
  | empty name attributes => rfl
  | text name attributes text => rfl
  | elements name attributes children ih =>
      have below : children.flatMap (lines (depth + level + 1)) =
          (children.flatMap (lines (level + 1))).map (Line.deeper depth) := by
        rw [List.map_flatMap]
        apply List.flatMap_congr
        intro child member
        exact ih child member (level + 1)
      simp only [lines, linesAll_eq_flatMap, below, List.map_append, List.map_cons, List.map_nil,
        Line.deeper]

theorem level_le_of_mem_lines (element : Element) {level : Nat} :
    ∀ line ∈ element.lines level, level ≤ line.level := by
  intro line member
  have shifted := lines_add element level 0
  rw [Nat.add_zero] at shifted
  rw [shifted, List.mem_map] at member
  obtain ⟨unshifted, -, rfl⟩ := member
  exact Nat.le_add_right level unshifted.level

theorem lt_level_of_mem_innerLines (element : Element) {level : Nat} :
    ∀ line ∈ element.innerLines level, level < line.level := by
  rcases element with ⟨name, attributes, _ | text | children⟩
  · simp [innerLines]
  · simp [innerLines]
  · intro line member
    rw [innerLines, linesAll_eq_flatMap, List.mem_flatMap] at member
    obtain ⟨child, -, inChild⟩ := member
    exact level_le_of_mem_lines child line inChild

/-- The lines of a node and of all below it stand together among those of the root. -/
theorem StandsAt.lines_eq {root node : Element} {level : Nat} (stands : root.StandsAt level node) :
    ∃ before after, root.lines 0 = before ++ node.lines level ++ after := by
  induction stands with
  | root => exact ⟨[], [], by simp⟩
  | @child level name attributes children child parent member ih =>
      obtain ⟨before, after, whole⟩ := ih
      obtain ⟨front, back, rfl⟩ := List.append_of_mem member
      refine ⟨before ++ ⟨level, openTag name attributes ++ ">"⟩ :: linesAll (level + 1) front,
        linesAll (level + 1) back ++ ⟨level, "</" ++ name ++ ">"⟩ :: after, ?_⟩
      rw [whole]
      simp only [lines, linesAll_eq_flatMap, List.flatMap_append, List.flatMap_cons,
        List.append_assoc, List.cons_append, List.nil_append]

/-- What stands below a child stands below its parent, one level deeper. -/
theorem StandsAt.inParent {child node : Element} {level : Nat} (stands : child.StandsAt level node)
    (name : String) (attributes : List (String × String)) {children : List Element}
    (member : child ∈ children) :
    (Element.node name attributes (.elements children)).StandsAt (level + 1) node := by
  induction stands with
  | root => exact .child .root member
  | child parent inner ih => exact .child ih inner

/-- Every line belongs to a node at its level. -/
theorem exists_standsAt_of_mem_lines (element : Element) (depth : Nat) :
    ∀ line ∈ element.lines depth, ∃ level node, line.level = depth + level ∧
      element.StandsAt level node ∧ line.text ∈ node.tagLines := by
  induction element generalizing depth with
  | empty name attributes =>
      intro line member
      cases List.mem_singleton.1 member
      exact ⟨0, _, rfl, .root, List.mem_cons_self⟩
  | text name attributes text =>
      intro line member
      cases List.mem_singleton.1 member
      exact ⟨0, _, rfl, .root, List.mem_cons_self⟩
  | elements name attributes children ih =>
      intro line member
      rw [Element.lines_eq, List.mem_cons, List.mem_append] at member
      rcases member with rfl | below | closing
      · exact ⟨0, _, rfl, .root, List.mem_cons_self⟩
      · rw [innerLines, linesAll_eq_flatMap, List.mem_flatMap] at below
        obtain ⟨child, inside, inChild⟩ := below
        obtain ⟨level, node, deep, stands, own⟩ := ih child inside (depth + 1) line inChild
        exact ⟨level + 1, node, by omega, stands.inParent name attributes inside, own⟩
      · obtain ⟨text, closes, rfl⟩ := List.mem_map.1 closing
        exact ⟨0, _, rfl, .root, List.mem_cons_of_mem _ closes⟩

theorem feed_mem_escapeChars_iff {text : List Char} : '\n' ∈ escapeChars text ↔ '\n' ∈ text := by
  have foreign (entity : Entity) : '\n' ∉ entity.written := by cases entity <;> decide
  rw [escapeChars_eq_flatMap, List.mem_flatMap]
  constructor
  · rintro ⟨c, member, inside⟩
    exact eq_of_mem_charText foreign inside ▸ member
  · intro member
    exact ⟨'\n', member, List.mem_singleton_self '\n'⟩

theorem feed_mem_openTag_iff {name : String} {attributes : List (String × String)} :
    '\n' ∈ (openTag name attributes).toList ↔
      '\n' ∈ name.toList ∨ ∃ pair ∈ attributes, '\n' ∈ pair.1.toList ∨ '\n' ∈ pair.2.toList := by
  simp [toList_openTag, rawAttributes, Token.attributeWritten, feed_mem_escapeChars_iff]

/-- The line feeds in a node's own lines are those of its name, its attributes and its text. -/
theorem feed_mem_tagLines_iff (node : Element) :
    (∀ line ∈ node.tagLines, '\n' ∉ line.toList) ↔
      '\n' ∉ node.name.toList ∧
      (∀ pair ∈ node.attributes, '\n' ∉ pair.1.toList ∧ '\n' ∉ pair.2.toList) ∧
      ∀ text, node.content = .text text → '\n' ∉ text.toList := by
  rcases node with ⟨name, attributes, _ | text | children⟩
  · simp [tagLines, openLine, closeLine?, feed_mem_openTag_iff, Element.name,
      Element.attributes, content]
  · have own : '\n' ∉ (Element.node name attributes (.text text)).openLine.toList ↔
        '\n' ∉ (openTag name attributes).toList ∧ '\n' ∉ text.toList ∧ '\n' ∉ name.toList := by
      simp [openLine, feed_mem_escapeChars_iff]
    simp only [tagLines, closeLine?, Option.toList_none, List.forall_mem_singleton, own,
      feed_mem_openTag_iff, Element.name, Element.attributes, content, Content.text.injEq]
    grind
  · have own : (∀ line ∈ (Element.node name attributes (.elements children)).tagLines,
        '\n' ∉ line.toList) ↔ '\n' ∉ (openTag name attributes).toList ∧ '\n' ∉ name.toList := by
      simp [tagLines, openLine, closeLine?]
    rw [own]
    simp only [feed_mem_openTag_iff, Element.name, Element.attributes, content, reduceCtorEq]
    grind

theorem isUnbroken_iff (element : Element) :
    element.IsUnbroken ↔ ∀ line ∈ element.lines 0, '\n' ∉ line.text.toList := by
  constructor
  · intro unbroken line member
    obtain ⟨level, node, -, stands, own⟩ := exists_standsAt_of_mem_lines element 0 line member
    exact (feed_mem_tagLines_iff node).2 (unbroken level node stands) line.text own
  · intro unbroken level node stands
    obtain ⟨before, after, whole⟩ := stands.lines_eq
    apply (feed_mem_tagLines_iff node).1
    intro text own
    apply unbroken ⟨level, text⟩
    rw [whole, Element.lines_eq]
    rcases List.mem_cons.1 own with rfl | closes
    · simp
    · simp only [List.mem_append, List.mem_cons, List.mem_map]
      exact .inl (.inr (.inr (.inr ⟨text, closes, rfl⟩)))

end Element

theorem marginLines_nil (text : List Char) (fresh : Bool) : marginLines [] fresh text = text := by
  induction text generalizing fresh with
  | nil => cases fresh <;> rfl
  | cons c rest ih => cases fresh <;> simp [marginLines, ih]

/-- The margin comes before an unbroken line, and the next line is fresh again. -/
theorem marginLines_line (margin : List Char) {text : List Char} (unbroken : '\n' ∉ text)
    (rest : List Char) :
    marginLines margin true (text ++ '\n' :: rest) =
      margin ++ text ++ '\n' :: marginLines margin true rest := by
  have onward : ∀ text : List Char, '\n' ∉ text →
      marginLines margin false (text ++ '\n' :: rest) =
        text ++ '\n' :: marginLines margin true rest := by
    intro text unbroken
    induction text with
    | nil => rfl
    | cons c tail ih =>
        have here := List.ne_of_not_mem_cons unbroken
        have later := ih (List.not_mem_of_not_mem_cons unbroken)
        rw [List.cons_append, marginLines, beq_false_of_ne (Ne.symm here), later]
        rfl
  cases text with
  | nil => simp [marginLines]
  | cons c tail =>
      have here := List.ne_of_not_mem_cons unbroken
      have later := onward tail (List.not_mem_of_not_mem_cons unbroken)
      rw [List.cons_append, marginLines, beq_false_of_ne (Ne.symm here), later]
      simp

/-- A margin goes in front of the line and behind each line feed in it. -/
theorem length_marginLines (margin text rest : List Char) (fresh : Bool) :
    (marginLines margin fresh (text ++ '\n' :: rest)).length =
      text.length + 1 + margin.length * (text.count '\n' + fresh.toNat) +
        (marginLines margin true rest).length := by
  induction text generalizing fresh with
  | nil => cases fresh <;> simp [marginLines] <;> omega
  | cons c tail ih =>
      by_cases feed : c = '\n'
      · subst feed
        have later := ih true
        cases fresh <;> simp [marginLines, later, Nat.mul_add] <;> omega
      · have later := ih false
        have other := beq_false_of_ne feed
        cases fresh <;> simp [marginLines, other, later, List.count_cons, Nat.mul_add] <;> omega

/-- How many line feeds the lines hold themselves. -/
def breaks (lines : List Line) : Nat :=
  (lines.flatMap fun line => line.text.toList).count '\n'

theorem breaks_cons (line : Line) (rest : List Line) :
    breaks (line :: rest) = line.text.toList.count '\n' + breaks rest := by
  rw [breaks, List.flatMap_cons, List.count_append, breaks]

theorem breaks_eq_zero_iff {lines : List Line} :
    breaks lines = 0 ↔ ∀ line ∈ lines, '\n' ∉ line.text.toList := by
  simp [breaks, List.count_eq_zero, List.mem_flatMap]

theorem toList_indentLines (depth : Nat) (text : String) :
    (indentLines depth text).toList =
      marginLines (List.replicate (2 * depth) ' ') true text.toList :=
  String.toList_ofList

theorem indentLines_zero (text : String) : indentLines 0 text = text := by
  rw [← String.toList_inj, toList_indentLines]
  exact marginLines_nil text.toList true

/-- Unbroken lines with a margin before each are the lines that much deeper. -/
theorem indentLines_writtenLines {lines : List Line} (depth : Nat)
    (unbroken : ∀ line ∈ lines, '\n' ∉ line.text.toList) :
    indentLines depth (writtenLines lines) = writtenLines (lines.map (Line.deeper depth)) := by
  rw [← String.toList_inj, toList_indentLines]
  induction lines with
  | nil => rfl
  | cons line rest ih =>
      obtain ⟨here, later⟩ := List.forall_mem_cons.1 unbroken
      have whole : '\n' ∉ List.replicate (2 * line.level) ' ' ++ line.text.toList := by
        simpa using here
      rw [writtenLines_cons, List.map_cons, writtenLines_cons, String.toList_append,
        String.toList_append, Line.toList_written_deeper, Line.toList_written,
        ← ih later, List.append_assoc, List.singleton_append, marginLines_line _ whole]
      simp only [List.append_assoc, List.singleton_append]

/-- Every line feed inside a line has a margin of its own behind it. -/
theorem length_indentLines_writtenLines (depth : Nat) (lines : List Line) :
    (indentLines depth (writtenLines lines)).toList.length =
      (writtenLines (lines.map (Line.deeper depth))).toList.length +
        2 * depth * breaks lines := by
  rw [toList_indentLines]
  induction lines with
  | nil => rfl
  | cons line rest ih =>
      have spaces : (List.replicate (2 * line.level) ' ').count '\n' = 0 := by
        simp [List.count_replicate]
      rw [writtenLines_cons, List.map_cons, writtenLines_cons, String.toList_append,
        String.toList_append, Line.toList_written_deeper, Line.toList_written, List.append_assoc,
        List.singleton_append, length_marginLines, ih, List.count_append, spaces, breaks_cons]
      simp only [List.length_append, List.length_replicate, Bool.toNat_true, Nat.mul_add,
        List.length_singleton]
      omega

namespace Element

theorem lines_deeper (element : Element) (depth : Nat) :
    element.lines depth = (element.lines 0).map (Line.deeper depth) :=
  lines_add element depth 0

/-- A margin before each line of its text is what writing an element deeper comes to, exactly if
none of its lines is broken, or if there is no margin. -/
theorem indentLines_markup_iff (element : Element) (depth : Nat) :
    indentLines depth element.markup = writtenLines (element.lines depth) ↔
      depth = 0 ∨ element.IsUnbroken := by
  rw [markup_eq, lines_deeper element depth]
  constructor
  · intro same
    have long := length_indentLines_writtenLines depth (element.lines 0)
    rw [same, Nat.left_eq_add, Nat.mul_eq_zero] at long
    rcases long with flat | whole
    · exact .inl (by omega)
    · exact .inr ((isUnbroken_iff element).2 (breaks_eq_zero_iff.1 whole))
  · rintro (rfl | unbroken)
    · rw [indentLines_zero, ← lines_deeper element 0]
    · exact indentLines_writtenLines depth ((isUnbroken_iff element).1 unbroken)

/-- Writing a tree at any depth. The buffer is kept in front and the depth is kept; what is added
are the tree's lines, those of a node `level` levels below the root behind `2 * (depth + level)`
spaces: its opening and its closing line, with the lines of the nodes below it, all of them deeper,
between the two. It is the tree's own text with `2 * depth` spaces before each of its lines exactly
if the tree holds no line feed, or at depth zero. -/
theorem write_at_depth (element : Element) :
    (∀ writer : Writer, element.write writer =
      { buffer := writer.buffer ++ String.join ((element.lines 0).map fun line =>
          indentation (writer.depth + line.level) ++ line.text ++ "\n")
        depth := writer.depth }) ∧
    (∀ level node, element.StandsAt level node → ∃ before inner after,
      element.lines 0 = before ++ Line.mk level node.openLine ::
          (inner ++ node.closeLine?.toList.map (Line.mk level)) ++ after ∧
        ∀ line ∈ inner, level < line.level) ∧
    (∀ line ∈ element.lines 0, ∃ node, element.StandsAt line.level node ∧
      line.text ∈ node.tagLines) ∧
    ∀ writer : Writer, (element.write writer).buffer =
        writer.buffer ++ indentLines writer.depth element.markup ↔
      writer.depth = 0 ∨ element.IsUnbroken := by
  refine ⟨?_, ?_, ?_, ?_⟩
  · intro writer
    rw [write_eq, lines_deeper element writer.depth, writtenLines, List.map_map]
    rfl
  · intro level node stands
    obtain ⟨before, after, whole⟩ := stands.lines_eq
    refine ⟨before, node.innerLines level, after, ?_, lt_level_of_mem_innerLines node⟩
    rw [whole, Element.lines_eq]
  · intro line member
    obtain ⟨level, node, deep, stands, own⟩ := exists_standsAt_of_mem_lines element 0 line member
    rw [Nat.zero_add] at deep
    exact ⟨node, deep ▸ stands, own⟩
  · intro writer
    rw [← indentLines_markup_iff, write_eq, String.append_right_inj, eq_comm]

/-- Elements three deep, the innermost with a line feed in its text. -/
def nestedGrid : Element :=
  (named "Grid").child ((named "Row").child ((named "Cell").text "a\nb"))

theorem write_at_depth_nestedGrid :
    nestedGrid.StandsAt 1 ((named "Row").child ((named "Cell").text "a\nb")) ∧
      (∃ before inner after, nestedGrid.lines 0 = before ++ Line.mk 1 "<Row>" ::
          (inner ++ [Line.mk 1 "</Row>"]) ++ after ∧ ∀ line ∈ inner, 1 < line.level) ∧
      Line.mk 2 "<Cell>a\nb</Cell>" ∈ nestedGrid.lines 0 ∧
      (∃ node, nestedGrid.StandsAt 2 node ∧ "<Cell>a\nb</Cell>" ∈ node.tagLines) ∧
      ¬ nestedGrid.IsUnbroken ∧
      (nestedGrid.write ⟨"x\n", 1⟩).buffer ≠ "x\n" ++ indentLines 1 nestedGrid.markup := by
  obtain ⟨-, blocks, owners, simple⟩ := write_at_depth nestedGrid
  have row : nestedGrid.StandsAt 1 ((named "Row").child ((named "Cell").text "a\nb")) :=
    .child .root (List.mem_singleton_self _)
  have cell : nestedGrid.StandsAt 2 ((named "Cell").text "a\nb") :=
    .child row (List.mem_singleton_self _)
  have line : Line.mk 2 "<Cell>a\nb</Cell>" ∈ nestedGrid.lines 0 := by decide +kernel
  have broken : ¬ nestedGrid.IsUnbroken := by
    intro unbroken
    exact (unbroken 2 _ cell).2.2 "a\nb" rfl (by decide)
  refine ⟨row, blocks 1 _ row, line, owners _ line, broken, ?_⟩
  intro same
  exact ((simple ⟨"x\n", 1⟩).1 same).elim (by decide) broken

/-- A name is written as it is, so one that holds a line feed breaks its line too. -/
theorem write_ne_indentLines_brokenName :
    (∀ level node, (named "Row\nGroup").StandsAt level node →
      (∀ pair ∈ node.attributes, '\n' ∉ pair.2.toList) ∧
        ∀ text, node.content = .text text → '\n' ∉ text.toList) ∧
      ((named "Row\nGroup").write ⟨"", 1⟩).buffer ≠
        "" ++ indentLines 1 (named "Row\nGroup").markup := by
  constructor
  · intro level node stands
    have alone : node = named "Row\nGroup" := by
      induction stands with
      | root => rfl
      | child _ _ ih => cases ih
    subst alone
    exact ⟨by simp [Element.attributes, named], by simp [content, named]⟩
  · decide +kernel

end Element

end QueryGroup.Markup
