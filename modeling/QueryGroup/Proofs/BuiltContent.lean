import Mathlib.Data.List.DropRight
import QueryGroup.Proofs.Nesting
set_option autoImplicit false

namespace QueryGroup.Markup

/-- The content after a text, if there was one, and the children that came behind it. -/
def Content.given : Option String → List Element → Content Element
  | none, [] => .empty
  | some last, [] => .text last
  | _, first :: rest => .elements (first :: rest)

theorem Content.given_eq_elements_iff {last? : Option String} {added children : List Element} :
    Content.given last? added = .elements children ↔ added = children ∧ children ≠ [] := by
  cases added with
  | nil => cases last? <;> simp [given, eq_comm]
  | cons first rest =>
      simp only [given, elements.injEq]
      constructor
      · rintro rfl
        exact ⟨rfl, List.cons_ne_nil first rest⟩
      · exact fun same => same.1

namespace Element

namespace Step

/-- The attribute that a call adds. -/
def attribute? : Step → Option (String × String)
  | .withAttribute key value => some (key, value)
  | _ => none

/-- The text that a call sets. -/
def text? : Step → Option String
  | .text given => some given
  | _ => none

/-- The children that a call adds, in order. -/
def added : Step → List Element
  | .child last => [last]
  | .children list => list
  | _ => []

end Step

/-- The text of the last call that sets one. -/
def lastText? (steps : List Step) : Option String := (steps.filterMap Step.text?).getLast?

/-- The children added by the calls after the last one that sets a text, or by all of them. -/
def addedSinceText (steps : List Step) : List Element :=
  (steps.rtakeWhile fun step => step.text?.isNone).flatMap Step.added

/-- The element is made by calls, and so is each child that they add. -/
inductive Assembled : Element → Prop
  | ofSteps (name : String) {steps : List Step}
      (each : ∀ step ∈ steps, ∀ child ∈ step.added, Assembled child) :
      Assembled (build name steps)

theorem lastText?_append_singleton (front : List Step) (last : Step) :
    lastText? (front ++ [last]) = last.text?.or (lastText? front) := by
  cases text : last.text? with
  | none => simp [lastText?, text]
  | some given => simp [lastText?, text]

theorem addedSinceText_append_singleton (front : List Step) (last : Step) :
    addedSinceText (front ++ [last]) =
      if last.text?.isNone then addedSinceText front ++ last.added else [] := by
  rw [addedSinceText, List.rtakeWhile_concat]
  split
  · rw [List.flatMap_append, List.flatMap_singleton, addedSinceText]
  · rfl

/-- Children come behind those that are there, and the first of all drops the text. -/
theorem children_given (name : String) (attributes : List (String × String))
    (last? : Option String) (first added : List Element) :
    (node name attributes (.given last? first)).children added =
      node name attributes (.given last? (first ++ added)) := by
  cases first with
  | cons head tail => cases last? <;> exact children_elements name attributes (head :: tail) added
  | nil =>
      cases added with
      | nil => rfl
      | cons next rest => cases last? <;> exact children_elements name attributes [next] rest

/-- All that is left of a sequence of calls: every attribute, and the text or the children that
were given last. -/
theorem build_eq (name : String) (steps : List Step) :
    build name steps = node name (steps.filterMap Step.attribute?)
      (.given (lastText? steps) (addedSinceText steps)) := by
  induction steps using List.reverseRecOn with
  | nil => rfl
  | append_singleton front last ih =>
      rw [build_append_singleton, ih, List.filterMap_append, lastText?_append_singleton,
        addedSinceText_append_singleton]
      cases last with
      | withAttribute key value =>
          change node name (_ ++ [(key, value)]) _ = node name _ (.given _ (_ ++ []))
          rw [List.append_nil]
          rfl
      | text given =>
          change node name _ (.text given) = node name (_ ++ []) (.text given)
          rw [List.append_nil]
      | child next =>
          change children (node name _ _) [next] = node name (_ ++ []) (.given _ (_ ++ [next]))
          rw [List.append_nil]
          exact children_given ..
      | children list =>
          change children (node name _ _) list = node name (_ ++ []) (.given _ (_ ++ list))
          rw [List.append_nil]
          exact children_given ..

theorem build_children_nil (name : String) (front back : List Step) :
    build name (front ++ .children [] :: back) = build name (front ++ back) := by
  simp only [build, List.foldl_append, List.foldl_cons]
  rfl

theorem mem_of_mem_addedSinceText {steps : List Step} {child : Element}
    (member : child ∈ addedSinceText steps) : ∃ step ∈ steps, child ∈ step.added := by
  obtain ⟨step, since, inside⟩ := List.mem_flatMap.1 member
  exact ⟨step, (List.rtakeWhile_suffix _ steps).mem since, inside⟩

namespace Assembled

variable {element : Element}

theorem of_content (assembled : element.Assembled) {children : List Element}
    (filled : element.content = .elements children) :
    children ≠ [] ∧ ∀ child ∈ children, child.Assembled := by
  cases assembled with
  | @ofSteps name steps each =>
      rw [build_eq, content, Content.given_eq_elements_iff] at filled
      obtain ⟨rfl, nonempty⟩ := filled
      refine ⟨nonempty, ?_⟩
      intro child member
      obtain ⟨step, called, inside⟩ := mem_of_mem_addedSinceText member
      exact each step called child inside

theorem of_standsAt (assembled : element.Assembled) {level : Nat} {node : Element}
    (stands : element.StandsAt level node) : node.Assembled := by
  induction stands with
  | root => exact assembled
  | child _ member parent => exact (parent.of_content rfl).2 _ member

theorem step (assembled : element.Assembled) {next : Step}
    (each : ∀ child ∈ next.added, child.Assembled) : (element.step next).Assembled := by
  cases assembled with
  | @ofSteps name steps before =>
      rw [← build_append_singleton]
      refine .ofSteps name ?_
      intro step member
      rcases List.mem_append.1 member with earlier | last
      · exact before step earlier
      · cases List.mem_singleton.1 last
        exact each

theorem withAttributes (name : String) (attributes : List (String × String)) :
    (node name attributes .empty).Assembled := by
  induction attributes using List.reverseRecOn with
  | nil => exact @ofSteps name [] (by simp)
  | append_singleton front last ih =>
      have nothing : ∀ child ∈ (Step.withAttribute last.1 last.2).added, child.Assembled := by
        simp [Step.added]
      exact ih.step nothing

end Assembled

/-- Calls can make any element that holds no empty list of children at any depth, and no other. -/
theorem assembled_iff (element : Element) :
    element.Assembled ↔
      ∀ level node, element.StandsAt level node → node.content ≠ .elements [] := by
  constructor
  · intro assembled level node stands bare
    exact ((assembled.of_standsAt stands).of_content bare).1 rfl
  · intro filled
    induction element with
    | empty name attributes => exact .withAttributes name attributes
    | text name attributes given =>
        have plain := Assembled.withAttributes name attributes
        have nothing : ∀ child ∈ (Step.text given).added, child.Assembled := by simp [Step.added]
        exact plain.step nothing
    | elements name attributes children ih =>
        have plain := Assembled.withAttributes name attributes
        have below : ∀ child ∈ (Step.children children).added, child.Assembled := by
          intro child member
          apply ih child member
          intro level node stands
          exact filled (level + 1) node (stands.inParent name attributes member)
        have nonempty : children ≠ [] := by
          intro bare
          exact filled 0 _ .root (congrArg Content.elements bare)
        have given := plain.step below
        obtain ⟨first, rest, rfl⟩ := List.exists_cons_of_ne_nil nonempty
        rw [step, children_empty] at given
        exact given

/-- What any sequence of calls makes: all the attributes in order, with the last text if no child
was added after it, else with the children added after it, or from the start if there is no text.
Adding no children makes no difference anywhere among the calls, and just those elements can be
made, out of elements made so, that hold no empty list of children at any depth. -/
theorem build_lasting (name : String) (steps : List Step) :
    build name steps = node name (steps.filterMap Step.attribute?)
        (.given (lastText? steps) (addedSinceText steps)) ∧
      (∀ back, build name (steps ++ .children [] :: back) = build name (steps ++ back)) ∧
      ∀ element : Element, element.Assembled ↔
        ∀ level node, element.StandsAt level node → node.content ≠ .elements [] :=
  ⟨build_eq name steps, build_children_nil name steps, assembled_iff⟩

theorem build_lasting_alternating :
    build "Grid" [.child (named "Row"), .text "a", .withAttribute "Name" "b", .children []] =
        node "Grid" [("Name", "b")] (.text "a") ∧
      build "Grid" [.child (named "Row"), .text "a", .child (named "Cell"), .children [],
        .withAttribute "Name" "b", .children [named "Row", named "Cell"]] =
        node "Grid" [("Name", "b")] (.elements [named "Cell", named "Row", named "Cell"]) ∧
      build "Grid" [.children []] = named "Grid" ∧
      ¬ (node "Grid" [] (.elements [node "Row" [] (.elements [])])).Assembled := by
  refine ⟨(build_lasting "Grid" _).1, (build_lasting "Grid" _).1,
    (build_lasting "Grid" []).2.1 [], ?_⟩
  rw [(build_lasting "Grid" []).2.2]
  intro filled
  exact filled 1 _ (.child .root (List.mem_singleton_self _)) rfl

end Element

end QueryGroup.Markup
