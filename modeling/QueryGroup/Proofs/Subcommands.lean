import QueryGroup.Proofs.Fidelity
import QueryGroup.Proofs.RunInputs
set_option autoImplicit false

namespace QueryGroup

open Markup Query

namespace Markup.Element

mutual

/-- The names of a tree's elements, in the order of their tags. -/
def names : Element → List String
  | .node name _ .empty => [name]
  | .node name _ (.text _) => [name]
  | .node name _ (.elements children) => name :: namesAll children

def namesAll : List Element → List String
  | [] => []
  | child :: rest => names child ++ namesAll rest

end

/-- The children of a name. -/
def inside (element : Element) (name : String) : List Element :=
  match element.content with
  | .elements children => children.filter fun child => child.name == name
  | _ => []

def attribute? (element : Element) (key : String) : Option String :=
  Assoc.get? element.attributes key

theorem namesAll_eq_flatMap (children : List Element) :
    namesAll children = children.flatMap names := by
  induction children with
  | nil => rfl
  | cons child rest ih => rw [namesAll, ih, List.flatMap_cons]

theorem names_elements (name : String) (attributes : List (String × String))
    (children : List Element) :
    (node name attributes (.elements children)).names = name :: children.flatMap names := by
  rw [names, namesAll_eq_flatMap]

theorem names_ofList (name : String) (attributes : List (String × String))
    (children : List Element) :
    (node name attributes (.ofList children)).names = name :: children.flatMap names := by
  cases children with
  | nil => rfl
  | cons child rest => exact names_elements name attributes (child :: rest)

theorem inside_ofList (name : String) (attributes : List (String × String))
    (children : List Element) (sought : String) :
    (node name attributes (.ofList children)).inside sought =
      children.filter fun child => child.name == sought := by
  cases children <;> rfl

/-- In a list of elements of one make, names occur as often as in one of them, times the
number of them. -/
theorem count_flatMap_names {α : Type} {build : α → Element} {sought : String} {times : Nat}
    (each : ∀ item, (build item).names.count sought = times) (items : List α) :
    ((items.map build).flatMap names).count sought = times * items.length := by
  induction items with
  | nil => simp
  | cons item rest ih =>
      rw [List.map_cons, List.flatMap_cons, List.count_append, each, ih, List.length_cons,
        Nat.mul_succ, Nat.add_comm]

theorem count_names_children {α : Type} {build : α → Element} {sought : String} {times : Nat}
    (each : ∀ item, (build item).names.count sought = times) (items : List α) {name : String}
    (other : name ≠ sought) :
    ((named name).children (items.map build)).names.count sought = times * items.length := by
  rw [named, children_empty, names_ofList, List.count_cons_of_ne other, count_flatMap_names each]

end Markup.Element

namespace Emitted

/-- The fields in the layout of a root element. -/
def fieldElements (root : Element) : List Element :=
  (root.inside "Layout").flatMap fun layout => layout.inside "Field"

/-- The line for a field: its name and its role, which is that of data if it is an aggregate. -/
def fieldLine? (field : Element) : Option String :=
  (field.attribute? "Name").map fun name =>
    name ++ "\t" ++ (if field.attribute? "IsAggregate" = some "true" then "data" else "key") ++ "\n"

theorem count_names_definition (query : EmittedQuery) :
    query.definition.names.count "QueryGroupPartDefinition" = 1 := by
  have pair (kind : String) (other : kind ≠ "QueryGroupPartDefinition") (pair : Aliased) :
      (pairElement kind pair).names.count "QueryGroupPartDefinition" = 0 := by
    simp [pairElement, Element.names, other]
  rw [EmittedQuery.definition, Element.names_elements, List.flatMap_cons, List.flatMap_cons,
    List.count_cons_self, List.count_append, List.count_append,
    Element.count_names_children (pair _ (by decide)) _ (by decide),
    Element.count_names_children (pair _ (by decide)) _ (by decide)]
  cases query.filter <;> simp [Element.named, Element.text, Element.names]

theorem count_names_substitution (substitution : Substitution) :
    (Sections.substitution substitution).names.count "QueryGroupPartDefinition" = 0 := by
  have entry (entry : MenuEntry) :
      (Sections.menuEntry entry).names.count "QueryGroupPartDefinition" = 0 := rfl
  rw [substitution_eq, Element.names_ofList, List.count_cons_of_ne (by decide),
    Element.count_flatMap_names entry, Nat.zero_mul]

theorem count_names_columnExpression (expression : String × String) :
    (Sections.columnExpression expression).names.count "QueryGroupPartDefinition" = 0 := rfl

theorem count_names_layoutField (field : Layout.Field) :
    (Sections.layoutField field).names.count "QueryGroupPartDefinition" = 0 := by
  rcases field with ⟨name, _ | _⟩ <;> rfl

/-- A document has a definition for each query and none else. -/
theorem count_names_element (emitted : Emitted) :
    emitted.element.names.count "QueryGroupPartDefinition" = emitted.queries.length := by
  have last : ((emitted.substitutions.map sectionOfSubstitutions).toList.flatMap
      Element.names).count "QueryGroupPartDefinition" = 0 := by
    cases emitted.substitutions with
    | none => rfl
    | some list =>
        simp [sectionOfSubstitutions,
          Element.count_names_children count_names_substitution list
            (show "TextSubstitutions" ≠ _ by decide)]
  rw [element, Element.names_elements, List.count_cons_of_ne (by decide)]
  simp only [List.flatMap_cons, List.count_append, last, sectionOfQueries, Sections.layout]
  rw [Element.count_names_children count_names_columnExpression _ (by decide),
    Element.count_names_children count_names_layoutField _ (by decide),
    Element.count_names_children count_names_definition _ (by decide)]
  omega

theorem fieldElements_element (emitted : Emitted) :
    fieldElements emitted.element = emitted.layout.map Sections.layoutField := by
  have only : emitted.element.inside "Layout" = [Sections.layout emitted.layout] := by
    cases shown : emitted.substitutions <;>
      simp [element, shown, Element.inside, Element.content, sectionOfQueries, Sections.layout,
        sectionOfSubstitutions, Element.named, Element.children_empty, Element.name]
  have fields : (Sections.layout emitted.layout).inside "Field" =
      emitted.layout.map Sections.layoutField := by
    rw [Sections.layout, Element.named, Element.children_empty, Element.inside_ofList,
      List.filter_eq_self]
    intro element member
    obtain ⟨⟨name, _ | _⟩, -, rfl⟩ := List.mem_map.1 member <;> rfl
  rw [fieldElements, only, List.flatMap_singleton, fields]

theorem fieldLine?_layoutField (field : Layout.Field) :
    fieldLine? (Sections.layoutField field) =
      some (field.name ++ "\t" ++ field.role.name ++ "\n") := by
  rcases field with ⟨name, _ | _⟩ <;> rfl

theorem fieldLines_element (emitted : Emitted) :
    (fieldElements emitted.element).mapM fieldLine? =
      some (emitted.layout.map fun field => field.name ++ "\t" ++ field.role.name ++ "\n") := by
  rw [fieldElements_element]
  induction emitted.layout with
  | nil => rfl
  | cons field rest ih => simp [fieldLine?_layoutField, ih]

end Emitted

namespace Command

variable {σ : Type} (system : FileSystem σ) (surroundings : Surroundings) (state : σ)

/-- The run failed, printed nothing and wrote those notes. -/
structure Outcome.Fails (outcome : Outcome) (notes : String) : Prop where
  success : outcome.success = false
  output : outcome.output = ""
  notes : outcome.notes = notes

theorem Outcome.fails_failed (notes message : String) :
    (failed notes message).Fails (notes ++ message ++ "\n") :=
  ⟨rfl, rfl, rfl⟩

namespace FileSystem

theorem display_of_fault {given : Option String} {file message : String}
    (read : system.input surroundings state given file = .error message) (action : Action) :
    (system.display surroundings state given file action).Fails
      (surroundings.log.warnings ++ message ++ "\n") := by
  rw [display, read]
  dsimp only
  rw [Outcome.warned_failed, String.append_empty]
  exact Outcome.fails_failed _ _

section

variable {given : Option String} {file : String} {options : Options} {report : Report}
  (read : system.input surroundings state given file = .ok (options, report))

include read

theorem display_of_refused {refusal : Query.Refusal}
    (refused : (Compile.queries options report).result = .error refusal) (action : Action) :
    (system.display surroundings state given file action).Fails
      (surroundings.log.warnings ++
        surroundings.log.audit (Compile.queries options report).records ++
        (action.heading ++ refusal.message) ++ "\n") := by
  rw [display, read]
  dsimp only
  rw [shown_of_error _ file action refused, Outcome.warned_failed]
  exact Outcome.fails_failed _ _

theorem display_of_ok {parts : OrderedMap Query.Part}
    (made : (Compile.queries options report).result = .ok parts) (action : Action) :
    (system.display surroundings state given file action).success = true ∧
      (system.display surroundings state given file action).output =
        action.text options report parts file := by
  obtain ⟨notes, ends⟩ := shown_of_ok surroundings.log file action made
  rw [display, read]
  dsimp only
  rw [ends]
  exact ⟨rfl, rfl⟩

end

end FileSystem

/-- On one file and from one state, checking, listing the layout and printing the document end
with the same code. Where the settings or the file cannot be read or parsed, all of them write the
message of that fault; where a query is refused, they write the same behind the name of what was
done. Else the count is that of the document's definitions, and the lines are those of its
fields. -/
theorem exec_agree (given : Option String) (file : String) :
    ∃ checked listed compiled,
      system.exec surroundings state ⟨given, file, .check⟩ = (checked, state) ∧
        system.exec surroundings state ⟨given, file, .layout⟩ = (listed, state) ∧
        system.exec surroundings state ⟨given, file, .compile none⟩ = (compiled, state) ∧
        ((∃ message, system.InputFault surroundings state given file message ∧
            ∀ outcome ∈ [checked, listed, compiled],
              outcome.Fails (surroundings.log.warnings ++ message ++ "\n")) ∨
          (∃ options report refusal,
            system.ReadsInput surroundings state given file options report ∧
              (Compile.queries options report).result = .error refusal ∧
              let notes := surroundings.log.warnings ++
                surroundings.log.audit (Compile.queries options report).records
              checked.Fails (notes ++ ("Validation error: " ++ refusal.message) ++ "\n") ∧
              ∀ outcome ∈ [listed, compiled],
                outcome.Fails (notes ++ ("Compilation error: " ++ refusal.message) ++ "\n")) ∨
          ∃ options report root,
            system.ReadsInput surroundings state given file options report ∧
              (∀ outcome ∈ [checked, listed, compiled], outcome.success = true) ∧
              Emitted.root? compiled.output = some root ∧
              checked.output = "OK: " ++ file ++ " (" ++
                toString (root.names.count "QueryGroupPartDefinition") ++ " queries)\n" ∧
              ((Emitted.fieldElements root).mapM Emitted.fieldLine?).map String.join =
                some listed.output) := by
  refine ⟨_, _, _, system.exec_eq_display surroundings state given file (by simp),
    system.exec_eq_display surroundings state given file (by simp),
    system.exec_eq_display surroundings state given file (by simp), ?_⟩
  simp only [List.forall_mem_cons, List.not_mem_nil, false_implies, implies_true, and_true]
  rcases system.input_cases surroundings state given file with
    ⟨options, report, reads, read⟩ | ⟨message, fault, read⟩
  · cases made : (Compile.queries options report).result with
    | error refusal =>
        have ends := system.display_of_refused surroundings state read made
        exact .inr (.inl ⟨options, report, refusal, reads, made, ends .check, ends .layout,
          ends (.compile none)⟩)
    | ok parts =>
        have ends := system.display_of_ok surroundings state read made
        have document := Emitted.root?_outputOf options report parts
        have printed : _ = (Compile.outputOf options report parts).markup := (ends (.compile none)).2
        rw [← printed] at document
        refine .inr (.inr ⟨options, report, _, reads,
          ⟨(ends .check).1, (ends .layout).1, (ends (.compile none)).1⟩, document, ?_, ?_⟩)
        · rw [(ends .check).2, Emitted.count_names_element]
          simp [Action.text, Emitted.ofCompiled, Compile.outputOf, OrderedMap.size]
        · rw [(ends .layout).2, Emitted.fieldLines_element]
          rfl
  · have ends := system.display_of_fault surroundings state read
    exact .inl ⟨message, fault, ends .check, ends .layout, ends (.compile none)⟩

theorem exec_agree_reportDirectory :
    (∃ checked listed compiled root,
      Directory.system.exec bareSurroundings reportDirectory ⟨none, "report.toml", .check⟩ =
          (checked, reportDirectory) ∧
        Directory.system.exec bareSurroundings reportDirectory ⟨none, "report.toml", .layout⟩ =
          (listed, reportDirectory) ∧
        Directory.system.exec bareSurroundings reportDirectory
            ⟨none, "report.toml", .compile none⟩ = (compiled, reportDirectory) ∧
        compiled.success = true ∧ Emitted.root? compiled.output = some root ∧
        checked.output = "OK: report.toml (" ++
          toString (root.names.count "QueryGroupPartDefinition") ++ " queries)\n" ∧
        ((Emitted.fieldElements root).mapM Emitted.fieldLine?).map String.join =
          some listed.output) ∧
      (∃ checked listed notes, ∃ refusal : Query.Refusal,
        Directory.system.exec bareSurroundings reportDirectory ⟨none, "refused.toml", .check⟩ =
            (checked, reportDirectory) ∧
          Directory.system.exec bareSurroundings reportDirectory ⟨none, "refused.toml", .layout⟩ =
            (listed, reportDirectory) ∧
          checked.Fails (notes ++ ("Validation error: " ++ refusal.message) ++ "\n") ∧
          listed.Fails (notes ++ ("Compilation error: " ++ refusal.message) ++ "\n")) ∧
      ∃ checked listed notes,
        Directory.system.exec bareSurroundings reportDirectory ⟨none, "absent.json", .check⟩ =
            (checked, reportDirectory) ∧
          Directory.system.exec bareSurroundings reportDirectory ⟨none, "absent.json", .layout⟩ =
            (listed, reportDirectory) ∧
          checked.Fails notes ∧ listed.Fails notes := by
  refine ⟨?_, ?_, ?_⟩
  · obtain ⟨checked, listed, compiled, check, layout, compile, ends⟩ :=
      exec_agree Directory.system bareSurroundings reportDirectory none "report.toml"
    have success : (Directory.system.exec bareSurroundings reportDirectory
        ⟨none, "report.toml", .check⟩).1.success = true := by decide +kernel
    rw [check] at success
    rcases ends with ⟨_, -, fail⟩ | ⟨_, _, _, -, -, fail, -⟩ | ⟨_, _, root, -, done, results⟩
    · exact absurd success (by simp [(fail checked (by simp)).success])
    · exact absurd success (by simp [fail.success])
    · exact ⟨checked, listed, compiled, root, check, layout, compile, done compiled (by simp),
        results⟩
  · obtain ⟨checked, listed, compiled, check, layout, -, ends⟩ :=
      exec_agree Directory.system bareSurroundings reportDirectory none "refused.toml"
    have differ : (Directory.system.exec bareSurroundings reportDirectory
          ⟨none, "refused.toml", .check⟩).1.notes ≠
        (Directory.system.exec bareSurroundings reportDirectory
          ⟨none, "refused.toml", .layout⟩).1.notes := by decide +kernel
    have failure : (Directory.system.exec bareSurroundings reportDirectory
        ⟨none, "refused.toml", .check⟩).1.success = false := by decide +kernel
    rw [check, layout] at differ
    rw [check] at failure
    rcases ends with ⟨_, -, fail⟩ | ⟨_, _, refusal, -, -, fail, others⟩ | ⟨_, _, _, -, done, -⟩
    · exact absurd ((fail checked (by simp)).notes.trans (fail listed (by simp)).notes.symm) differ
    · exact ⟨checked, listed, _, refusal, check, layout, fail, others listed (by simp)⟩
    · exact absurd failure (by simp [done checked (by simp)])
  · obtain ⟨checked, listed, compiled, check, layout, -, ends⟩ :=
      exec_agree Directory.system bareSurroundings reportDirectory none "absent.json"
    have absent : Directory.system.look reportDirectory "absent.json" = .missing absentDetail := by
      decide +kernel
    rcases ends with ⟨_, -, fail⟩ | ⟨_, _, _, ⟨-, held, -⟩, -⟩ | ⟨_, _, _, ⟨-, held, -⟩, -⟩
    · exact ⟨checked, listed, _, check, layout, fail checked (by simp), fail listed (by simp)⟩
    · cases held.symm.trans absent
    · cases held.symm.trans absent

end Command

end QueryGroup
