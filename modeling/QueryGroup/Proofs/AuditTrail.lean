import QueryGroup.Proofs.ItemFates
import QueryGroup.Proofs.LayoutFields
set_option autoImplicit false

namespace QueryGroup

open Audit Json Query

namespace Layout

/-- Where a key of the first query goes: it is a field, or it is told of. -/
def place (suffix query : String) (key : Aliased) : Field ⊕ Record :=
  if Hidden suffix key.name then .inr (.excludedKey key.name query) else .inl (.key key.name)

def places (suffix : String) (parts : OrderedMap Part) : List (Field ⊕ Record) :=
  parts.first?.elim [] fun first => first.2.keys.map (place suffix first.1)

theorem keyFields_eq_places (suffix query : String) (part : Part) :
    keyFields suffix part = (part.keys.map (place suffix query)).filterMap Sum.getLeft? := by
  rw [keyFields, ← List.filterMap_eq_map, List.filterMap_filter, List.filterMap_map]
  apply List.filterMap_congr
  intro key _
  by_cases hidden : Hidden suffix key.name <;> simp [isLayoutAlias_eq, place, hidden]

theorem excludedKeys_eq_places (suffix query : String) (part : Part) :
    excludedKeys suffix query part =
      (part.keys.map (place suffix query)).filterMap Sum.getRight? := by
  rw [excludedKeys, ← List.filterMap_eq_map, List.filterMap_filter, List.filterMap_map]
  apply List.filterMap_congr
  intro key _
  by_cases hidden : Hidden suffix key.name <;> simp [isLayoutAlias_eq, place, hidden]

theorem fields_eq_places (suffix : String) (parts : OrderedMap Part)
    (expressions : OrderedMap String) :
    fields suffix parts expressions =
      (places suffix parts).filterMap Sum.getLeft? ++ dataFields expressions := by
  rw [fields, places]
  cases parts.first? with
  | none => rfl
  | some first => rw [Option.elim_some, Option.elim_some, keyFields_eq_places suffix first.1]

theorem records_project {ε : Type} (suffix : String) (parts : OrderedMap Part)
    (expressions : OrderedMap String) :
    (project suffix parts expressions : Audited ε (List Field)).records =
      (places suffix parts).filterMap Sum.getRight? := by
  rw [project, places]
  split
  · next query part first =>
    rw [first, Option.elim_some]
    exact excludedKeys_eq_places suffix query part
  · next first =>
    rw [first]
    rfl

end Layout

namespace Compile

variable {options : Options} {report : Report}

/-- Where all raw parts are read, all of them are told of. -/
theorem records_queries_of_ok {parts : OrderedMap Part}
    (made : (queries options report).result = .ok parts) :
    ∃ told, List.Forall₂ Tells report.queries.entries told ∧
      (queries options report).records = told.flatten := by
  have admissible : ∀ entry ∈ report.queries.entries,
      Admissible options.positional entry.2 := by
    rw [forall_admissible_iff]
    intro refusal first
    rw [queries, result_normalizeAll_eq_error_iff.2 first] at made
    cases made
  obtain ⟨told, each, records⟩ := records_normalizeEntries_append admissible []
  rw [List.append_nil] at records
  refine ⟨told, each, ?_⟩
  rw [queries, records_normalizeAll, records]
  exact List.append_nil _

theorem records_compile_of_ok {parts : OrderedMap Part}
    (made : (queries options report).result = .ok parts) :
    (compile options report).records =
      (queries options report).records ++
        ((Layout.places options.sortSuffix parts).filterMap Sum.getRight? ++
          sectionRecords options report) := by
  have projected : (Layout.project options.sortSuffix parts report.columnExpressions :
      Audited Refusal (List Layout.Field)).result = .ok _ := Layout.result_project _ _ _
  rw [compile, Audited.records_bind_ok _ made, Audited.records_bind_ok _ projected,
    Layout.records_project]
  rfl

theorem records_compile_of_error {refusal : Refusal}
    (failed : (queries options report).result = .error refusal) :
    (compile options report).records = (queries options report).records := by
  rw [compile, Audited.records_bind_error _ failed]

/-- The section of substitutions is told of where the document does not say anything of it. -/
theorem sectionRecords_eq (options : Options) (report : Report) (output : Output) :
    sectionRecords options report =
      if (Emitted.ofCompiled options report output).substitutions.isNone then
        [.omittedSubstitutions] else [] := by
  rw [sectionRecords, Emitted.substitutions?_eq_section, Emitted.ofCompiled]
  cases Emitted.shownSubstitutions? options.substitutions report.substitutions <;> rfl

end Compile

/-- Each item of a raw part is kept, in its order, or told of by one record; a value that is its
own name is both. Behind the records of the raw parts stand those of the keys that the layout
does not show, and one if the markup has no section of substitutions. A report that is refused
has nothing told of but its raw parts up to the slot that is. -/
theorem compile_records (options : Options) (report : Report) :
    (∀ {output : Compile.Output}, (compile options report).result = .ok output →
      ∃ emitted told, Emitted.ofMarkup? output.markup = some emitted ∧
        List.Forall₂ KeepsItems report.queries.entries output.queries.entries ∧
        List.Forall₂ Tells report.queries.entries told ∧
        output.layout =
          (Layout.places options.sortSuffix output.queries).filterMap Sum.getLeft? ++
            Layout.dataFields report.columnExpressions ∧
        (compile options report).records =
          told.flatten ++
            (Layout.places options.sortSuffix output.queries).filterMap Sum.getRight? ++
            if emitted.substitutions.isNone then [.omittedSubstitutions] else []) ∧
      ∀ {refusal : Refusal}, (compile options report).result = .error refusal →
        ∃ front entry back told last, report.queries.entries = front ++ entry :: back ∧
          (∀ earlier ∈ front, Admissible options.positional earlier.2) ∧
          Refused options.positional entry.1 entry.2 refusal ∧
          List.Forall₂ Tells front told ∧ TellsUpTo entry refusal last ∧
          (compile options report).records = told.flatten ++ last ∧
          ∀ record ∈ (compile options report).records,
            record.stage = "querydef::normalize" := by
  constructor
  · intro output compiled
    obtain ⟨parts, made, rfl⟩ := Compile.result_compile_eq_ok_iff.1 compiled
    have normalized := result_normalizeAll_eq_ok_iff.1 made
    obtain ⟨told, each, records⟩ := Compile.records_queries_of_ok made
    refine ⟨_, told, Emitted.ofMarkup?_outputOf options report parts,
      normalized.imp fun _ _ each => each.keepsItems, each, Layout.fields_eq_places _ _ _, ?_⟩
    rw [Compile.records_compile_of_ok made, records,
      Compile.sectionRecords_eq options report (Compile.outputOf options report parts),
      ← List.append_assoc]
    rfl
  · intro refusal failed
    obtain ⟨front, entry, back, shape, admissible, refused⟩ :=
      Compile.result_compile_eq_error_iff.1 failed
    rw [Compile.result_compile, map_eq_error_iff] at failed
    obtain ⟨told, each, records⟩ := records_normalizeEntries_append admissible (entry :: back)
    have last := tellsUpTo_normalizeEntries_cons refused back
    rw [← shape] at records
    have whole := Compile.records_compile_of_error failed
    rw [Compile.queries, records_normalizeAll, records] at whole
    refine ⟨front, entry, back, told, _, shape, admissible, refused, each, last, whole, ?_⟩
    intro record member
    rw [whole, List.mem_append] at member
    exact member.elim (stage_of_mem_flatten each) last.stage

/-- Raw parts with items of every fate, the first of them short. -/
def auditedParts : List (String × Value) := [
  ("first", .array [.null, .array [
    .string "a=b", .string "c", .null, .string "uniqueKey=d", .string "=e=f"]]),
  ("second", .object [("Values", .array [
    .string "", .string "g", .bool true, .string "h=i", .string "=j"])])]

def auditedReport : Report where
  server := some { queries := .ofList auditedParts }

/-- The same report with a part behind the others whose values are no list. -/
def unreadReport : Report where
  server := some { queries := .ofList (auditedParts ++ [
    ("third", .object [("keys", .array [.string "k"]), ("values", .string "l=m")])]) }

theorem compile_records_auditedReport :
    (∃ output, (compile {} auditedReport).result = .ok output ∧
      (compile {} auditedReport).records = [
        .shortPart "first" 2, .skippedItem "first" .null .keys, .droppedKey "first" "c",
        .droppedKey "first" "=e=f", .skippedItem "second" .boolean .values,
        .droppedValue "second", .ownAlias "second" "g", .ownAlias "second" "=j",
        .excludedKey "uniqueKey" "first", .omittedSubstitutions]) ∧
      ∃ refusal, (compile {} unreadReport).result = .error refusal ∧
        .droppedKey "third" "k" ∈ (compile {} unreadReport).records ∧
        ∀ record ∈ (compile {} unreadReport).records, record.stage = "querydef::normalize" := by
  constructor
  · obtain ⟨parts, made⟩ : ∃ parts, (Compile.queries {} auditedReport).result = .ok parts :=
      ⟨_, rfl⟩
    have compiled := Compile.result_compile_eq_ok_iff.2 ⟨parts, made, rfl⟩
    obtain ⟨emitted, told, read, -, each, -, records⟩ :=
      (compile_records {} auditedReport).1 compiled
    obtain _ | ⟨⟨first, array, rfl⟩, _ | ⟨⟨second, object, rfl⟩, ⟨⟩⟩⟩ := each
    obtain rfl := supplies_array_iff.1 array
    obtain rfl := supplies_object_iff.1 object
    refine ⟨_, compiled, records.trans ?_⟩
    rw [Emitted.ofMarkup?_outputOf] at read
    cases read
    cases made
    decide
  · have failed : (compile {} unreadReport).result =
        .error (.fieldShape "third" .values .string) := rfl
    obtain ⟨front, entry, back, told, last, -, -, -, -, -, -, stages⟩ :=
      (compile_records {} unreadReport).2 failed
    exact ⟨_, failed, by decide, stages⟩

end QueryGroup
