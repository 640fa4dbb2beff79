import QueryGroup.Proofs.Canonical
import QueryGroup.Proofs.Fidelity
import QueryGroup.Proofs.SectionTexts
set_option autoImplicit false

namespace QueryGroup

open Json Markup Query

/-- Values that are made anew keep their names, so none of them is merged with another. -/
theorem OrderedMap.entries_ofList_map {α β : Type} (map : OrderedMap α)
    {build : String × α → String × β} (named : ∀ entry, (build entry).1 = entry.1) :
    (ofList (map.entries.map build)).entries = map.entries.map build := by
  apply entries_ofList_of_nodup
  have keys : Assoc.keys (map.entries.map build) = map.keys := by
    simp [Assoc.keys, OrderedMap.keys, named]
  rw [keys]
  exact map.distinct

namespace EmittedQuery

variable {part : Part}

/-- What a definition shows of a canonical part is canonical. -/
theorem isCanonical_part (canonical : part.IsCanonical) (name : String) :
    (ofPart name part).part.IsCanonical where
  keys := by
    intro key member
    obtain ⟨original, kept, rfl⟩ := List.mem_map.1 member
    have unchanged := canonical.keys original (List.mem_filter.1 kept).1
    exact ⟨unchanged.named, unchanged.uncut⟩
  values := canonical.values
  filter := by
    by_cases empty : part.filter.isEmpty = true
    · simp only [EmittedQuery.part, ofPart, empty, if_true, Option.getD_none]
      rfl
    · simp only [EmittedQuery.part, ofPart, empty, Bool.false_eq_true, if_false, Option.getD_some]
      exact canonical.filter

/-- What can be seen of a query that a definition shows: no row keys, and every date cast. -/
structure IsShown (query : EmittedQuery) : Prop where
  keys : ∀ key ∈ query.keys, ¬ IsRowKeyName key.name ∧
    Tenor.castReportDate key.expression = key.expression
  filter : query.filter ≠ some ""

theorem isShown_ofPart (name : String) (part : Part) : (ofPart name part).IsShown where
  keys := by
    intro key member
    obtain ⟨original, kept, rfl⟩ := List.mem_map.1 member
    exact ⟨of_decide_eq_true (List.mem_filter.1 kept).2, Tenor.castReportDate_castReportDate original.expression⟩
  filter := by
    by_cases empty : part.filter = ""
    · simp [ofPart, empty]
    · simp [ofPart, empty]

/-- A query that is shown is shown the same again. -/
theorem IsShown.ofPart_part {query : EmittedQuery} (shown : query.IsShown) :
    ofPart query.name query.part = query := by
  rcases query with ⟨name, keys, values, filter⟩
  have kept : (keys.filter fun key => ¬ IsRowKeyName key.name) = keys :=
    List.filter_eq_self.2 fun key member => decide_eq_true (shown.keys key member).1
  have cast : keys.map (fun key => { key with expression := Tenor.castReportDate key.expression }) =
      keys := by
    refine (List.map_congr_left ?_).trans (List.map_id keys)
    intro key member
    rw [(shown.keys key member).2]
    rfl
  simp only [ofPart, EmittedQuery.part, kept, cast]
  cases filter with
  | none => rfl
  | some text =>
      have nonempty : text ≠ "" := fun empty => shown.filter (empty ▸ rfl)
      simp [nonempty]

end EmittedQuery

theorem isCanonical_of_normalizes {policy : PositionalPolicy} {raws : List (String × Value)}
    {parts : List (String × Part)} (normalized : List.Forall₂ (Normalizes policy) raws parts) :
    ∀ entry ∈ parts, entry.2.IsCanonical := by
  induction normalized with
  | nil => simp
  | cons first _ ih =>
      rw [List.forall_mem_cons]
      exact ⟨isCanonical_of_normalize first.2, ih⟩

namespace Emitted

/-- A query's name and the part that its definition shows. -/
def shownPart (entry : String × Part) : String × Part :=
  (entry.1, (EmittedQuery.ofPart entry.1 entry.2).part)

/-- The parts as a document shows them. -/
def shownParts (parts : OrderedMap Part) : OrderedMap Part :=
  .ofList (parts.entries.map shownPart)

theorem entries_shownParts (parts : OrderedMap Part) :
    (shownParts parts).entries = parts.entries.map shownPart :=
  OrderedMap.entries_ofList_map parts fun _ => rfl

section

variable (options : Options) (report : Report) (parts : OrderedMap Part) (shape : String → Shape)

/-- The report that is built from what the document of the parts says. -/
def reread : Report :=
  (ofCompiled options report (Compile.outputOf options report parts)).toReport shape

theorem columnExpressions_reread :
    (reread options report parts shape).columnExpressions = report.columnExpressions :=
  OrderedMap.ofList_entries report.columnExpressions

theorem getD_shownSubstitutions? (policy : SubstitutionsPolicy) (list : List Substitution) :
    (shownSubstitutions? policy list).getD [] = list := by
  unfold shownSubstitutions?
  split
  · next hidden =>
    simp only [Bool.and_eq_true, List.isEmpty_iff] at hidden
    exact hidden.1.symm
  · rfl

theorem substitutions_reread :
    (reread options report parts shape).substitutions = report.substitutions := by
  have same : (reread options report parts shape).substitutions =
      (shownSubstitutions? options.substitutions report.substitutions).getD [] := by
    simp only [reread, toReport, Report.substitutions, ofCompiled]
    cases shownSubstitutions? options.substitutions
      ((report.client.map Client.textSubstitutions).getD []) <;> rfl
  rw [same, getD_shownSubstitutions?]

theorem entries_queries_reread :
    (reread options report parts shape).queries.entries =
      parts.entries.map fun entry => rawQuery shape (.ofPart entry.1 entry.2) := by
  have entries : (reread options report parts shape).queries =
      .ofList (parts.entries.map fun entry => rawQuery shape (.ofPart entry.1 entry.2)) := by
    simp only [reread, toReport, Report.queries, ofCompiled, Compile.outputOf, List.map_map]
    rfl
  rw [entries]
  exact OrderedMap.entries_ofList_map parts fun _ => rfl

/-- Every query that is read again normalizes to the part that was shown. -/
theorem normalizes_reread
    (normalized : List.Forall₂ (Normalizes options.positional) report.queries.entries
      parts.entries) :
    List.Forall₂ (Normalizes options.positional) (reread options report parts shape).queries.entries
      (shownParts parts).entries := by
  rw [entries_queries_reread, entries_shownParts, List.forall₂_map_left_iff,
    List.forall₂_map_right_iff, List.forall₂_same]
  intro entry member
  have canonical := isCanonical_of_normalizes normalized entry member
  exact ⟨rfl, (EmittedQuery.isCanonical_part canonical entry.1).result_normalize_shortItem _⟩

end

theorem queries_shownParts (parts : OrderedMap Part) :
    Sections.queries (shownParts parts) = Sections.queries parts := by
  rw [queries_eq_section, queries_eq_section, entries_shownParts, List.map_map]
  apply congrArg sectionOfQueries
  apply List.map_congr_left
  intro entry _
  exact (EmittedQuery.isShown_ofPart entry.1 entry.2).ofPart_part

/-- No key of the first query is a row key with a name of its own. -/
def PlainRowKeys (parts : OrderedMap Part) : Prop :=
  ∀ entry, parts.first? = some entry → ∀ key ∈ entry.2.keys,
    IsRowKeyName key.name → key.name = "uniqueKey"

theorem isLayoutAlias_uniqueKey (suffix : String) :
    Layout.isLayoutAlias suffix "uniqueKey" = false := by
  have metadata : Layout.isMetadata "uniqueKey" = true := by decide
  simp only [Layout.isLayoutAlias, metadata, Bool.true_or, Bool.not_true]

/-- The layout needs no row key that is named just so. -/
theorem keyFields_ofPart (suffix name : String) {part : Part}
    (plain : ∀ key ∈ part.keys,
      IsRowKeyName key.name → key.name = "uniqueKey") :
    Layout.keyFields suffix (EmittedQuery.ofPart name part).part =
      Layout.keyFields suffix part := by
  have same : (part.keys.filter fun key => ¬ IsRowKeyName key.name).filter
      (fun key => Layout.isLayoutAlias suffix key.name) =
        part.keys.filter fun key => Layout.isLayoutAlias suffix key.name := by
    rw [List.filter_filter]
    apply List.filter_congr
    intro key member
    by_cases rowKey : IsRowKeyName key.name
    · rw [plain key member rowKey, isLayoutAlias_uniqueKey, Bool.false_and]
    · simp [rowKey]
  simp only [Layout.keyFields, EmittedQuery.part, EmittedQuery.ofPart, List.filter_map,
    List.map_map]
  exact congrArg (List.map fun key : Aliased => Layout.Field.key key.name) same

theorem fields_shownParts (suffix : String) {parts : OrderedMap Part}
    (plain : PlainRowKeys parts) (expressions : OrderedMap String) :
    Layout.fields suffix (shownParts parts) expressions =
      Layout.fields suffix parts expressions := by
  have first : (shownParts parts).first? = parts.first?.map shownPart := by
    rw [OrderedMap.first?, entries_shownParts, List.head?_map]
    rfl
  unfold Layout.fields
  rw [first]
  cases present : parts.first? with
  | none => rfl
  | some entry =>
      have keys := keyFields_ofPart suffix entry.1 (plain entry present)
      simp only [Option.map_some, Option.elim_some, shownPart, keys]

end Emitted

/-- Compiling what was read from a document, each query in either shape, succeeds and writes
the same sections, except perhaps for the layout; and it writes the same document, if the
first query has no row keys but those named just so. -/
theorem compile_reread {options : Options} {report : Report} {output : Compile.Output}
    (compiled : (compile options report).result = .ok output) (shape : String → Shape) :
    ∃ emitted again, Emitted.ofMarkup? output.markup = some emitted ∧
      (compile options (emitted.toReport shape)).result = .ok again ∧
      let before := SectionTexts.ofCompiled options report output
      let after := SectionTexts.ofCompiled options (emitted.toReport shape) again
      output.markup = before.document ∧ again.markup = after.document ∧
        after.expressions = before.expressions ∧ after.queries = before.queries ∧
        after.substitutions = before.substitutions ∧
        (Emitted.PlainRowKeys output.queries → again.markup = output.markup) := by
  obtain ⟨parts, normalized, rfl⟩ := Compile.compiled_iff.1 compiled
  have recompiled := Compile.compiled_iff.2
    ⟨_, Emitted.normalizes_reread options report parts shape normalized, rfl⟩
  have columns := Emitted.columnExpressions_reread options report parts shape
  have menus := Emitted.substitutions_reread options report parts shape
  have written := SectionTexts.markup_outputOf options report parts
  have writtenAgain := SectionTexts.markup_outputOf options
    (Emitted.reread options report parts shape) (Emitted.shownParts parts)
  have expressions := congrArg (fun map => sectionText (Sections.columnExpressions map)) columns
  have queries := congrArg sectionText (Emitted.queries_shownParts parts)
  have substitutions := congrArg (fun list =>
    (Sections.substitutions? options.substitutions list).elim "" sectionText) menus
  refine ⟨_, _, Emitted.ofMarkup?_outputOf options report parts, recompiled, written,
    writtenAgain, expressions, queries, substitutions, ?_⟩
  intro plain
  have fields := Emitted.fields_shownParts options.sortSuffix plain
    (Emitted.reread options report parts shape).columnExpressions
  have layout := congrArg (fun shown => sectionText (Sections.layout shown))
    (fields.trans (congrArg (Layout.fields options.sortSuffix parts) columns))
  have same : SectionTexts.ofCompiled options (Emitted.reread options report parts shape)
      (Compile.outputOf options (Emitted.reread options report parts shape)
        (Emitted.shownParts parts)) =
      SectionTexts.ofCompiled options report (Compile.outputOf options report parts) :=
    SectionTexts.ext expressions layout queries substitutions
  exact (writtenAgain.trans (congrArg SectionTexts.document same)).trans written.symm

/-- A report with a row key of its own name behind the first query, a date to cast, a filter
to trim and values that are and are not cut. -/
def tenorReport : Report where
  server := some {
    columnExpressions := .ofList [("Total", "SUM(amount)")]
    queries := .ofList [
      ("main", .object [
        ("keys", .array [.string "uniqueKey=id", .string "tenor=DateToTenor(REPORT_DATE)"]),
        ("values", .array [.string "=", .string "amount", .string "a=a", .string "b=c=d"]),
        ("filter", .string " x > 1\n")]),
      ("other", .array [.null, .array [.string "uniqueKeyOfRow=id"]])] }

theorem compile_reread_tenorReport :
    ∃ output, (compile {} tenorReport).result = .ok output ∧
      Emitted.PlainRowKeys output.queries ∧
      ∃ emitted again, Emitted.ofMarkup? output.markup = some emitted ∧
        (compile {} (emitted.toReport fun _ => .positional)).result = .ok again ∧
        again.markup = output.markup := by
  obtain ⟨output, compiled, plain⟩ : ∃ output, (compile {} tenorReport).result = .ok output ∧
      Emitted.PlainRowKeys output.queries := by
    refine ⟨_, rfl, ?_⟩
    rintro entry ⟨⟩
    decide
  obtain ⟨emitted, again, read, recompiled, -, -, -, -, -, same⟩ :=
    compile_reread compiled fun _ => .positional
  exact ⟨output, compiled, plain, emitted, again, read, recompiled, same plain⟩

end QueryGroup
