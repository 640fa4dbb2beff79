import QueryGroup.Report.Decode
import QueryGroup.Report.Encode
set_option autoImplicit false

namespace QueryGroup

open Json

namespace Document

open Decoder

variable {α σ : Type} {inner : Decoder α} {write : α → Value}

theorem ofValue_any {value : Value} (distinct : value.Distinct) :
    Decoder.any.ofValue value = .ok value := by
  have read : (Tree.ofValue value).toValue? Context.ofValue.room = some value :=
    Tree.toValue?_ofValue value distinct
  rw [Decoder.ofValue, Decoder.any, read]

theorem ofValue_optional {value : Value} (present : value ≠ .null) :
    (Decoder.optional inner).ofValue value = (inner.ofValue value).map some := by
  cases value with
  | null => exact absurd rfl present
  | bool | number | string | array | object => rfl

theorem ofValue_orDefault [Inhabited α] {value : Value} (present : value ≠ .null) :
    (Decoder.orDefault inner).ofValue value = inner.ofValue value := by
  cases value with
  | null => exact absurd rfl present
  | bool | number | string | array | object => rfl

theorem ofValue_list {list : List α} (read : ∀ a ∈ list, inner.ofValue (write a) = .ok a) :
    (Decoder.list inner).ofValue (.array (list.map write)) = .ok list := by
  show Decoder.items inner .ofValue (Tree.ofItems (list.map write)) = .ok list
  induction list with
  | nil => rfl
  | cons a rest ih =>
      obtain ⟨first, others⟩ := List.forall_mem_cons.1 read
      have here : inner .ofValue (Tree.ofValue (write a)) = .ok a := first
      rw [List.map_cons, Tree.ofItems, Decoder.items, here, ih others]
      rfl

theorem pairs_ofMembers {entries : List (String × α)}
    (read : ∀ entry ∈ entries, inner.ofValue (write entry.2) = .ok entry.2) :
    Decoder.pairs inner .ofValue
      (Tree.ofMembers (entries.map fun entry => (entry.1, write entry.2))) = .ok entries := by
  induction entries with
  | nil => rfl
  | cons entry rest ih =>
      obtain ⟨first, others⟩ := List.forall_mem_cons.1 read
      have here : inner .ofValue (Tree.ofValue (write entry.2)) = .ok entry.2 := first
      rw [List.map_cons, Tree.ofMembers, Decoder.pairs, here, ih others]
      rfl

/-- The names of a map are distinct, so that reading merges nothing. -/
theorem ofValue_map {map : OrderedMap α}
    (read : ∀ entry ∈ map.entries, inner.ofValue (write entry.2) = .ok entry.2) :
    (Decoder.map inner).ofValue
      (.object (map.entries.map fun entry => (entry.1, write entry.2))) = .ok map := by
  have pairs := pairs_ofMembers read
  show (Decoder.pairs inner .ofValue _).bind (fun entries => .ok (OrderedMap.ofList entries)) = _
  rw [pairs]
  exact congrArg Except.ok (OrderedMap.ofList_entries map)

/-- A member that is read goes to its field, and the others are read after it. -/
theorem members_ofMembers_cons {fields : List (RecordField σ)} {set : σ → α → σ} {name : String}
    {value : Value} {a : α}
    (known : (fields.find? fun field => field.name == name) = some (.of name inner set))
    (read : inner.ofValue value = .ok a) {seen : List String} (fresh : name ∉ seen) (record : σ)
    (rest : List (String × Value)) :
    members fields .ofValue seen record (Tree.ofMembers ((name, value) :: rest)) =
      members fields .ofValue (name :: seen) (set record a) (Tree.ofMembers rest) := by
  have here : inner .ofValue (Tree.ofValue value) = .ok a := read
  rw [Tree.ofMembers, members, known]
  simp only [if_neg fresh, RecordField.of, here]
  rfl

/-- A member that is left out where it is absent comes to the same field, read or not. -/
theorem members_ofMembers_presentMember {fields : List (RecordField σ)} {set : σ → Option α → σ}
    {name : String} {held : Option α} {record : σ}
    (known : (fields.find? fun field => field.name == name) =
      some (.of name (Decoder.optional inner) set))
    (read : ∀ a ∈ held, inner.ofValue (write a) = .ok a) (present : ∀ a, write a ≠ .null)
    (unset : set record none = record) {seen : List String} (fresh : name ∉ seen)
    (rest : List (String × Value)) :
    members fields .ofValue seen record
        (Tree.ofMembers (presentMember name (held.map write) ++ rest)) =
      members fields .ofValue (if held.isSome then name :: seen else seen) (set record held)
        (Tree.ofMembers rest) := by
  cases held with
  | none =>
      rw [unset]
      rfl
  | some a =>
      have here : (Decoder.optional inner).ofValue (write a) = .ok (some a) := by
        rw [ofValue_optional (present a), read a rfl]
        rfl
      exact members_ofMembers_cons known here fresh record rest

end Document

open Document

theorem MenuEntry.decoder_toValue (entry : MenuEntry) :
    MenuEntry.decoder.ofValue entry.toValue = .ok entry := by
  have name : Decoder.string.ofValue (.string entry.displayName) = .ok entry.displayName := rfl
  have text : Decoder.string.ofValue (.string entry.substitutionText) =
      .ok entry.substitutionText := rfl
  show Decoder.members fields .ofValue [] {} (Tree.ofMembers _) = _
  rw [members_ofMembers_cons rfl name (by simp), members_ofMembers_cons rfl text (by simp)]
  rfl

theorem Substitution.decoder_toValue (substitution : Substitution) :
    Substitution.decoder.ofValue substitution.toValue = .ok substitution := by
  have token : Decoder.string.ofValue (.string substitution.token) = .ok substitution.token := rfl
  have description : Decoder.string.ofValue (.string substitution.description) =
      .ok substitution.description := rfl
  have multi : Decoder.bool.ofValue (.bool substitution.multi) = .ok substitution.multi := rfl
  have entries : (Decoder.orDefault (Decoder.list MenuEntry.decoder)).ofValue
      (.array (substitution.entries.map MenuEntry.toValue)) = .ok substitution.entries := by
    rw [ofValue_orDefault (by simp)]
    exact ofValue_list fun entry _ => MenuEntry.decoder_toValue entry
  show Decoder.members fields .ofValue [] {} (Tree.ofMembers _) = _
  rw [members_ofMembers_cons rfl token (by simp), members_ofMembers_cons rfl description (by simp),
    members_ofMembers_cons rfl multi (by simp), members_ofMembers_cons rfl entries (by simp)]
  rfl

theorem Server.decoder_toValue {server : Server}
    (distinct : ∀ query ∈ server.queries.entries, query.2.Distinct) :
    Server.decoder.ofValue server.toValue = .ok server := by
  have expressions : (Decoder.orDefault (Decoder.map Decoder.string)).ofValue
      (.object (server.columnExpressions.entries.map fun pair => (pair.1, .string pair.2))) =
        .ok server.columnExpressions := by
    rw [ofValue_orDefault (by simp)]
    exact ofValue_map fun pair _ => rfl
  have queries : (Decoder.orDefault (Decoder.map Decoder.any)).ofValue
      (.object server.queries.entries) = .ok server.queries := by
    have read : (Decoder.map Decoder.any).ofValue
        (.object (server.queries.entries.map fun query => (query.1, id query.2))) =
          .ok server.queries :=
      ofValue_map fun query member => ofValue_any (distinct query member)
    have same : (server.queries.entries.map fun query => (query.1, id query.2)) =
        server.queries.entries := List.map_id _
    rw [ofValue_orDefault (by simp), ← same, read]
  show Decoder.members fields .ofValue [] {} (Tree.ofMembers _) = _
  rw [members_ofMembers_cons rfl expressions (by simp),
    members_ofMembers_cons rfl queries (by simp)]
  rfl

theorem Client.decoder_toValue (client : Client) :
    Client.decoder.ofValue client.toValue = .ok client := by
  have substitutions : (Decoder.orDefault (Decoder.list Substitution.decoder)).ofValue
      (.array (client.textSubstitutions.map Substitution.toValue)) =
        .ok client.textSubstitutions := by
    rw [ofValue_orDefault (by simp)]
    exact ofValue_list fun substitution _ => Substitution.decoder_toValue substitution
  show Decoder.members fields .ofValue [] {} (Tree.ofMembers _) = _
  rw [members_ofMembers_cons rfl substitutions (by simp)]
  rfl

namespace Report

variable {report : Report}

theorem Distinct.of_server (distinct : report.Distinct) {server : Server}
    (held : report.server = some server) : ∀ query ∈ server.queries.entries, query.2.Distinct := by
  rw [Distinct, queries, held] at distinct
  exact distinct

theorem decoder_toValue (distinct : report.Distinct) :
    Report.decoder.ofValue report.toValue = .ok report := by
  have version : ∀ text ∈ report.version, Decoder.string.ofValue (.string text) = .ok text :=
    fun text _ => rfl
  have server : ∀ server ∈ report.server, Server.decoder.ofValue server.toValue = .ok server :=
    fun server held => Server.decoder_toValue (distinct.of_server held)
  have client : ∀ client ∈ report.client, Client.decoder.ofValue client.toValue = .ok client :=
    fun client _ => client.decoder_toValue
  show Decoder.members fields .ofValue [] {} (Tree.ofMembers (_ ++ _ ++ _)) = _
  rw [List.append_assoc,
    members_ofMembers_presentMember rfl version (by simp) rfl (by simp),
    members_ofMembers_presentMember rfl server (by simp [Server.toValue]) rfl (by split <;> simp),
    ← List.append_nil (presentMember "client" _),
    members_ofMembers_presentMember rfl client (by simp [Client.toValue]) rfl
      (by split <;> split <;> simp)]
  rfl

end Report

section

variable {α : Type} {write : α → Value} (name : String) {held : Option α}

theorem keys_presentMember_sublist (held : Option Value) :
    (Assoc.keys (presentMember name held)).Sublist [name] := by
  cases held <;> simp [presentMember]

theorem distinct_presentMember (distinct : ∀ a ∈ held, (write a).Distinct) :
    ∀ member ∈ presentMember name (held.map write), member.2.Distinct := by
  cases held with
  | none => simp [presentMember]
  | some a => simpa [presentMember] using distinct

end

theorem MenuEntry.distinct_toValue (entry : MenuEntry) : entry.toValue.Distinct := by
  simp [toValue, Value.Distinct, Value.DistinctMembers]

theorem Substitution.distinct_toValue (substitution : Substitution) :
    substitution.toValue.Distinct := by
  simp [toValue, Value.Distinct, Value.DistinctMembers, Value.distinctItems_iff,
    MenuEntry.distinct_toValue]

theorem Client.distinct_toValue (client : Client) : client.toValue.Distinct := by
  simp [toValue, Value.Distinct, Value.DistinctMembers, Value.distinctItems_iff,
    Substitution.distinct_toValue]

theorem Server.distinct_toValue {server : Server}
    (distinct : ∀ query ∈ server.queries.entries, query.2.Distinct) :
    server.toValue.Distinct := by
  have expressions : (Value.object (server.columnExpressions.entries.map fun pair =>
      (pair.1, .string pair.2))).Distinct := by
    have names := server.columnExpressions.distinct
    rw [Value.Distinct, Value.distinctMembers_iff, List.forall_mem_map]
    exact ⟨by simpa [Assoc.keys, Function.comp_def] using names, by simp [Value.Distinct]⟩
  have queries : (Value.object server.queries.entries).Distinct := by
    rw [Value.Distinct, Value.distinctMembers_iff]
    exact ⟨server.queries.distinct, distinct⟩
  rw [toValue, Value.Distinct, Value.distinctMembers_iff]
  simp [expressions, queries]

/-- What is written repeats no name. -/
theorem Report.distinct_toValue {report : Report} (distinct : report.Distinct) :
    report.toValue.Distinct := by
  rw [toValue, Value.Distinct, Value.distinctMembers_iff]
  constructor
  · have names := ((keys_presentMember_sublist "version" (report.version.map .string)).append
      (keys_presentMember_sublist "server" (report.server.map Server.toValue))).append
      (keys_presentMember_sublist "client" (report.client.map Client.toValue))
    rw [← Assoc.keys_append, ← Assoc.keys_append] at names
    exact names.nodup (by decide)
  · rw [List.forall_mem_append, List.forall_mem_append]
    refine ⟨⟨?_, ?_⟩, ?_⟩
    · exact distinct_presentMember _ fun text _ => by simp [Value.Distinct]
    · exact distinct_presentMember _ fun server held =>
        Server.distinct_toValue (distinct.of_server held)
    · exact distinct_presentMember _ fun client _ => client.distinct_toValue

/-- A report that was written is read back as it was, every list and map in its order and every
part that was absent still absent; written again it is the same value, and one that repeats no
name. -/
theorem Report.ofValue_toValue {report : Report} (distinct : report.Distinct) :
    Report.ofValue report.toValue = .ok report ∧
      (Report.ofValue report.toValue).map Report.toValue = .ok report.toValue ∧
      report.toValue.Distinct := by
  have read : Report.ofValue report.toValue = .ok report := decoder_toValue distinct
  refine ⟨read, ?_, distinct_toValue distinct⟩
  rw [read]
  rfl

/-- A report without a version, with maps that are not in the order of their names, a raw part that
is null, one that holds nulls and empty containers, and a client part that is there but empty. -/
def sparseReport : Report where
  server := some {
    columnExpressions := .ofList [("z", "1"), ("a", "")]
    queries := .ofList [
      ("null", .null),
      ("array", .array [.null, .array [.string "k=v"], .object [], .number (.integer 0)]),
      ("object", .object [("meta", .object [("b", .null), ("a", .array [])])])] }
  client := some {}

theorem Report.ofValue_toValue_sparseReport :
    sparseReport.Distinct ∧ Report.ofValue sparseReport.toValue = .ok sparseReport ∧
      (Report.ofValue sparseReport.toValue).map Report.toValue = .ok sparseReport.toValue ∧
      sparseReport.toValue.Distinct := by
  have distinct : sparseReport.Distinct := by
    have entries : sparseReport.queries.entries = [
        ("null", .null),
        ("array", .array [.null, .array [.string "k=v"], .object [], .number (.integer 0)]),
        ("object", .object [("meta", .object [("b", .null), ("a", .array [])])])] := rfl
    rw [Report.Distinct, entries]
    simp [Value.Distinct, Value.DistinctItems, Value.DistinctMembers]
  exact ⟨distinct, Report.ofValue_toValue distinct⟩

end QueryGroup
