import Mathlib.Logic.Relation
import QueryGroup.Compile
import QueryGroup.Proofs.RecordEdits
set_option autoImplicit false

namespace QueryGroup

open Document Json

open Document.Decoder (Tolerant)

/-- Edits of an entry of a menu: unknown members only. -/
def MenuEntry.Edit : Value → Value → Prop :=
  RecordEdit ["displayName", "substitutionText"] [] fun _ _ _ => False

/-- Edits of a substitution and of the entries of its menu. -/
def Substitution.Edit : Value → Value → Prop :=
  RecordEdit ["token", "description", "multi", "substitutionElements"] ["substitutionElements"]
    fun name old new => name = "substitutionElements" ∧ ListEdit MenuEntry.Edit old new

/-- Edits of a server part, not of what it maps names to. -/
def Server.Edit : Value → Value → Prop :=
  RecordEdit ["columnExpressions", "queries"] ["columnExpressions", "queries"] fun _ _ _ => False

/-- Edits of a client part and of its substitutions. -/
def Client.Edit : Value → Value → Prop :=
  RecordEdit ["textSubstitutions"] ["textSubstitutions"]
    fun name old new => name = "textSubstitutions" ∧ ListEdit Substitution.Edit old new

/-- Edits of a report and of its parts; a part that is null may be an empty one as well. -/
inductive Report.Edit : Value → Value → Prop
  | record {old new : Value}
      (edit : RecordEdit ["version", "server", "client"] ["version", "server", "client"]
        (fun name old new => name = "server" ∧ Server.Edit old new ∨
          name = "client" ∧ Client.Edit old new) old new) :
      Edit old new
  | empty (front back : List (String × Value)) {name : String}
      (part : name = "server" ∨ name = "client") :
      Edit (.object (front ++ (name, .null) :: back))
        (.object (front ++ (name, .object []) :: back))

theorem MenuEntry.tolerant :
    Tolerant fields {} ["displayName", "substitutionText"] [] fun _ _ _ => False where
  named := rfl
  apart := by
    simp only [fields, List.pairwise_cons, List.forall_mem_cons]
    exact ⟨⟨RecordField.apart_of_commute fun _ _ _ => rfl, List.forall_mem_nil _⟩,
      List.forall_mem_nil _, .nil⟩
  unset := nofun
  alike := nofun

theorem MenuEntry.ofValue_of_edit {old new : Value} (edit : MenuEntry.Edit old new) :
    MenuEntry.decoder.ofValue old = MenuEntry.decoder.ofValue new :=
  tolerant.ofValue_record _ edit

theorem Substitution.tolerant :
    Tolerant fields {} ["token", "description", "multi", "substitutionElements"]
      ["substitutionElements"]
      fun name old new => name = "substitutionElements" ∧ ListEdit MenuEntry.Edit old new where
  named := rfl
  apart := by
    simp only [fields, List.pairwise_cons, List.forall_mem_cons]
    refine ⟨⟨?_, ?_, ?_, List.forall_mem_nil _⟩, ⟨?_, ?_, List.forall_mem_nil _⟩,
      ⟨?_, List.forall_mem_nil _⟩, List.forall_mem_nil _, .nil⟩
    all_goals exact RecordField.apart_of_commute fun _ _ _ => rfl
  unset := by
    simp only [fields, List.forall_mem_cons]
    refine ⟨?_, ?_, ?_, fun _ => rfl, List.forall_mem_nil _⟩
    all_goals simp [RecordField.of]
  alike := by
    simp only [fields, List.forall_mem_cons]
    refine ⟨?_, ?_, ?_, ?_, List.forall_mem_nil _⟩
    pick_goal 4
    · rintro old new ⟨-, edit⟩ record
      apply RecordField.read_of_congr
      exact Decoder.ofValue_orDefault_congr edit.present
        (Decoder.ofValue_list_of_edit MenuEntry.ofValue_of_edit edit)
    all_goals
      rintro old new ⟨other, -⟩
      exact absurd other (by decide)

theorem Substitution.ofValue_of_edit {old new : Value} (edit : Substitution.Edit old new) :
    Substitution.decoder.ofValue old = Substitution.decoder.ofValue new :=
  tolerant.ofValue_record _ edit

theorem Server.tolerant :
    Tolerant fields {} ["columnExpressions", "queries"] ["columnExpressions", "queries"]
      fun _ _ _ => False where
  named := rfl
  apart := by
    simp only [fields, List.pairwise_cons, List.forall_mem_cons]
    exact ⟨⟨RecordField.apart_of_commute fun _ _ _ => rfl, List.forall_mem_nil _⟩,
      List.forall_mem_nil _, .nil⟩
  unset := by
    simp only [fields, List.forall_mem_cons]
    exact ⟨fun _ => rfl, fun _ => rfl, List.forall_mem_nil _⟩
  alike := nofun

theorem Server.ofValue_of_edit {old new : Value} (edit : Server.Edit old new) :
    Server.decoder.ofValue old = Server.decoder.ofValue new :=
  tolerant.ofValue_record _ edit

theorem Client.tolerant :
    Tolerant fields {} ["textSubstitutions"] ["textSubstitutions"]
      fun name old new => name = "textSubstitutions" ∧ ListEdit Substitution.Edit old new where
  named := rfl
  apart := by
    simp only [fields, List.pairwise_cons]
    exact ⟨List.forall_mem_nil _, .nil⟩
  unset := by
    simp only [fields, List.forall_mem_cons]
    exact ⟨fun _ => rfl, List.forall_mem_nil _⟩
  alike := by
    simp only [fields, List.forall_mem_cons]
    refine ⟨?_, List.forall_mem_nil _⟩
    rintro old new ⟨-, edit⟩ record
    apply RecordField.read_of_congr
    exact Decoder.ofValue_orDefault_congr edit.present
      (Decoder.ofValue_list_of_edit Substitution.ofValue_of_edit edit)

theorem Client.ofValue_of_edit {old new : Value} (edit : Client.Edit old new) :
    Client.decoder.ofValue old = Client.decoder.ofValue new :=
  tolerant.ofValue_record _ edit

namespace Report

theorem tolerant :
    Tolerant fields {} ["version", "server", "client"] ["version", "server", "client"]
      fun name old new => name = "server" ∧ Server.Edit old new ∨
        name = "client" ∧ Client.Edit old new where
  named := rfl
  apart := by
    simp only [fields, List.pairwise_cons, List.forall_mem_cons]
    refine ⟨⟨?_, ?_, List.forall_mem_nil _⟩, ⟨?_, List.forall_mem_nil _⟩,
      List.forall_mem_nil _, .nil⟩
    all_goals exact RecordField.apart_of_commute fun _ _ _ => rfl
  unset := by
    simp only [fields, List.forall_mem_cons]
    exact ⟨fun _ => rfl, fun _ => rfl, fun _ => rfl, List.forall_mem_nil _⟩
  alike := by
    simp only [fields, List.forall_mem_cons]
    refine ⟨?_, ?_, ?_, List.forall_mem_nil _⟩
    · rintro old new (⟨other, -⟩ | ⟨other, -⟩)
      all_goals exact absurd other (by decide)
    · rintro old new (⟨-, edit⟩ | ⟨other, -⟩) record
      · apply RecordField.read_of_congr
        exact Decoder.ofValue_optional_congr edit.present (Server.ofValue_of_edit edit)
      · exact absurd other (by decide)
    · rintro old new (⟨other, -⟩ | ⟨-, edit⟩) record
      · exact absurd other (by decide)
      · apply RecordField.read_of_congr
        exact Decoder.ofValue_optional_congr edit.present (Client.ofValue_of_edit edit)

/-- The report with an empty part wherever it has none. -/
def filled (report : Report) : Report :=
  { report with server := some (report.server.getD {}), client := some (report.client.getD {}) }

theorem compile_filled (options : Options) (report : Report) :
    compile options report.filled = compile options report := by
  rcases report with ⟨version, _ | server, _ | client⟩ <;> rfl

/-- Reports that are the same when filled are still so when one of their fields is read. -/
theorem filled_respects :
    ∀ field ∈ fields, ∀ tree {report report' : Report}, report.filled = report'.filled →
      (field.read .ofValue tree report).map filled =
        (field.read .ofValue tree report').map filled := by
  simp only [fields, List.forall_mem_cons]
  refine ⟨?_, ?_, ?_, List.forall_mem_nil _⟩
  all_goals
    intro tree report report' same
    apply RecordField.map_view_read
    intro held
    simp only [filled, Report.mk.injEq] at same ⊢
    simp only [same, and_self]

theorem members_filled_empty {name : String} (part : name = "server" ∨ name = "client")
    (seen : List String) (report : Report) (back : List (String × Value)) :
    (Decoder.members fields .ofValue seen report
        (Tree.ofMembers ((name, .null) :: back))).map filled =
      (Decoder.members fields .ofValue seen report
        (Tree.ofMembers ((name, .object []) :: back))).map filled := by
  rcases part with rfl | rfl
  · have missing : (Decoder.optional Server.decoder).ofValue .null = .ok none := rfl
    have empty : (Decoder.optional Server.decoder).ofValue (.object []) = .ok (some {}) := rfl
    exact Decoder.members_cons_view filled_respects rfl missing empty (fun _ => rfl) seen report
      back
  · have missing : (Decoder.optional Client.decoder).ofValue .null = .ok none := rfl
    have empty : (Decoder.optional Client.decoder).ofValue (.object []) = .ok (some {}) := rfl
    exact Decoder.members_cons_view filled_respects rfl missing empty (fun _ => rfl) seen report
      back

theorem ofValue_filled_of_edit {old new : Value} (edit : Report.Edit old new) :
    (ofValue old).map filled = (ofValue new).map filled := by
  cases edit with
  | record edit => exact congrArg (Except.map filled) (tolerant.ofValue_record "ReportQuery" edit)
  | empty front back part =>
      refine Decoder.members_append_view filled (fun _ _ => True) ?_ ?_ trivial
      · intros
        trivial
      · intro seen report _
        exact members_filled_empty part seen report back

theorem ofObject_filled_of_edit {old new : Value} (edit : Report.Edit old new) :
    (ofObject old).map filled = (ofObject new).map filled := by
  have same := ofValue_filled_of_edit edit
  have object (members : List (String × Value)) : (ofObject (.object members)).map filled =
      ((ofValue (.object members)).map filled).mapError .invalidDocument := by
    show ((ofValue (.object members)).mapError CompileError.invalidDocument).map filled = _
    cases ofValue (.object members) <;> rfl
  cases edit with
  | empty => rw [object, object, same]
  | record edit =>
      cases edit with
      | item => rfl
      | unknown | null | member => rw [object, object, same]

end Report

theorem compileValue_eq (options : Options) (value : Value) :
    compileValue options value = (Report.ofObject value).map Report.filled >>= fun report =>
      ((compile options report).result.mapError .refused).map Compile.Output.markup := by
  rw [compileValue]
  cases Report.ofObject value with
  | error error => rfl
  | ok report =>
      show _ = ((compile options report.filled).result.mapError _).map _
      rw [Report.compile_filled]
      rfl

theorem compileValue_of_edit (options : Options) {old new : Value} (edit : Report.Edit old new) :
    compileValue options old = compileValue options new := by
  rw [compileValue_eq, compileValue_eq, Report.ofObject_filled_of_edit edit]

/-- What is missing, null or unknown is the same: values that any number of edits lead from one to
the other, forth or back, compile to the same markup or fail with the same error, under all
options. -/
theorem compileValue_of_edits {value value' : Value}
    (edits : Relation.EqvGen Report.Edit value value') (options : Options) :
    compileValue options value = compileValue options value' := by
  induction edits with
  | rel old new edit => exact compileValue_of_edit options edit
  | refl value => rfl
  | symm old new _ ih => exact ih.symm
  | trans first second third _ _ before behind => exact before.trans behind

def terseValue : Value :=
  .object [("client", .object [("textSubstitutions", .array [.object [("token", .string "t")]])]),
    ("server", .object [("queries", .null), ("comment", .bool true)])]

/-- The same substitution without a server part, but with a null at every depth and a member that
nothing reads. -/
def verboseValue : Value :=
  .object [("version", .null), ("$schema", .string "1"),
    ("client", .object [("textSubstitutions",
      .array [.object [("substitutionElements", .null), ("token", .string "t")]])])]

theorem edits_terseValue_verboseValue : Relation.EqvGen Report.Edit terseValue verboseValue := by
  have queries : Server.Edit (.object [("comment", .bool true)])
      (.object [("queries", .null), ("comment", .bool true)]) :=
    .null [] [_] (by simp) (by simp)
  have comment : Server.Edit (.object []) (.object [("comment", .bool true)]) :=
    .unknown [] [] _ (by simp)
  have elements : Substitution.Edit (.object [("token", .string "t")])
      (.object [("substitutionElements", .null), ("token", .string "t")]) :=
    .null [] [_] (by simp) (by simp)
  have client : Client.Edit
      (.object [("textSubstitutions", .array [.object [("token", .string "t")]])])
      (.object [("textSubstitutions",
        .array [.object [("substitutionElements", .null), ("token", .string "t")]])]) :=
    .member [] [] ⟨rfl, .item [] [] elements⟩
  have schema : "$schema" ∉ ["version", "server", "client"] := by simp
  -- The server part loses its members, is null then and at last missing.
  refine .trans _ _ _ (.symm _ _ (.rel _ _ (.record (.member [_] [] (.inl ⟨rfl, queries⟩))))) ?_
  refine .trans _ _ _ (.symm _ _ (.rel _ _ (.record (.member [_] [] (.inl ⟨rfl, comment⟩))))) ?_
  refine .trans _ _ _ (.symm _ _ (.rel _ _ (.empty [_] [] (.inl rfl)))) ?_
  refine .trans _ _ _ (.symm _ _ (.rel _ _ (.record (.null [_] [] (by simp) (by simp))))) ?_
  refine .trans _ _ _ (.rel _ _ (.record (.member [] [] (.inr ⟨rfl, client⟩)))) ?_
  refine .trans _ _ _ (.rel _ _ (.record (.unknown [] [_] (.string "1") schema))) ?_
  exact .rel _ _ (.record (.null [] [_, _] (by simp) (by simp)))

theorem compileValue_of_edits_terseValue :
    Relation.EqvGen Report.Edit terseValue verboseValue ∧
      compileValue {} terseValue = compileValue {} verboseValue :=
  ⟨edits_terseValue_verboseValue, compileValue_of_edits edits_terseValue_verboseValue {}⟩

/-- Elsewhere null is no missing member. -/
example : Substitution.decoder.ofValue (.object [("token", .null)]) =
    .error (.invalidType .null "a string") := rfl

end QueryGroup
