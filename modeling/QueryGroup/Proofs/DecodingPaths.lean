import Mathlib.Data.List.Permutation
import QueryGroup.Compile
import QueryGroup.Proofs.AgreeingDecoders
set_option autoImplicit false

namespace QueryGroup

open Document Json

open Document.Decoder (Agrees)

theorem MenuEntry.agrees_decoder : Agrees MenuEntry.decoder := by
  apply Agrees.record
  simp only [fields, List.forall_mem_cons]
  exact ⟨Decoder.agrees_string.field, Decoder.agrees_string.field, List.forall_mem_nil _⟩

theorem Substitution.agrees_decoder : Agrees Substitution.decoder := by
  apply Agrees.record
  simp only [fields, List.forall_mem_cons]
  exact ⟨Decoder.agrees_string.field, Decoder.agrees_string.field, Decoder.agrees_bool.field,
    MenuEntry.agrees_decoder.list.orDefault.field, List.forall_mem_nil _⟩

theorem Server.agrees_decoder : Agrees Server.decoder := by
  apply Agrees.record
  simp only [fields, List.forall_mem_cons]
  exact ⟨Decoder.agrees_string.map.orDefault.field, Decoder.agrees_any.map.orDefault.field,
    List.forall_mem_nil _⟩

theorem Client.agrees_decoder : Agrees Client.decoder := by
  apply Agrees.record
  simp only [fields, List.forall_mem_cons]
  exact ⟨Substitution.agrees_decoder.list.orDefault.field, List.forall_mem_nil _⟩

theorem Report.agrees_decoder : Agrees Report.decoder := by
  apply Agrees.record
  simp only [fields, List.forall_mem_cons]
  exact ⟨Decoder.agrees_string.optional.field, Server.agrees_decoder.optional.field,
    Client.agrees_decoder.optional.field, List.forall_mem_nil _⟩

theorem Json.Value.ofText?_eq_some_iff {text : String} {value : Value} :
    Value.ofText? text = some value ↔ (Reading.ofText text).alone = true ∧
      (Reading.ofText text).tree.Says Room.ofText value := by
  rw [Value.ofText?]
  cases (Reading.ofText text).alone with
  | false => simp
  | true =>
      have finite := Reading.finite_ofText text
      exact ⟨fun whole => ⟨rfl, finite, whole⟩, fun said => said.2.whole⟩

theorem Report.ofText_eq_ok_iff {text : String} {report : Report}
    (alone : (Reading.ofText text).alone = true) :
    Report.ofText text = .ok report ↔
      Report.decoder (.within Room.ofText) (Reading.ofText text).tree = .ok report := by
  have read : Report.ofText text =
      Report.decoder (.within Room.ofText) (Reading.ofText text).tree >>= fun report =>
        if (Reading.ofText text).alone then .ok report else .error .malformed := rfl
  simp only [read, alone, if_true, bind_eq_ok_iff, Except.ok.injEq, exists_eq_right]

/-- A text that says a value describes one report at most, whether it is decoded while it is read
or as the value it says, so both compile to the same. If no object in the text repeats a name, the
text describes the report that its value describes. -/
theorem Report.ofText_agrees_ofValue {text : String} {value : Value}
    (parsed : Value.ofText? text = some value) :
    (∀ direct through, Report.ofText text = .ok direct → Report.ofValue value = .ok through →
      direct = through ∧ ∀ options, value.kind = .object →
        compileValue options value =
          ((compile options direct).result.map Compile.Output.markup).mapError .refused) ∧
    ((Reading.ofText text).tree.Distinct →
      ∀ through, Report.ofValue value = .ok through → Report.ofText text = .ok through) := by
  obtain ⟨alone, said⟩ := Value.ofText?_eq_some_iff.1 parsed
  constructor
  · intro direct through text given
    cases agrees_decoder.same said ((ofText_eq_ok_iff alone).1 text) given
    refine ⟨rfl, fun options object => ?_⟩
    cases value with
    | object pairs =>
        rw [compileValue, ofObject, given]
        show ((compile options direct).result.mapError _).bind _ = _
        cases (compile options direct).result <;> rfl
    | _ => cases object
  · intro distinct through given
    exact (ofText_eq_ok_iff alone).2 (agrees_decoder.kept said distinct given)

/-- A text that repeats a member that is passed over and one of its queries. -/
def repeatingText : String :=
  "\x7b\"x\":[],\"server\":[null,\x7b\"q\":null,\"q\":[]\x7d],\"x\":\"\"\x7d"

def repeatingValue : Value :=
  .object [("x", .string ""), ("server", .array [.null, .object [("q", .array [])]])]

def repeatingReport : Report where
  server := some { queries := .ofList [("q", .array [])] }

theorem reading_repeatingText : Reading.ofText repeatingText =
    ⟨.object [(some "x", .array []),
      (some "server", .array [.null, .object [(some "q", .null), (some "q", .array [])]]),
      (some "x", .string (some ""))], true⟩ := by
  cbv

/-- A text that repeats no name, its report and one of the parts written by position. -/
def sequenceText : String :=
  "[null,[\x7b\"a\":\"1\"\x7d],[[\x7b\"token\":\"t\",\"x\":null\x7d]]]"

def sequenceValue : Value :=
  .array [.null, .array [.object [("a", .string "1")]],
    .array [.array [.object [("token", .string "t"), ("x", .null)]]]]

def sequenceReport : Report where
  server := some { columnExpressions := .ofList [("a", "1")] }
  client := some { textSubstitutions := [{ token := "t" }] }

theorem reading_sequenceText : Reading.ofText sequenceText = ⟨.ofValue sequenceValue, true⟩ := by
  cbv

theorem Report.ofText_agrees_ofValue_repeatingText :
    (Value.ofText? repeatingText = some repeatingValue ∧
      compileValue {} repeatingValue =
        ((compile {} repeatingReport).result.map Compile.Output.markup).mapError .refused) ∧
    Value.ofText? sequenceText = some sequenceValue ∧
      Report.ofText sequenceText = .ok sequenceReport := by
  have repeating : Value.ofText? repeatingText = some repeatingValue := by
    rw [Value.ofText?, reading_repeatingText]
    rfl
  have direct : Report.ofText repeatingText = .ok repeatingReport := by
    rw [Report.ofText, Decoder.ofText, reading_repeatingText]
    rfl
  have through : Report.ofValue repeatingValue = .ok repeatingReport := rfl
  have sequenced : Value.ofText? sequenceText = some sequenceValue := by
    rw [Value.ofText?, reading_sequenceText]
    rfl
  have distinct : (Reading.ofText sequenceText).tree.Distinct := by
    rw [reading_sequenceText]
    simp [sequenceValue, Tree.ofValue, Tree.ofItems, Tree.ofMembers, Tree.Distinct, Tree.Everywhere,
      Tree.EverywhereIn, Tree.EverywhereAmong, Tree.NamesOnce]
  have sequenceThrough : Report.ofValue sequenceValue = .ok sequenceReport := rfl
  obtain ⟨-, compiled⟩ :=
    (Report.ofText_agrees_ofValue repeating).1 repeatingReport repeatingReport direct through
  exact ⟨⟨repeating, compiled {} rfl⟩, sequenced,
    (Report.ofText_agrees_ofValue sequenced).2 distinct sequenceReport sequenceThrough⟩

/-- A repeated part is refused in the text only. -/
example : Report.ofText "\x7b\"server\":null,\"server\":null\x7d" =
    .error (.duplicateField "server") := by
  cbv

/-- What is passed over in the text need not be a value. -/
example : Report.ofText "\x7b\"x\":\"\\ud800\"\x7d" = .ok {} ∧
    (Value.ofText? "\x7b\"x\":\"\\ud800\"\x7d").isNone := by
  constructor <;> cbv

end QueryGroup
