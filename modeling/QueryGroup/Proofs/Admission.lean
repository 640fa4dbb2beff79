import QueryGroup.Proofs.Document
import QueryGroup.Proofs.NamedFields
set_option autoImplicit false

/- Which reports compile, and why the others do not. A raw part is refused for the first of its
faults: for its shape, then for its length, then for a slot, in the order in which slots are
read. A report is refused for the first raw part that is, whatever stands behind that part. -/
namespace QueryGroup

open Json Query

namespace Query

/-- The kinds of value that the slot is read from. -/
def Part.Field.kinds : Part.Field → List Kind
  | .keys | .values => [.null, .sequence]
  | .filter => [.null, .boolean, .number, .string]

/-- The slots that are read before this one. -/
def Part.Field.before : Part.Field → List Part.Field
  | .keys => []
  | .values => [.keys]
  | .filter => [.keys, .values]

namespace Slots

def get (slots : Slots) : Part.Field → Option Value
  | .keys => slots.keys
  | .values => slots.values
  | .filter => slots.filter

/-- The slot is missing or holds a value of a kind that it is read from. -/
def Fits (slots : Slots) (field : Part.Field) : Prop :=
  ∀ value, slots.get field = some value → value.kind ∈ field.kinds

end Slots

/-- Why a slot is refused that holds a value of a kind that it is not read from. -/
def Misfit (query : String) (field : Part.Field) (held : Option Value) (refusal : Refusal) :
    Prop :=
  ∃ value, held = some value ∧ value.kind ∉ field.kinds ∧
    refusal = .fieldShape query field value.kind

/-- Why slots are refused: for the first that does not fit. -/
def Slots.Refused (query : String) (slots : Slots) (refusal : Refusal) : Prop :=
  ∃ field, (∀ earlier ∈ field.before, slots.Fits earlier) ∧
    Misfit query field (slots.get field) refusal

/-- Raw parts that are read: arrays that are long enough and objects, with slots that fit. -/
inductive Admissible (policy : PositionalPolicy) : Value → Prop
  | positional {elements : List Value} {slots : Slots}
      (long : policy = .strict → 4 ≤ elements.length) (places : PlacesSlots elements slots)
      (fits : ∀ field, slots.Fits field) :
      Admissible policy (.array elements)
  | named {fields : List (String × Value)} {slots : Slots}
      (resolves : ResolvesSlots fields slots) (fits : ∀ field, slots.Fits field) :
      Admissible policy (.object fields)

/-- Why a raw part is refused: for its first fault. -/
inductive Refused (policy : PositionalPolicy) (query : String) : Value → Refusal → Prop
  | shapeless {raw : Value}
      (unlisted : raw.kind ≠ .sequence) (unnamed : raw.kind ≠ .object) :
      Refused policy query raw (.inputShape query raw.kind)
  | short {elements : List Value}
      (strict : policy = .strict) (few : elements.length < 4) :
      Refused policy query (.array elements) (.shortPositional query elements.length)
  | positional {elements : List Value} {slots : Slots} {refusal : Refusal}
      (long : policy = .strict → 4 ≤ elements.length) (places : PlacesSlots elements slots)
      (unfit : slots.Refused query refusal) :
      Refused policy query (.array elements) refusal
  | named {fields : List (String × Value)} {slots : Slots} {refusal : Refusal}
      (resolves : ResolvesSlots fields slots) (unfit : slots.Refused query refusal) :
      Refused policy query (.object fields) refusal

variable {policy : PositionalPolicy} {query : String} {refusal : Refusal}

theorem exists_eq_ok_iff {ε α : Type} {result : Except ε α} :
    (∃ value, result = .ok value) ↔ ∀ error, result ≠ .error error := by
  cases result <;> simp

theorem bind_eq_error_iff {ε α β : Type} {first : Except ε α} {next : α → Except ε β}
    {error : ε} :
    first.bind next = .error error ↔
      first = .error error ∨ ∃ value, first = .ok value ∧ next value = .error error := by
  cases first <;> simp [Except.bind]

theorem map_eq_error_iff {ε α β : Type} {result : Except ε α} {f : α → β} {error : ε} :
    result.map f = .error error ↔ result = .error error := by
  cases result <;> simp [Except.map]

theorem result_stringItems_eq_error_iff {slot : Slot} {held : Option Value} :
    (stringItems query slot held).result = .error refusal ↔
      Misfit query (slotField slot) held refusal := by
  have kinds : (slotField slot).kinds = [.null, .sequence] := by cases slot <;> rfl
  rcases held with _ | _ | _ | _ | _ | _ | _ <;>
    simp [stringItems, Audited.ok, Audited.fail, Audited.noted, Misfit, kinds, Value.kind,
      eq_comm]

theorem readFilter_eq_error_iff {held : Option Value} :
    readFilter query held = .error refusal ↔ Misfit query .filter held refusal := by
  rcases held with _ | _ | _ | _ | _ | _ | _ <;>
    simp [readFilter, Misfit, Part.Field.kinds, Value.kind, eq_comm]

namespace Slots

variable {slots : Slots}

theorem fits_iff (query : String) {field : Part.Field} :
    slots.Fits field ↔ ∀ refusal, ¬ Misfit query field (slots.get field) refusal := by
  constructor
  · rintro fits refusal ⟨value, held, unfit, -⟩
    exact unfit (fits value held)
  · intro accepted value held
    by_contra unfit
    exact accepted _ ⟨value, held, unfit, rfl⟩

theorem result_readKeys_eq_error_iff :
    (readKeys query slots.keys).result = .error refusal ↔
      Misfit query .keys slots.keys refusal := by
  rw [result_readKeys, map_eq_error_iff, result_stringItems_eq_error_iff, slotField]

theorem result_readValues_eq_error_iff :
    (readValues query slots.values).result = .error refusal ↔
      Misfit query .values slots.values refusal := by
  rw [result_readValues, map_eq_error_iff, result_stringItems_eq_error_iff, slotField]

theorem exists_readKeys_iff :
    (∃ keys, (readKeys query slots.keys).result = .ok keys) ↔ slots.Fits .keys := by
  simp only [exists_eq_ok_iff, ne_eq, result_readKeys_eq_error_iff, fits_iff query, get]

theorem exists_readValues_iff :
    (∃ values, (readValues query slots.values).result = .ok values) ↔ slots.Fits .values := by
  simp only [exists_eq_ok_iff, ne_eq, result_readValues_eq_error_iff, fits_iff query, get]

theorem refused_iff :
    slots.Refused query refusal ↔
      Misfit query .keys slots.keys refusal ∨
        slots.Fits .keys ∧ (Misfit query .values slots.values refusal ∨
          slots.Fits .values ∧ Misfit query .filter slots.filter refusal) := by
  constructor
  · rintro ⟨field, earlier, unfit⟩
    cases field with
    | keys => exact .inl unfit
    | values => exact .inr ⟨earlier .keys (by simp [Part.Field.before]), .inl unfit⟩
    | filter =>
        exact .inr ⟨earlier .keys (by simp [Part.Field.before]),
          .inr ⟨earlier .values (by simp [Part.Field.before]), unfit⟩⟩
  · rintro (unfit | ⟨keys, unfit | ⟨values, unfit⟩⟩)
    · exact ⟨.keys, by simp [Part.Field.before], unfit⟩
    · exact ⟨.values, by simpa [Part.Field.before] using keys, unfit⟩
    · exact ⟨.filter, by simpa [Part.Field.before] using ⟨keys, values⟩, unfit⟩

/-- Slots are read one after another, so the first that does not fit decides. -/
theorem result_read_eq_error_iff :
    (slots.read query).result = .error refusal ↔ slots.Refused query refusal := by
  rw [refused_iff]
  simp only [read, Audited.result_bind, Audited.ofExcept, Audited.result_pure, bind_eq_error_iff,
    exists_and_right, exists_readKeys_iff, exists_readValues_iff, result_readKeys_eq_error_iff,
    result_readValues_eq_error_iff, readFilter_eq_error_iff, reduceCtorEq, and_false,
    exists_false, or_false]

theorem forall_fits_iff (query : String) :
    (∀ field, slots.Fits field) ↔ ∀ refusal, ¬ slots.Refused query refusal := by
  constructor
  · rintro fits refusal ⟨field, -, unfit⟩
    exact (fits_iff query).1 (fits field) refusal unfit
  · intro accepted
    have step (field : Part.Field) (earlier : ∀ other ∈ field.before, slots.Fits other) :
        slots.Fits field :=
      (fits_iff query).2 fun refusal unfit => accepted refusal ⟨field, earlier, unfit⟩
    have keys : slots.Fits .keys := step .keys (by simp [Part.Field.before])
    have values : slots.Fits .values := step .values (by simpa [Part.Field.before] using keys)
    have filter : slots.Fits .filter :=
      step .filter (by simpa [Part.Field.before] using ⟨keys, values⟩)
    rintro (_ | _ | _)
    · exact keys
    · exact values
    · exact filter

end Slots

/-- An array that is long enough is refused for its slots only. -/
theorem refused_array_iff {elements : List Value}
    (long : policy = .strict → 4 ≤ elements.length) :
    Refused policy query (.array elements) refusal ↔
      (Slots.ofList elements).Refused query refusal := by
  constructor
  · intro refused
    cases refused with
    | shapeless unlisted _ => exact absurd rfl unlisted
    | short strict few => exact absurd (long strict) (Nat.not_le_of_lt few)
    | positional _ places unfit => exact placesSlots_iff.1 places ▸ unfit
  · exact .positional long (placesSlots_iff.2 rfl)

theorem refused_object_iff {fields : List (String × Value)} :
    Refused policy query (.object fields) refusal ↔
      (Slots.ofFields fields).Refused query refusal := by
  constructor
  · intro refused
    cases refused with
    | shapeless _ unnamed => exact absurd rfl unnamed
    | named resolves unfit => exact resolvesSlots_iff.1 resolves ▸ unfit
  · exact .named (resolvesSlots_iff.2 rfl)

/-- What is not refused is admissible, and nothing else is. -/
theorem admissible_iff (query : String) {raw : Value} :
    Admissible policy raw ↔ ∀ refusal, ¬ Refused policy query raw refusal := by
  constructor
  · intro admissible refusal refused
    cases admissible with
    | positional long places fits =>
        have unfit := (refused_array_iff long).1 refused
        rw [← placesSlots_iff.1 places] at unfit
        exact (Slots.forall_fits_iff query).1 fits refusal unfit
    | named resolves fits =>
        have unfit := refused_object_iff.1 refused
        rw [← resolvesSlots_iff.1 resolves] at unfit
        exact (Slots.forall_fits_iff query).1 fits refusal unfit
  · intro accepted
    cases raw with
    | array elements =>
        have long : policy = .strict → 4 ≤ elements.length := by
          intro strict
          by_contra few
          exact accepted _ (.short strict (Nat.lt_of_not_le few))
        exact .positional long (placesSlots_iff.2 rfl)
          ((Slots.forall_fits_iff query).2 fun refusal unfit =>
            accepted refusal ((refused_array_iff long).2 unfit))
    | object fields =>
        exact .named (resolvesSlots_iff.2 rfl)
          ((Slots.forall_fits_iff query).2 fun refusal unfit =>
            accepted refusal (refused_object_iff.2 unfit))
    | null | bool | number | string =>
        exact absurd (.shapeless (by simp [Value.kind]) (by simp [Value.kind])) (accepted _)

theorem admitLength_short {count : Nat} (strict : policy = .strict) (few : count < 4) :
    admitLength policy query count = .fail (.shortPositional query count) := by
  have incomplete : ¬ completeLength ≤ count := Nat.not_le_of_lt few
  unfold admitLength
  rw [if_neg incomplete, strict]

theorem normalize_short {elements : List Value} (strict : policy = .strict)
    (few : elements.length < 4) :
    normalize policy query (.array elements) =
      .fail (.shortPositional query elements.length) := by
  show normalizeRaw policy query (.positional elements) = _
  rw [normalizeRaw, admitLength_short strict few]
  rfl

theorem admitted_of_long {count : Nat} (long : policy = .strict → 4 ≤ count) :
    policy = .lenient ∨ completeLength ≤ count := by
  cases policy with
  | lenient => exact .inl rfl
  | strict => exact .inr (long rfl)

/-- A short array is refused before any of its slots is read. -/
theorem result_normalize_array_eq_error_iff {elements : List Value} :
    (normalize policy query (.array elements)).result = .error refusal ↔
      Refused policy query (.array elements) refusal := by
  by_cases long : policy = .strict → 4 ≤ elements.length
  · rw [result_normalize_array query (admitted_of_long long), Slots.result_read_eq_error_iff,
      refused_array_iff long]
  · have ⟨strict, few⟩ : policy = .strict ∧ elements.length < 4 := by simpa using long
    rw [normalize_short strict few, Audited.fail, Except.error.injEq]
    constructor
    · rintro rfl
      exact .short strict few
    · intro refused
      cases refused with
      | shapeless unlisted _ => exact absurd rfl unlisted
      | short _ _ => rfl
      | positional enough _ _ => exact absurd enough long

theorem result_normalize_eq_error_iff {raw : Value} :
    (normalize policy query raw).result = .error refusal ↔ Refused policy query raw refusal := by
  cases raw with
  | array elements => exact result_normalize_array_eq_error_iff
  | object fields =>
      rw [refused_object_iff]
      exact Slots.result_read_eq_error_iff
  | null | bool | number | string =>
      constructor
      · rintro ⟨⟩
        exact .shapeless (by simp [Value.kind]) (by simp [Value.kind])
      · rintro ⟨⟩
        rfl

theorem exists_normalize_iff (query : String) {raw : Value} :
    (∃ part, (normalize policy query raw).result = .ok part) ↔ Admissible policy raw := by
  simp only [exists_eq_ok_iff, ne_eq, result_normalize_eq_error_iff, admissible_iff query]

/-- Why raw parts are refused: for the first of them that is not admissible. -/
def FirstRefused (policy : PositionalPolicy) (raws : List (String × Value)) (refusal : Refusal) :
    Prop :=
  ∃ front entry back, raws = front ++ entry :: back ∧
    (∀ earlier ∈ front, Admissible policy earlier.2) ∧ Refused policy entry.1 entry.2 refusal

theorem firstRefused_cons {raw : String × Value} {rest : List (String × Value)} :
    FirstRefused policy (raw :: rest) refusal ↔
      Refused policy raw.1 raw.2 refusal ∨
        Admissible policy raw.2 ∧ FirstRefused policy rest refusal := by
  constructor
  · rintro ⟨_ | ⟨first, front⟩, entry, back, shape, admissible, refused⟩
    · cases shape
      exact .inl refused
    · cases shape
      rw [List.forall_mem_cons] at admissible
      exact .inr ⟨admissible.1, front, entry, back, rfl, admissible.2, refused⟩
  · rintro (refused | ⟨first, front, entry, back, rfl, admissible, refused⟩)
    · exact ⟨[], raw, rest, rfl, by simp, refused⟩
    · exact ⟨raw :: front, entry, back, rfl, List.forall_mem_cons.2 ⟨first, admissible⟩, refused⟩

theorem not_firstRefused_nil : ¬ FirstRefused policy [] refusal := by
  rintro ⟨front, entry, back, shape, -⟩
  simp at shape

/-- What stands behind a raw part that is not admissible does not matter. -/
theorem firstRefused_append_iff {front back : List (String × Value)} {entry : String × Value}
    (rest : List (String × Value)) (inadmissible : ¬ Admissible policy entry.2) :
    FirstRefused policy (front ++ entry :: back) refusal ↔
      FirstRefused policy (front ++ entry :: rest) refusal := by
  induction front with
  | nil => simp only [List.nil_append, firstRefused_cons, inadmissible, false_and]
  | cons raw front ih => simp only [List.cons_append, firstRefused_cons, ih]

theorem forall_admissible_iff {raws : List (String × Value)} :
    (∀ entry ∈ raws, Admissible policy entry.2) ↔
      ∀ refusal, ¬ FirstRefused policy raws refusal := by
  induction raws with
  | nil => simp [not_firstRefused_nil]
  | cons raw rest ih =>
      simp only [List.forall_mem_cons, ih, firstRefused_cons, not_or, not_and, forall_and,
        ← admissible_iff raw.1]
      exact and_congr_right fun first => by simp only [first, true_implies]

theorem result_normalizeEntries_eq_error_iff {raws : List (String × Value)} :
    (normalizeEntries policy raws).result = .error refusal ↔
      FirstRefused policy raws refusal := by
  induction raws with
  | nil => simp [normalizeEntries, Audited.ok, not_firstRefused_nil]
  | cons raw rest ih =>
      rcases raw with ⟨query, value⟩
      simp only [normalizeEntries, Audited.result_bind, Audited.result_pure, bind_eq_error_iff,
        exists_and_right, result_normalize_eq_error_iff, exists_normalize_iff, ih, reduceCtorEq,
        and_false, exists_false, or_false, firstRefused_cons]

theorem result_normalizeAll_eq_error_iff {queries : OrderedMap Value} :
    (normalizeAll policy queries).result = .error refusal ↔
      FirstRefused policy queries.entries refusal := by
  simp only [normalizeAll, Audited.result_bind, Audited.result_pure, bind_eq_error_iff,
    result_normalizeEntries_eq_error_iff, reduceCtorEq, and_false, exists_false, or_false]

end Query

theorem Compile.result_compile_eq_error_iff {options : Options} {report : Report}
    {refusal : Refusal} :
    (compile options report).result = .error refusal ↔
      FirstRefused options.positional report.queries.entries refusal := by
  rw [result_compile, map_eq_error_iff, queries, result_normalizeAll_eq_error_iff]

/-- A report compiles exactly when all its raw parts are admissible, and then each of them stays
in its place, as the part that it comes to. Otherwise the first that is not admissible decides
why it is refused, and whatever stands behind that one could be any other. -/
theorem compile_admission (options : Options) (report : Report) :
    ((∃ output, (compile options report).result = .ok output) ↔
        ∀ entry ∈ report.queries.entries, Admissible options.positional entry.2) ∧
      (∀ output, (compile options report).result = .ok output →
        List.Forall₂ (Normalizes options.positional) report.queries.entries
          output.queries.entries) ∧
      (∀ refusal, (compile options report).result = .error refusal ↔
        ∃ front entry back, report.queries.entries = front ++ entry :: back ∧
          (∀ earlier ∈ front, Admissible options.positional earlier.2) ∧
          Refused options.positional entry.1 entry.2 refusal) ∧
      ∀ other front entry back rest, report.queries.entries = front ++ entry :: back →
        other.queries.entries = front ++ entry :: rest →
          ¬ Admissible options.positional entry.2 →
            (compile options other).result = (compile options report).result := by
  have accepted (report : Report) : (∃ output, (compile options report).result = .ok output) ↔
      ∀ entry ∈ report.queries.entries, Admissible options.positional entry.2 := by
    simp only [exists_eq_ok_iff, ne_eq, Compile.result_compile_eq_error_iff,
      forall_admissible_iff]
  refine ⟨accepted report, ?_, fun refusal => Compile.result_compile_eq_error_iff, ?_⟩
  · intro output compiled
    obtain ⟨parts, normalized, rfl⟩ := Compile.compiled_iff.1 compiled
    exact normalized
  · intro other front entry back rest shape same inadmissible
    cases result : (compile options report).result with
    | ok output =>
        have admissible := (accepted report).1 ⟨output, result⟩ entry (by simp [shape])
        exact absurd admissible inadmissible
    | error refusal =>
        rw [Compile.result_compile_eq_error_iff, shape,
          firstRefused_append_iff rest inadmissible, ← same] at result
        exact Compile.result_compile_eq_error_iff.2 result

/-- A report whose first raw part is admissible, while the last one has no shape at all. -/
def faultyReport (raw : Value) : Report where
  server := some {
    queries := .ofList [
      ("main", .object [("VALUES", .null), ("filterText", .null), ("filter", .bool true)]),
      ("second", raw),
      ("shapeless", .string "main")] }

/-- Two faults: the values, and the filter that stands in for a filter text that is null. -/
def misfitFields : List (String × Value) :=
  [("FILTER", .array []), ("Values", .string "a=b"), ("filterText", .null), ("KEYS", .null)]

theorem compile_admission_faultyReport :
    (compile { positional := .strict } (faultyReport (.array [.null, .bool true]))).result =
        .error (.shortPositional "second" 2) ∧
      (compile {} (faultyReport (.array [.null, .bool true]))).result =
        .error (.fieldShape "second" .keys .boolean) ∧
      (compile {} (faultyReport (.object misfitFields))).result =
        .error (.fieldShape "second" .values .string) ∧
      (compile {} (faultyReport (.object (misfitFields.eraseIdx 1)))).result =
        .error (.fieldShape "second" .filter .sequence) := by
  have first (policy : PositionalPolicy) : Admissible policy
      (.object [("VALUES", .null), ("filterText", .null), ("filter", .bool true)]) := by
    apply Admissible.named (resolvesSlots_iff.2 rfl)
    rintro (_ | _ | _) value ⟨⟩ <;> decide
  have refused {policy : PositionalPolicy} {raw : Value} {refusal : Refusal}
      (second : Refused policy "second" raw refusal) :
      (compile { positional := policy } (faultyReport raw)).result = .error refusal :=
    ((compile_admission { positional := policy } (faultyReport raw)).2.2.1 refusal).2
      ⟨[_], _, _, rfl, by simpa using first policy, second⟩
  refine ⟨refused (.short rfl (by decide)), refused (.positional (by simp) (placesSlots_iff.2 rfl) ?_),
    refused (.named (resolvesSlots_iff.2 rfl) ?_), refused (.named (resolvesSlots_iff.2 rfl) ?_)⟩
  · exact ⟨.keys, by simp [Part.Field.before], .bool true, rfl, by decide, rfl⟩
  · refine ⟨.values, ?_, .string "a=b", rfl, by decide, rfl⟩
    simp only [Part.Field.before, List.forall_mem_singleton]
    rintro value ⟨⟩
    decide
  · refine ⟨.filter, ?_, .array [], rfl, by decide, rfl⟩
    simp only [Part.Field.before, List.forall_mem_cons]
    refine ⟨?_, ?_, by simp⟩
    · rintro value ⟨⟩
      decide
    · rintro value ⟨⟩

end QueryGroup
