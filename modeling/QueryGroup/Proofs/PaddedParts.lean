import QueryGroup.Proofs.Admission
set_option autoImplicit false

namespace QueryGroup.Query

open Json

/-- A positional part with too few elements. -/
def IsShort (raw : Value) : Prop := ∃ elements, raw = .array elements ∧ elements.length < 4

/-- A raw part with nulls for the slots that it is short of. -/
def padded : Value → Value
  | .array elements => .array (elements.rightpad 4 .null)
  | raw => raw

/-- All raw parts padded, under their names and in their places. -/
def paddedParts (queries : OrderedMap Value) : OrderedMap Value where
  entries := queries.entries.map fun entry => (entry.1, padded entry.2)
  distinct := by simpa [Assoc.keys, Function.comp_def] using queries.distinct

/-- Padding fills the slots up to the filter and adds none behind it. -/
theorem getElem?_rightpad (elements : List Value) (index : Nat) :
    (elements.rightpad 4 .null)[index]? =
      if index < 4 then some (elements[index]?.getD .null) else elements[index]? := by
  by_cases present : index < elements.length
  · have same : (elements.rightpad 4 .null)[index]? = elements[index]? :=
      List.getElem?_append_left present
    rw [same, List.getElem?_eq_getElem present, Option.getD_some, ite_self]
  · have missing : elements[index]? = none := List.getElem?_eq_none (by omega)
    have behind : (elements.rightpad 4 .null)[index]? =
        (List.replicate (4 - elements.length) Value.null)[index - elements.length]? :=
      List.getElem?_append_right (by omega)
    rw [behind, missing, Option.getD_none, List.getElem?_replicate]
    by_cases inside : index < 4
    · rw [if_pos inside, if_pos (by omega)]
    · rw [if_neg inside, if_neg (by omega)]

theorem le_length_rightpad (elements : List Value) :
    completeLength ≤ (elements.rightpad 4 .null).length := by
  rw [List.length_rightpad, completeLength]
  exact Nat.le_max_left 4 elements.length

/-- A null slot is read as one that is missing. -/
theorem stringItems_getD_null (query : String) (slot : Slot) (held : Option Value) :
    stringItems query slot (some (held.getD .null)) = stringItems query slot held := by
  cases held <;> rfl

theorem readFilter_getD_null (query : String) (held : Option Value) :
    readFilter query (some (held.getD .null)) = readFilter query held := by
  cases held <;> rfl

theorem read_ofList_rightpad (query : String) (elements : List Value) :
    (Slots.ofList (elements.rightpad 4 .null)).read query =
      (Slots.ofList elements).read query := by
  have filled (index : Nat) (inside : index < 4) :
      (elements.rightpad 4 .null)[index]? = some (elements[index]?.getD .null) := by
    rw [getElem?_rightpad, if_pos inside]
  have metadata : (elements.rightpad 4 .null)[4]? = elements[4]? := by
    rw [getElem?_rightpad, if_neg (by decide)]
  simp only [Slots.read, Slots.ofList, readKeys, readValues, filled 1 (by decide),
    filled 2 (by decide), filled 3 (by decide), metadata, stringItems_getD_null,
    readFilter_getD_null]

/-- A padded part is never short, and it comes to what the part itself does where slots may be
missing. -/
theorem result_normalize_padded (query : String) (raw : Value) :
    (normalize .strict query (padded raw)).result = (normalize .lenient query raw).result := by
  cases raw with
  | array elements =>
      have complete := le_length_rightpad elements
      rw [padded, result_normalize_array query (.inr complete), read_ofList_rightpad,
        result_normalize_array query (.inl rfl)]
  | null | bool | number | string | object => rfl

theorem result_normalizeEntries_padded (raws : List (String × Value)) :
    (normalizeEntries .strict (raws.map fun entry => (entry.1, padded entry.2))).result =
      (normalizeEntries .lenient raws).result := by
  induction raws with
  | nil => rfl
  | cons raw rest ih =>
      simp only [List.map_cons, normalizeEntries, Audited.result_bind, result_normalize_padded, ih]

/-- A part is read strictly if it is read at all and not short. -/
theorem result_normalize_strict_iff {query : String} {raw : Value} {part : Part} :
    (normalize .strict query raw).result = .ok part ↔
      ¬ IsShort raw ∧ (normalize .lenient query raw).result = .ok part := by
  cases raw with
  | array elements =>
      by_cases few : elements.length < 4
      · have short : IsShort (.array elements) := ⟨elements, rfl, few⟩
        simp [normalize_short rfl few, short, Audited.fail]
      · have long : ¬ IsShort (.array elements) := by
          rintro ⟨_, ⟨⟩, less⟩
          exact few less
        have complete : completeLength ≤ elements.length := Nat.le_of_not_lt few
        rw [result_normalize_array query (.inr complete), result_normalize_array query (.inl rfl),
          and_iff_right long]
  | null | bool | number | string | object =>
      refine (and_iff_right ?_).symm
      rintro ⟨_, ⟨⟩, -⟩

/-- Lenient reading is strict reading of the padded parts, with the same outcome or the same
refusal; and strict reading comes to what lenient reading does if no part is short, and is refused
otherwise. -/
theorem normalizeAll_padded (queries : OrderedMap Value) :
    (normalizeAll .lenient queries).result = (normalizeAll .strict (paddedParts queries)).result ∧
      ∀ parts, (normalizeAll .strict queries).result = .ok parts ↔
        (normalizeAll .lenient queries).result = .ok parts ∧
          ∀ entry ∈ queries.entries, ¬ IsShort entry.2 := by
  constructor
  · simp only [normalizeAll, Audited.result_bind, paddedParts, result_normalizeEntries_padded]
  · intro parts
    have split : Normalizes .strict = fun raw made =>
        ¬ IsShort raw.2 ∧ Normalizes .lenient raw made := by
      funext raw made
      rw [Normalizes, Normalizes, result_normalize_strict_iff, and_left_comm]
    rw [result_normalizeAll_eq_ok_iff, result_normalizeAll_eq_ok_iff, split,
      List.forall₂_and_left, and_comm]

end QueryGroup.Query
