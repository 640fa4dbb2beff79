import Mathlib.Logic.Relation
import QueryGroup.Proofs.Shapes
set_option autoImplicit false

namespace QueryGroup.Query

open Json Text

/-- The names under which a named part is read. -/
def fieldNames : List String := ["keys", "values", "filterText", "filter", "meta"]

/-- The value stands in the first member whose name passes the test. -/
def FirstHeld (test : String → Bool) (fields : List (String × Value)) (value : Value) : Prop :=
  ∃ front name back, fields = front ++ (name, value) :: back ∧ test name = true ∧
    ∀ earlier ∈ front, test earlier.1 = false

/-- What a field is taken from. -/
inductive Resolves (fields : List (String × Value)) (wanted : String) : Option Value → Prop
  | spelled {value : Value} (first : FirstHeld (· == wanted) fields value) :
      Resolves fields wanted (some value)
  | folded {value : Value} (unspelled : ∀ member ∈ fields, (member.1 == wanted) = false)
      (first : FirstHeld (sameLetters · wanted) fields value) :
      Resolves fields wanted (some value)
  | absent (other : ∀ member ∈ fields, sameLetters member.1 wanted = false) :
      Resolves fields wanted none

/-- What the filter is taken from: the filter text, unless that is missing or null. -/
inductive ResolvesFilter (fields : List (String × Value)) : Option Value → Prop
  | text {value : Value} (resolved : Resolves fields "filterText" (some value))
      (present : value ≠ .null) :
      ResolvesFilter fields (some value)
  | fallback {text held : Option Value} (resolved : Resolves fields "filterText" text)
      (empty : text = none ∨ text = some .null) (other : Resolves fields "filter" held) :
      ResolvesFilter fields held

structure ResolvesSlots (fields : List (String × Value)) (slots : Slots) : Prop where
  keys : Resolves fields "keys" slots.keys
  values : Resolves fields "values" slots.values
  filter : ResolvesFilter fields slots.filter
  metadata : Resolves fields "meta" slots.metadata

/-- The value of the first member whose name passes the test. -/
def held? (test : String → Bool) (fields : List (String × Value)) : Option Value :=
  (fields.find? fun member => test member.1).map Prod.snd

theorem field?_eq (fields : List (String × Value)) (wanted : String) :
    Slots.field? fields wanted =
      (held? (· == wanted) fields).or (held? (sameLetters · wanted) fields) := rfl

section

variable {fields : List (String × Value)} {test : String → Bool}

theorem held?_eq_some_iff {value : Value} :
    held? test fields = some value ↔ FirstHeld test fields value := by
  rw [held?, Option.map_eq_some_iff]
  constructor
  · rintro ⟨⟨name, held⟩, found, rfl⟩
    obtain ⟨passes, front, back, shape, earlier⟩ := List.find?_eq_some_iff_append.1 found
    exact ⟨front, name, back, shape, passes, by simpa using earlier⟩
  · rintro ⟨front, name, back, shape, passes, earlier⟩
    exact ⟨(name, value),
      List.find?_eq_some_iff_append.2 ⟨passes, front, back, shape, by simpa using earlier⟩, rfl⟩

theorem held?_eq_none_iff : held? test fields = none ↔ ∀ member ∈ fields, test member.1 = false := by
  rw [held?, Option.map_eq_none_iff, List.find?_eq_none]
  simp

/-- A name that is spelled exactly has the same letters. -/
theorem held?_spelled_eq_none {wanted : String}
    (other : ∀ member ∈ fields, sameLetters member.1 wanted = false) :
    held? (· == wanted) fields = none := by
  rw [held?_eq_none_iff]
  intro member inside
  rw [beq_eq_false_iff_ne]
  intro same
  have differs := other member inside
  simp [sameLetters, same] at differs

/-- Every field is taken from something, and from one thing only. -/
theorem resolves_iff {wanted : String} {held : Option Value} :
    Resolves fields wanted held ↔ Slots.field? fields wanted = held := by
  rw [field?_eq]
  constructor
  · intro resolved
    cases resolved with
    | spelled first => rw [held?_eq_some_iff.2 first, Option.some_or]
    | folded unspelled first =>
        rw [held?_eq_none_iff.2 unspelled, held?_eq_some_iff.2 first, Option.none_or]
    | absent other =>
        rw [held?_spelled_eq_none other, held?_eq_none_iff.2 other, Option.none_or]
  · rintro rfl
    cases spelled : held? (· == wanted) fields with
    | some value =>
        rw [Option.some_or]
        exact .spelled (held?_eq_some_iff.1 spelled)
    | none =>
        rw [Option.none_or]
        cases folded : held? (sameLetters · wanted) fields with
        | some value =>
            exact .folded (held?_eq_none_iff.1 spelled) (held?_eq_some_iff.1 folded)
        | none => exact .absent (held?_eq_none_iff.1 folded)

theorem resolvesFilter_iff {held : Option Value} :
    ResolvesFilter fields held ↔ Slots.filterField? fields = held := by
  constructor
  · intro resolved
    cases resolved with
    | text resolved present =>
        rw [Slots.filterField?, resolves_iff.1 resolved]
        split
        · contradiction
        · next null => exact absurd (Option.some.inj null) present
        · next held => exact held.symm
    | fallback resolved empty other =>
        rw [Slots.filterField?, resolves_iff.1 resolved]
        rcases empty with rfl | rfl
        · exact resolves_iff.1 other
        · exact resolves_iff.1 other
  · rintro rfl
    unfold Slots.filterField?
    split
    · next missing => exact .fallback (resolves_iff.2 missing) (.inl rfl) (resolves_iff.2 rfl)
    · next null => exact .fallback (resolves_iff.2 null) (.inr rfl) (resolves_iff.2 rfl)
    · next value present held => exact .text (resolves_iff.2 held) present

theorem resolvesSlots_iff {slots : Slots} :
    ResolvesSlots fields slots ↔ slots = Slots.ofFields fields := by
  constructor
  · rintro ⟨keys, values, filter, metadata⟩
    rw [Slots.ofFields, resolves_iff.1 keys, resolves_iff.1 values, resolvesFilter_iff.1 filter,
      resolves_iff.1 metadata]
  · rintro rfl
    exact ⟨resolves_iff.2 rfl, resolves_iff.2 rfl, resolvesFilter_iff.2 rfl, resolves_iff.2 rfl⟩

end

/-- The slots of an array stand at fixed positions behind its first element. -/
structure PlacesSlots (elements : List Value) (slots : Slots) : Prop where
  keys : slots.keys = elements[1]?
  values : slots.values = elements[2]?
  filter : slots.filter = elements[3]?
  metadata : slots.metadata = elements[4]?

/-- What a raw part supplies: an array by position, an object by the names of its members. -/
inductive Supplies : Value → Slots → Prop
  | positional {elements : List Value} {slots : Slots} (places : PlacesSlots elements slots) :
      Supplies (.array elements) slots
  | named {fields : List (String × Value)} {slots : Slots}
      (resolves : ResolvesSlots fields slots) :
      Supplies (.object fields) slots

theorem placesSlots_iff {elements : List Value} {slots : Slots} :
    PlacesSlots elements slots ↔ slots = Slots.ofList elements := by
  constructor
  · rintro ⟨keys, values, filter, metadata⟩
    rw [Slots.ofList, ← keys, ← values, ← filter, ← metadata]
  · rintro rfl
    exact ⟨rfl, rfl, rfl, rfl⟩

theorem supplies_array_iff {elements : List Value} {slots : Slots} :
    Supplies (.array elements) slots ↔ slots = Slots.ofList elements := by
  rw [← placesSlots_iff]
  constructor
  · rintro ⟨places⟩
    exact places
  · exact .positional

theorem supplies_object_iff {fields : List (String × Value)} {slots : Slots} :
    Supplies (.object fields) slots ↔ slots = Slots.ofFields fields := by
  rw [← resolvesSlots_iff]
  constructor
  · rintro ⟨⟩
    assumption
  · exact .named

theorem Supplies.unique {raw : Value} {slots other : Slots} (first : Supplies raw slots)
    (second : Supplies raw other) : slots = other := by
  cases second with
  | positional places => exact (supplies_array_iff.1 first).trans (placesSlots_iff.1 places).symm
  | named resolves => exact (supplies_object_iff.1 first).trans (resolvesSlots_iff.1 resolves).symm

example : Slots.field? [("KEYS", .null), ("keys", .bool true)] "keys" = some (.bool true) := rfl

/-- No two members stand for the same field. -/
def Unambiguous (fields : List (String × Value)) : Prop :=
  fields.Pairwise fun first second =>
    ∀ wanted ∈ fieldNames, sameLetters first.1 wanted = true → sameLetters second.1 wanted = false

instance (fields : List (String × Value)) : Decidable (Unambiguous fields) :=
  inferInstanceAs (Decidable (fields.Pairwise _))

/-- One edit that no field depends on. -/
inductive MemberEdit : List (String × Value) → List (String × Value) → Prop
  | reorder {old new : List (String × Value)} (order : old.Perm new) : MemberEdit old new
  | recase (front back : List (String × Value)) {old new : String} (value : Value)
      (letters : sameLetters old new = true) :
      MemberEdit (front ++ (old, value) :: back) (front ++ (new, value) :: back)
  | insert (front back : List (String × Value)) {name : String} (value : Value)
      (unknown : ∀ wanted ∈ fieldNames, sameLetters name wanted = false) :
      MemberEdit (front ++ back) (front ++ (name, value) :: back)

/-- The values of all members that may stand for a field. -/
def candidates (wanted : String) (fields : List (String × Value)) : List Value :=
  (fields.filter fun member => sameLetters member.1 wanted).map Prod.snd

theorem candidates_append (wanted : String) (front back : List (String × Value)) :
    candidates wanted (front ++ back) = candidates wanted front ++ candidates wanted back := by
  simp only [candidates, List.filter_append, List.map_append]

theorem candidates_cons (wanted name : String) (value : Value) (rest : List (String × Value)) :
    candidates wanted ((name, value) :: rest) =
      if sameLetters name wanted then value :: candidates wanted rest
      else candidates wanted rest := by
  cases letters : sameLetters name wanted <;> simp [candidates, letters]

/-- An edit keeps the candidates of every field, though not their order. -/
theorem candidates_of_edit {old new : List (String × Value)} (edit : MemberEdit old new)
    {wanted : String} (known : wanted ∈ fieldNames) :
    (candidates wanted old).Perm (candidates wanted new) := by
  cases edit with
  | reorder order => exact (order.filter _).map _
  | @recase front back old new value letters =>
      have alike : sameLetters old wanted = sameLetters new wanted := by
        have same := (sameLetters_iff old new).1 letters
        simp only [sameLetters, same]
      rw [candidates_append, candidates_append, candidates_cons, candidates_cons, alike]
  | insert front back value unknown =>
      rw [candidates_append, candidates_append, candidates_cons, unknown wanted known]
      simp

theorem candidates_of_edits {old new : List (String × Value)}
    (edits : Relation.EqvGen MemberEdit old new) {wanted : String} (known : wanted ∈ fieldNames) :
    (candidates wanted old).Perm (candidates wanted new) := by
  induction edits with
  | rel old new edit => exact candidates_of_edit edit known
  | refl fields => exact .refl _
  | symm old new _ ih => exact ih.symm
  | trans old middle new _ _ first second => exact first.trans second

theorem Unambiguous.length_candidates {fields : List (String × Value)}
    (unambiguous : Unambiguous fields) {wanted : String} (known : wanted ∈ fieldNames) :
    (candidates wanted fields).length ≤ 1 := by
  induction fields with
  | nil => exact Nat.zero_le 1
  | cons member rest ih =>
      obtain ⟨alone, others⟩ := List.pairwise_cons.1 unambiguous
      rw [candidates_cons]
      split
      · next letters =>
        have none_left : candidates wanted rest = [] := by
          rw [candidates, List.map_eq_nil_iff, List.filter_eq_nil_iff]
          intro other inside
          rw [alone other inside wanted known letters]
          exact Bool.false_ne_true
        simp [none_left]
      · exact ih others

theorem mem_candidates_of_field? {fields : List (String × Value)} {wanted : String} {value : Value}
    (found : Slots.field? fields wanted = some value) : value ∈ candidates wanted fields := by
  have member {front back : List (String × Value)} {name : String}
      (letters : sameLetters name wanted = true) :
      value ∈ candidates wanted (front ++ (name, value) :: back) := by
    rw [candidates_append, candidates_cons, if_pos letters]
    simp
  cases resolves_iff.2 found with
  | spelled first =>
      obtain ⟨front, name, back, rfl, same, -⟩ := first
      apply member
      simp [sameLetters, beq_iff_eq.1 same]
  | folded _ first =>
      obtain ⟨front, name, back, rfl, letters, -⟩ := first
      exact member letters

/-- Where there is at most one candidate, that one is taken, however it is spelled. -/
theorem field?_eq_some_iff_mem {fields : List (String × Value)} {wanted : String}
    (few : (candidates wanted fields).length ≤ 1) {value : Value} :
    Slots.field? fields wanted = some value ↔ value ∈ candidates wanted fields := by
  constructor
  · exact mem_candidates_of_field?
  · intro candidate
    have positive := List.length_pos_of_mem candidate
    obtain ⟨only, single⟩ := List.length_eq_one_iff.1 (Nat.le_antisymm few positive)
    cases found : Slots.field? fields wanted with
    | some other =>
        have taken := mem_candidates_of_field? found
        rw [single, List.mem_singleton] at taken candidate
        rw [taken, candidate]
    | none =>
        cases resolves_iff.2 found with
        | absent other =>
            obtain ⟨member, inside, -⟩ := List.mem_map.1 candidate
            obtain ⟨present, letters⟩ := List.mem_filter.1 inside
            rw [other member present] at letters
            contradiction

/-- Edits do not change what a field is taken from. -/
theorem field?_of_edits {old new : List (String × Value)} (unambiguous : Unambiguous old)
    (edits : Relation.EqvGen MemberEdit old new) {wanted : String} (known : wanted ∈ fieldNames) :
    Slots.field? old wanted = Slots.field? new wanted := by
  have order := candidates_of_edits edits known
  have few := unambiguous.length_candidates known
  have fewNew : (candidates wanted new).length ≤ 1 := order.length_eq ▸ few
  apply Option.ext
  intro value
  rw [field?_eq_some_iff_mem few, field?_eq_some_iff_mem fewNew, order.mem_iff]

theorem ofFields_of_edits {old new : List (String × Value)} (unambiguous : Unambiguous old)
    (edits : Relation.EqvGen MemberEdit old new) : Slots.ofFields old = Slots.ofFields new := by
  have same (wanted : String) (known : wanted ∈ fieldNames) :
      Slots.field? old wanted = Slots.field? new wanted :=
    field?_of_edits unambiguous edits known
  simp only [Slots.ofFields, Slots.filterField?, same "keys" (by decide), same "values" (by decide),
    same "filterText" (by decide), same "filter" (by decide), same "meta" (by decide)]

/-- A named part is read from the slots that its fields resolve to. Where no two members stand for
one field, it stays the same when members change their order or the case of their names, and when
members of other names come and go. -/
theorem normalize_object_by_letters (fields : List (String × Value)) :
    (∃ slots, (∀ other, ResolvesSlots fields other ↔ other = slots) ∧
        ∀ policy query, normalize policy query (.object fields) = slots.read query) ∧
      (Unambiguous fields → ∀ {edited : List (String × Value)},
        Relation.EqvGen MemberEdit fields edited → ∀ policy query,
          normalize policy query (.object edited) = normalize policy query (.object fields)) := by
  constructor
  · exact ⟨Slots.ofFields fields, fun other => resolvesSlots_iff, fun policy query => rfl⟩
  · intro unambiguous edited edits policy query
    have same := ofFields_of_edits unambiguous edits
    show (Slots.ofFields edited).read query = (Slots.ofFields fields).read query
    rw [same]

/-- Members in no order and no case, one of them of no field, and a filter text that is null. -/
def looseFields : List (String × Value) :=
  [("FILTER", .string " b "), ("note", .null), ("filtertext", .null),
    ("Keys", .array [.string "a=b"])]

/-- The same fields in order, spelled as they are known. -/
def tidyFields : List (String × Value) :=
  [("keys", .array [.string "a=b"]), ("filterText", .null), ("filter", .string " b ")]

theorem edits_looseFields_tidyFields : Relation.EqvGen MemberEdit looseFields tidyFields := by
  let filter : String × Value := ("filter", .string " b ")
  let text : String × Value := ("filterText", .null)
  let keys : String × Value := ("keys", .array [.string "a=b"])
  have first : MemberEdit looseFields (filter :: looseFields.tail) :=
    .recase [] looseFields.tail _ (by decide)
  have second : MemberEdit (filter :: looseFields.tail)
      [filter, ("note", .null), text, ("Keys", .array [.string "a=b"])] :=
    .recase [filter, ("note", .null)] [("Keys", .array [.string "a=b"])] _ (by decide)
  have third : MemberEdit [filter, ("note", .null), text, ("Keys", .array [.string "a=b"])]
      [filter, ("note", .null), text, keys] :=
    .recase [filter, ("note", .null), text] [] _ (by decide)
  have note : MemberEdit [filter, text, keys] [filter, ("note", .null), text, keys] :=
    .insert [filter] [text, keys] .null (by decide)
  have order : MemberEdit [filter, text, keys] tidyFields :=
    .reorder (List.reverse_perm tidyFields)
  refine .trans _ _ _ (.rel _ _ first) ?_
  refine .trans _ _ _ (.rel _ _ second) ?_
  refine .trans _ _ _ (.rel _ _ third) ?_
  refine .trans _ _ _ (.symm _ _ (.rel _ _ note)) ?_
  exact .rel _ _ order

theorem normalize_object_by_letters_looseFields :
    Unambiguous looseFields ∧ Relation.EqvGen MemberEdit looseFields tidyFields ∧
      normalize .strict "main" (.object tidyFields) =
        normalize .strict "main" (.object looseFields) ∧
      ∃ part, (normalize .strict "main" (.object looseFields)).result = .ok part ∧
        part.keys = [⟨"a", "b"⟩] ∧ part.values = [] ∧ part.filter = "b" := by
  have unambiguous : Unambiguous looseFields := by decide
  have edits := edits_looseFields_tidyFields
  have same := (normalize_object_by_letters looseFields).2 unambiguous edits .strict "main"
  obtain ⟨part, made⟩ : ∃ part, (normalize .strict "main" (.object looseFields)).result = .ok part :=
    ⟨_, rfl⟩
  refine ⟨unambiguous, edits, same, part, made, ?_⟩
  cases made
  exact ⟨by decide, rfl, by decide⟩

end QueryGroup.Query
