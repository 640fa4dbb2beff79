import QueryGroup.Proofs.Normalizing
set_option autoImplicit false

namespace QueryGroup

namespace Assoc

variable {α : Type}

theorem get?_cons (pair : String × α) (rest : List (String × α)) (name : String) :
    get? (pair :: rest) name = if pair.1 = name then some pair.2 else get? rest name := by
  by_cases same : pair.1 = name <;> simp [get?, same]

theorem mem_keys {pairs : List (String × α)} {name : String} {value : α}
    (member : (name, value) ∈ pairs) : name ∈ keys pairs :=
  List.mem_map_of_mem member

/-- Where names are distinct, a name leads to the value it stands with. -/
theorem get?_eq_some_iff {pairs : List (String × α)} (distinct : (keys pairs).Nodup)
    (name : String) (value : α) : get? pairs name = some value ↔ (name, value) ∈ pairs := by
  induction pairs with
  | nil => simp [get?]
  | cons pair rest ih =>
      rw [keys_cons, List.nodup_cons] at distinct
      rw [get?_cons, List.mem_cons]
      by_cases same : pair.1 = name
      · subst same
        have absent : (pair.1, value) ∉ rest := fun member => distinct.1 (mem_keys member)
        rw [if_pos rfl, Option.some.injEq, or_iff_left absent]
        exact ⟨fun here => here ▸ rfl, fun here => (congrArg Prod.snd here).symm⟩
      · have other : (name, value) ≠ pair := fun here => same (congrArg Prod.fst here).symm
        rw [if_neg same, ih distinct.2, or_iff_right other]

theorem get?_eq_of_perm {front back : List (String × α)} (order : front.Perm back)
    (distinct : (keys front).Nodup) (name : String) : get? front name = get? back name := by
  have distinctBack : (keys back).Nodup := (order.map Prod.fst).nodup_iff.1 distinct
  apply Option.ext
  intro value
  rw [get?_eq_some_iff distinct, get?_eq_some_iff distinctBack, order.mem_iff]

theorem get?_eq_none_of_forall {pairs : List (String × α)} {name : String}
    (absent : ∀ pair ∈ pairs, pair.1 ≠ name) : get? pairs name = none := by
  rw [get?, Option.map_eq_none_iff, List.find?_eq_none]
  intro pair member
  simpa using absent pair member

end Assoc

namespace Query

open Json Text

namespace Slots

/-- The fields that name the slots of an array, its first element aside. -/
def names : List String := ["keys", "values", "filterText", "meta"]

/-- The slots that an array has, each under its name. -/
def members (elements : List Value) : List (String × Value) := names.zip elements.tail

theorem mem_names_of_mem_members {elements : List Value} {field : String × Value}
    (member : field ∈ members elements) : field.1 ∈ names :=
  (List.of_mem_zip member).1

theorem nodup_keys_members (elements : List Value) : (Assoc.keys (members elements)).Nodup := by
  rcases elements with _ | ⟨_, _ | ⟨_, _ | ⟨_, _ | ⟨_, _ | ⟨_, _⟩⟩⟩⟩⟩ <;>
    simp [members, names, Assoc.keys]

/-- No two of the names that are looked up differ in case only. -/
theorem eq_of_sameLetters : ∀ name ∈ names, ∀ wanted ∈ "filter" :: names,
    sameLetters name wanted = true → name = wanted := by
  decide

/-- Among slots under their names the exact name is the only one that can be found. -/
theorem field?_eq_get? {fields : List (String × Value)}
    (named : ∀ field ∈ fields, field.1 ∈ names) {wanted : String}
    (known : wanted ∈ "filter" :: names) : field? fields wanted = Assoc.get? fields wanted := by
  unfold field?
  cases found : Assoc.get? fields wanted with
  | some value => rfl
  | none =>
      rw [Option.none_or, Option.map_eq_none_iff, List.find?_eq_none]
      intro field member same
      have exact_name := eq_of_sameLetters field.1 (named field member) wanted known same
      rw [Assoc.get?, Option.map_eq_none_iff, List.find?_eq_none] at found
      exact found field member (beq_iff_eq.2 exact_name)

variable {elements : List Value} {fields : List (String × Value)}

theorem field?_of_perm (order : fields.Perm (members elements)) {wanted : String}
    (known : wanted ∈ "filter" :: names) :
    field? fields wanted = Assoc.get? (members elements) wanted := by
  have named : ∀ field ∈ fields, field.1 ∈ names := fun field member =>
    mem_names_of_mem_members (order.mem_iff.1 member)
  have distinct : (Assoc.keys fields).Nodup :=
    (order.map Prod.fst).nodup_iff.2 (nodup_keys_members elements)
  rw [field?_eq_get? named known, Assoc.get?_eq_of_perm order distinct]

theorem get?_members (elements : List Value) :
    Assoc.get? (members elements) "keys" = elements[1]? ∧
      Assoc.get? (members elements) "values" = elements[2]? ∧
      Assoc.get? (members elements) "filterText" = elements[3]? ∧
      Assoc.get? (members elements) "meta" = elements[4]? := by
  rcases elements with _ | ⟨_, _ | ⟨_, _ | ⟨_, _ | ⟨_, _ | ⟨_, _⟩⟩⟩⟩⟩ <;>
    exact ⟨rfl, rfl, rfl, rfl⟩

theorem get?_members_filter (elements : List Value) :
    Assoc.get? (members elements) "filter" = none := by
  apply Assoc.get?_eq_none_of_forall
  intro field member same
  have named := mem_names_of_mem_members member
  rw [same] at named
  exact absurd named (by decide)

/-- A null filter text is passed over and nothing is found in its place, which reads the same. -/
theorem readFilter_filterField? (query : String) (order : fields.Perm (members elements)) :
    readFilter query (filterField? fields) = readFilter query elements[3]? := by
  have text : field? fields "filterText" = elements[3]? := by
    rw [field?_of_perm order (by decide), (get?_members elements).2.2.1]
  have other : field? fields "filter" = none := by
    rw [field?_of_perm order (by decide), get?_members_filter]
  rw [filterField?, text, other]
  cases elements[3]? with
  | none => rfl
  | some value => cases value <;> rfl

/-- Reading the object is reading the array. -/
theorem read_ofFields (query : String) (order : fields.Perm (members elements)) :
    (ofFields fields).read query = (ofList elements).read query := by
  obtain ⟨keys, values, -, metadata⟩ := get?_members elements
  rw [← field?_of_perm order (by decide)] at keys values metadata
  simp only [read, ofFields, ofList, keys, values, metadata, readFilter_filterField? query order]

end Slots

theorem result_admitLength {policy : PositionalPolicy} {count : Nat} (query : String)
    (admitted : policy = .lenient ∨ completeLength ≤ count) :
    (admitLength policy query count).result = .ok () := by
  unfold admitLength
  by_cases complete : completeLength ≤ count
  · rw [if_pos complete]
    rfl
  · rw [if_neg complete, admitted.resolve_right complete]
    rfl

theorem result_normalize_array {policy : PositionalPolicy} {elements : List Value}
    (query : String) (admitted : policy = .lenient ∨ completeLength ≤ elements.length) :
    (normalize policy query (.array elements)).result =
      ((Slots.ofList elements).read query).result := by
  show (normalizeRaw policy query (.positional elements)).result = _
  rw [normalizeRaw, Audited.result_bind, result_admitLength query admitted]
  rfl

end Query

open Json Query

/-- An array and the object of its slots come to the same part, or are refused for the same
reason. A null stays where it is metadata and is an empty filter where it is the filter text. -/
theorem result_normalize_array_eq_object {policy : PositionalPolicy} {elements : List Value}
    {fields : List (String × Value)} (query : String)
    (admitted : policy = .lenient ∨ completeLength ≤ elements.length)
    (order : fields.Perm (Slots.members elements)) :
    (normalize policy query (.array elements)).result =
        (normalize policy query (.object fields)).result ∧
      ∀ {part : Part}, (normalize policy query (.object fields)).result = .ok part →
        part.metadata = elements[4]? ∧ (elements[3]? = some .null → part.filter = "") := by
  have array := result_normalize_array query admitted
  have object : (normalize policy query (.object fields)).result =
      ((Slots.ofFields fields).read query).result := rfl
  rw [array, object, Slots.read_ofFields query order]
  refine ⟨rfl, ?_⟩
  intro part made
  obtain ⟨-, -, filter, metadata⟩ := result_read_eq_ok_iff.1 made
  refine ⟨metadata.symm, ?_⟩
  intro null
  rw [Slots.ofList, null] at filter
  exact (Except.ok.inj filter).symm

theorem result_normalize_array_eq_object_nulls :
    let elements : List Value :=
      [.bool true, .array [.string "a=b", .null], .null, .null, .null, .string "more"]
    let fields : List (String × Value) :=
      [("meta", .null), ("filterText", .null), ("values", .null),
        ("keys", .array [.string "a=b", .null])]
    completeLength ≤ elements.length ∧ fields.Perm (Slots.members elements) ∧
      (normalize .strict "query" (.array elements)).result =
        (normalize .strict "query" (.object fields)).result ∧
      ∃ part, (normalize .strict "query" (.object fields)).result = .ok part ∧
        part.metadata = some .null ∧ part.filter = "" := by
  intro elements fields
  have complete : completeLength ≤ elements.length := by decide
  have admitted : PositionalPolicy.strict = .lenient ∨ completeLength ≤ elements.length :=
    .inr complete
  have order : fields.Perm (Slots.members elements) :=
    List.reverse_perm (Slots.members elements)
  obtain ⟨part, made⟩ : ∃ part, (normalize .strict "query" (.object fields)).result = .ok part :=
    ⟨_, rfl⟩
  obtain ⟨same, kept⟩ := result_normalize_array_eq_object "query" admitted order
  exact ⟨complete, order, same, part, made, (kept made).1, (kept made).2 rfl⟩

end QueryGroup
