import QueryGroup.Proofs.Canonical
set_option autoImplicit false

namespace QueryGroup

open Json Query Text

namespace Query.Aliased

/-- A value that was not cut has a name like that of a key, or one that starts with an equals
sign. -/
theorem isValue_iff {pair : Aliased} :
    pair.IsValue ↔
      pair.IsKey ∨ pair.name = pair.expression ∧ pair.name.toList.head? = some '=' := by
  constructor
  · rintro (key | ⟨present, same, whole⟩)
    · exact .inl key
    · rcases parseKey?_eq_none_iff.1 whole with uncut | starts
      · exact .inl ⟨present, uncut⟩
      · exact .inr ⟨same.symm, starts⟩
  · rintro (key | ⟨same, starts⟩)
    · exact .inl key
    · refine .inr ⟨?_, same.symm, parseKey?_eq_none_iff.2 (.inr starts)⟩
      intro empty
      simp [empty] at starts

theorem parseValue_item {pair : Aliased} (value : pair.IsValue) :
    parseValue pair.item = pair := by
  unfold item
  rcases isValue_iff.1 value with key | ⟨same, starts⟩
  · have cut : pair.name.toList.head? ≠ some '=' := fun starts =>
      key.uncut (List.mem_of_head? starts)
    rw [if_neg cut, parseValue, parseKey?_text key, Option.getD_some]
  · rw [if_pos starts, parseValue, parseKey?_eq_none_iff.2 (.inr starts), Option.getD_none]
    cases pair
    cases same
    rfl

theorem item_ne_empty (pair : Aliased) : pair.item ≠ "" := by
  unfold item
  split
  · next starts =>
    intro empty
    simp [empty] at starts
  · exact text_ne_empty pair

end Query.Aliased

namespace Query.Part

variable {part : Part}

theorem isCanonical_iff :
    part.IsCanonical ↔
      (∀ key ∈ part.keys, key.IsKey) ∧
        (∀ value ∈ part.values, value.IsKey ∨
          value.name = value.expression ∧ value.name.toList.head? = some '=') ∧
        Unpadded part.filter.toList := by
  constructor
  · rintro ⟨keys, values, filter⟩
    exact ⟨keys, fun value member => Aliased.isValue_iff.1 (values value member),
      trim_eq_self_iff.1 filter⟩
  · rintro ⟨keys, values, filter⟩
    exact ⟨keys, fun value member => Aliased.isValue_iff.2 (values value member),
      trim_eq_self_iff.2 filter⟩

theorem IsCanonical.result_normalize_item (canonical : part.IsCanonical)
    (policy : PositionalPolicy) (query : String) (shape : Shape) :
    (normalize policy query (part.toRaw Aliased.item shape)).result = .ok part :=
  canonical.result_normalize_toRaw (fun value inside =>
    ⟨Aliased.parseValue_item (canonical.values value inside), Aliased.item_ne_empty value⟩) shape

theorem distinct_strings (items : List String) : (strings items).Distinct := by
  rw [strings, Value.Distinct]
  induction items with
  | nil => simp [Value.DistinctItems]
  | cons item rest ih => simpa [Value.DistinctItems, Value.Distinct] using ih

/-- A part that is written down repeats no name but inside its metadata. -/
theorem distinct_toRaw (item : Aliased → String)
    (metadata : ∀ value, part.metadata = some value → value.Distinct) (shape : Shape) :
    (part.toRaw item shape).Distinct := by
  rcases part with ⟨keys, values, filter, _ | value⟩
  · cases shape <;>
      simp [toRaw, toNamed, toPositional, Value.Distinct, Value.DistinctItems,
        Value.DistinctMembers, distinct_strings, Assoc.keys]
  · have inner := metadata value rfl
    cases shape <;>
      simp [toRaw, toNamed, toPositional, Value.Distinct, Value.DistinctItems,
        Value.DistinctMembers, distinct_strings, Assoc.keys, inner]

end Query.Part

/-- Under either policy the parts that normalizing gives are those of that form, with any
metadata. Written down in either shape, such a part is given again, and the raw part repeats no
name, if the metadata repeats none. -/
theorem exists_normalize_eq_ok_iff (policy : PositionalPolicy) (query : String) (part : Part) :
    ((∃ raw, (normalize policy query raw).result = .ok part) ↔
        (∀ key ∈ part.keys, key.name ≠ "" ∧ '=' ∉ key.name.toList) ∧
          (∀ value ∈ part.values, (value.name ≠ "" ∧ '=' ∉ value.name.toList) ∨
            value.name = value.expression ∧ value.name.toList.head? = some '=') ∧
          Unpadded part.filter.toList) ∧
      ∀ raw, (normalize policy query raw).result = .ok part →
        ∀ shape, (normalize policy query (part.toRaw Aliased.item shape)).result = .ok part ∧
          ((∀ value, part.metadata = some value → value.Distinct) →
            (part.toRaw Aliased.item shape).Distinct) := by
  have isKey (pair : Aliased) : pair.IsKey ↔ pair.name ≠ "" ∧ '=' ∉ pair.name.toList :=
    ⟨fun key => ⟨key.named, key.uncut⟩, fun key => ⟨key.1, key.2⟩⟩
  simp only [← isKey, ← Part.isCanonical_iff]
  refine ⟨⟨?_, ?_⟩, ?_⟩
  · rintro ⟨raw, made⟩
    exact isCanonical_of_normalize made
  · intro canonical
    exact ⟨_, canonical.result_normalize_item policy query .named⟩
  · intro raw made shape
    exact ⟨(isCanonical_of_normalize made).result_normalize_item policy query shape,
      fun metadata => Part.distinct_toRaw Aliased.item metadata shape⟩

/-- A part with values that were never cut, an empty expression and blanks inside the filter. -/
def uncutPart : Part where
  keys := [⟨"a", "=b"⟩]
  values := [⟨"=", "="⟩, ⟨"=c=d", "=c=d"⟩, ⟨"e", ""⟩]
  filter := "f \n g"
  metadata := some .null

theorem exists_normalize_eq_ok_iff_uncutPart :
    ∃ raw, (normalize .strict "query" raw).result = .ok uncutPart ∧
      ∀ shape, (normalize .strict "query" (uncutPart.toRaw Aliased.item shape)).result =
          .ok uncutPart ∧
        (uncutPart.toRaw Aliased.item shape).Distinct := by
  obtain ⟨image, again⟩ := exists_normalize_eq_ok_iff .strict "query" uncutPart
  have unpadded : Unpadded uncutPart.filter.toList := ⟨by rintro c ⟨⟩; rfl, by rintro c ⟨⟩; rfl⟩
  obtain ⟨raw, made⟩ := image.2 ⟨by decide, by decide, unpadded⟩
  refine ⟨raw, made, ?_⟩
  intro shape
  obtain ⟨same, distinct⟩ := again raw made shape
  refine ⟨same, distinct ?_⟩
  rintro value ⟨⟩
  simp [Value.Distinct]

end QueryGroup
