import QueryGroup.Proofs.Canonical
set_option autoImplicit false

namespace QueryGroup.Query.Aliased

theorem exists_parseKey?_iff {item : String} :
    (∃ pair, parseKey? item = some pair) ↔
      '=' ∈ item.toList ∧ item.toList.head? ≠ some '=' := by
  have uncut : parseKey? item = none ↔ '=' ∉ item.toList ∨ item.toList.head? = some '=' :=
    parseKey?_eq_none_iff
  rw [← Option.isSome_iff_exists, ← Option.ne_none_iff_isSome, ne_eq, uncut, not_or, not_not]

theorem parseValue_of_parseKey? {item : String} {pair : Aliased}
    (parsed : parseKey? item = some pair) : parseValue item = pair := by
  rw [parseValue, parsed, Option.getD_some]

theorem parseValue_of_uncut {item : String} (uncut : parseKey? item = none) :
    parseValue item = ⟨item, item⟩ := by
  rw [parseValue, uncut, Option.getD_none]

theorem parseValue_text {pair : Aliased} (key : pair.IsKey) : parseValue pair.text = pair :=
  parseValue_of_parseKey? (parseKey?_text key)

/-- A value is read from its joined form exactly if it could be a key: a joined text that is not
cut is longer than its own name, so it cannot stand for the pair. -/
theorem parseValue_text_eq_iff {pair : Aliased} : parseValue pair.text = pair ↔ pair.IsKey := by
  constructor
  · intro read
    cases parsed : parseKey? pair.text with
    | some cut =>
        have same : cut = pair := by
          rw [← parseValue_of_parseKey? parsed, read]
        rw [← same]
        exact (parseKey?_eq_some_iff.1 parsed).1
    | none =>
        have whole : pair.text = pair.name := by
          rw [parseValue_of_uncut parsed] at read
          exact congrArg name read
        have long := congrArg (fun text => text.toList.length) whole
        simp only [toList_text, List.length_append, List.length_cons] at long
        omega
  · exact parseValue_text

/-- Cutting and joining are inverse. An item is a key exactly if it holds an equals sign and does
not start with one; its pair has a name without an equals sign and is the item when joined again.
A pair with such a name is what its joined form is read as, be it a key or a value. Any other item
is, as a value, its own name and expression, and is read from the joined form of that pair exactly
if there is something in it and no equals sign. -/
theorem parse_text_inverse (item : String) :
    ((∃ pair, parseKey? item = some pair) ↔
      '=' ∈ item.toList ∧ item.toList.head? ≠ some '=') ∧
    (∀ pair, parseKey? item = some pair →
      pair.name ≠ "" ∧ '=' ∉ pair.name.toList ∧ pair.text = item ∧ parseValue item = pair) ∧
    (∀ pair : Aliased, pair.name ≠ "" → '=' ∉ pair.name.toList →
      parseKey? pair.text = some pair ∧ parseValue pair.text = pair) ∧
    (¬ ('=' ∈ item.toList ∧ item.toList.head? ≠ some '=') →
      parseValue item = ⟨item, item⟩ ∧
        (parseValue (text ⟨item, item⟩) = ⟨item, item⟩ ↔ item ≠ "" ∧ '=' ∉ item.toList)) := by
  refine ⟨exists_parseKey?_iff, ?_, ?_, ?_⟩
  · intro pair parsed
    obtain ⟨key, joined⟩ := parseKey?_eq_some_iff.1 parsed
    exact ⟨key.named, key.uncut, joined.symm, parseValue_of_parseKey? parsed⟩
  · intro pair named uncut
    have key : pair.IsKey := ⟨named, uncut⟩
    exact ⟨parseKey?_text key, parseValue_text key⟩
  · intro other
    have uncut : parseKey? item = none := by
      rw [← exists_parseKey?_iff, ← Option.isSome_iff_exists] at other
      exact Option.not_isSome_iff_eq_none.1 other
    refine ⟨parseValue_of_uncut uncut, ?_⟩
    rw [parseValue_text_eq_iff]
    constructor
    · intro key
      exact ⟨key.named, key.uncut⟩
    · rintro ⟨named, absent⟩
      exact ⟨named, absent⟩

/-- A key with a further sign in its expression, an item that starts with the sign, and a pair
without an expression. -/
theorem parse_text_inverse_signs :
    parseKey? "a=b=" = some ⟨"a", "b="⟩ ∧ text ⟨"a", "b="⟩ = "a=b=" ∧
      parseValue (text ⟨"a", ""⟩) = ⟨"a", ""⟩ ∧
      parseValue "=a" = ⟨"=a", "=a"⟩ ∧ parseValue (text ⟨"=a", "=a"⟩) ≠ ⟨"=a", "=a"⟩ := by
  have parsed : parseKey? "a=b=" = some ⟨"a", "b="⟩ := by decide
  have joined := ((parse_text_inverse "a=b=").2.1 _ parsed).2.2.1
  have bare := ((parse_text_inverse "a=b=").2.2.1 ⟨"a", ""⟩ (by decide) (by decide)).2
  obtain ⟨whole, lost⟩ := (parse_text_inverse "=a").2.2.2 (by decide)
  exact ⟨parsed, joined, bare, whole, mt lost.1 (by decide)⟩

end QueryGroup.Query.Aliased
