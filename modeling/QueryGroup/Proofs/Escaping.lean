import QueryGroup.Markup.Escape
import QueryGroup.Proofs.Substitution
set_option autoImplicit false

namespace QueryGroup

namespace Markup

open Text

theorem Entity.ofChar?_char (entity : Entity) : Entity.ofChar? entity.char = some entity := by
  cases entity <;> rfl

theorem Entity.ofChar?_eq_none_iff (c : Char) :
    Entity.ofChar? c = none ↔ c ≠ '&' ∧ c ≠ '"' ∧ c ≠ '<' ∧ c ≠ '>' ∧ c ≠ '\'' := by
  simp [Entity.ofChar?, Entity.all, Entity.char, @eq_comm _ _ c]

theorem Entity.char_of_ofChar? {c : Char} {entity : Entity}
    (found : Entity.ofChar? c = some entity) : entity.char = c := by
  simpa using List.find?_some found

theorem charText_of_ofChar?_eq_none {c : Char} (plain : Entity.ofChar? c = none) :
    charText c = [c] := by
  simp only [charText, plain]

theorem charText_char (entity : Entity) : charText entity.char = entity.written := by
  simp only [charText, Entity.ofChar?_char]

/-- A character that no entity holds comes from itself only. -/
theorem eq_of_mem_charText {c given : Char} (foreign : ∀ entity : Entity, c ∉ entity.written)
    (inside : c ∈ charText given) : c = given := by
  cases found : Entity.ofChar? given with
  | some entity =>
      rw [← Entity.char_of_ofChar? found, charText_char] at inside
      exact absurd inside (foreign entity)
  | none =>
      rw [charText_of_ofChar?_eq_none found, List.mem_singleton] at inside
      exact inside

/-- No entity holds a character that a later replacement looks for, except the ampersand,
which comes first. -/
theorem escapeChars_single (c : Char) : escapeChars [c] = charText c := by
  cases found : Entity.ofChar? c with
  | some entity =>
      rw [← Entity.char_of_ofChar? found, charText_char]
      cases entity <;> rfl
  | none =>
      rw [charText_of_ofChar?_eq_none found]
      obtain ⟨amp, quot, lt, gt, apos⟩ := (Entity.ofChar?_eq_none_iff c).1 found
      simp [escapeChars, Entity.all, Entity.char, substitute_single, amp, quot, lt, gt, apos]

/-- Escaping goes character by character. -/
theorem escapeChars_eq_flatMap (text : List Char) :
    escapeChars text = text.flatMap charText := by
  have pointwise : escapeChars text = text.flatMap fun c => escapeChars [c] := by
    simp only [escapeChars, Entity.all, List.foldl_cons, List.foldl_nil, substitute_single,
      List.flatMap_assoc, List.flatMap_cons, List.flatMap_nil, List.append_nil]
  simp only [pointwise, escapeChars_single]

@[simp] theorem escapeChars_nil : escapeChars [] = [] := rfl

theorem escapeChars_cons (c : Char) (rest : List Char) :
    escapeChars (c :: rest) = charText c ++ escapeChars rest := by
  simp only [escapeChars_eq_flatMap, List.flatMap_cons]

theorem escapeChars_of_plain {text : List Char} (plain : ∀ c ∈ text, Entity.ofChar? c = none) :
    escapeChars text = text := by
  induction text with
  | nil => rfl
  | cons c rest ih =>
      rw [escapeChars_cons, charText_of_ofChar?_eq_none (plain c (by simp)),
        ih fun d inside => plain d (List.mem_cons_of_mem _ inside), List.singleton_append]

@[simp] theorem toList_escape (text : String) :
    (escape text).toList = escapeChars text.toList := by
  simp only [escape, String.toList_ofList]

/-- Each entity is found at the start of its own text, whatever follows. -/
theorem readEntity?_written (entity : Entity) (rest : List Char) :
    readEntity? (entity.written ++ rest) = some (entity, rest) := by
  cases entity <;> rfl

theorem Entity.written_eq_cons (entity : Entity) : ∃ tail, entity.written = '&' :: tail := by
  cases entity <;> exact ⟨_, rfl⟩

theorem readEntity?_eq_none {c : Char} (other : c ≠ '&') (rest : List Char) :
    readEntity? (c :: rest) = none := by
  have differs (entity : Entity) : entity.written.isPrefixOf (c :: rest) = false := by
    obtain ⟨tail, shape⟩ := entity.written_eq_cons
    rw [shape, List.isPrefixOf, beq_false_of_ne (Ne.symm other), Bool.false_and]
  simp [readEntity?, Entity.all, differs]

theorem isEscaped_charText (c : Char) (rest : List Char) :
    isEscaped (charText c ++ rest) = isEscaped rest := by
  cases found : Entity.ofChar? c with
  | some entity =>
      rw [← Entity.char_of_ofChar? found, charText_char]
      cases entity <;> rfl
  | none =>
      have other := ((Entity.ofChar?_eq_none_iff c).1 found).1
      rw [charText_of_ofChar?_eq_none found]
      simp [isEscaped, other, found]

theorem isEscaped_escapeChars (text : List Char) : isEscaped (escapeChars text) = true := by
  induction text with
  | nil => rfl
  | cons c rest ih => rw [escapeChars_cons, isEscaped_charText, ih]

theorem decode?_charText (c : Char) (rest : List Char) :
    decode? (charText c ++ rest) = (decode? rest).map (c :: ·) := by
  cases found : Entity.ofChar? c with
  | some entity =>
      have read := readEntity?_written entity rest
      obtain ⟨tail, shape⟩ := entity.written_eq_cons
      rw [← Entity.char_of_ofChar? found, charText_char]
      rw [shape, List.cons_append] at read ⊢
      rw [decode?]
      split
      · next entity' after read' =>
        rw [read] at read'
        cases read'
        rfl
      · next read' =>
        rw [read] at read'
        cases read'
  | none =>
      have other := ((Entity.ofChar?_eq_none_iff c).1 found).1
      rw [charText_of_ofChar?_eq_none found, List.singleton_append, decode?]
      split
      · next entity' after read' =>
        rw [readEntity?_eq_none other] at read'
        cases read'
      · simp [found]

/-- Nothing is lost by escaping. -/
theorem decode?_escapeChars (text : List Char) : decode? (escapeChars text) = some text := by
  induction text with
  | nil => rw [escapeChars_nil, decode?]
  | cons c rest ih => rw [escapeChars_cons, decode?_charText, ih, Option.map_some]

theorem not_mem_charText (c : Char) {special : Char}
    (kind : special = '<' ∨ special = '>' ∨ special = '"') : special ∉ charText c := by
  cases found : Entity.ofChar? c with
  | some entity =>
      rw [← Entity.char_of_ofChar? found, charText_char]
      rcases kind with rfl | rfl | rfl <;> cases entity <;> decide
  | none =>
      rw [charText_of_ofChar?_eq_none found, List.mem_singleton]
      obtain ⟨-, quot, lt, gt, -⟩ := (Entity.ofChar?_eq_none_iff c).1 found
      rcases kind with rfl | rfl | rfl
      · exact Ne.symm lt
      · exact Ne.symm gt
      · exact Ne.symm quot

/-- A bracket or a quote that ends a tag or a value never comes from inside it. -/
theorem not_mem_escapeChars (text : List Char) {special : Char}
    (kind : special = '<' ∨ special = '>' ∨ special = '"') : special ∉ escapeChars text := by
  rw [escapeChars_eq_flatMap, List.mem_flatMap]
  rintro ⟨c, _, inside⟩
  exact not_mem_charText c kind inside

end Markup

end QueryGroup
