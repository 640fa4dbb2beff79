import QueryGroup.Markup.Processor
import QueryGroup.Proofs.Escaping
set_option autoImplicit false

namespace QueryGroup.Markup

open Text

namespace Xml

theorem isChar_of_isAlpha {c : Char} (letter : c.isAlpha = true) : isChar c = true := by
  rw [isChar, Ranges.holds_iff]
  refine ⟨(0x20, 0xD7FF), by decide, ?_⟩
  change (decide (65 ≤ c.val ∧ c.val ≤ 90) ||
    (decide (97 ≤ c.val) && decide (c.val ≤ 122))) = true at letter
  simp only [Bool.or_eq_true, Bool.and_eq_true, decide_eq_true_eq,
    UInt32.le_iff_toNat_le] at letter
  change (65 ≤ c.toNat ∧ c.toNat ≤ 90) ∨ (97 ≤ c.toNat ∧ c.toNat ≤ 122) at letter
  constructor <;> omega

theorem all_isChar_charText (c : Char) : (charText c).all isChar = isChar c := by
  cases found : Entity.ofChar? c with
  | some entity =>
      rw [← Entity.char_of_ofChar? found, charText_char]
      cases entity <;> rfl
  | none => rw [charText_of_ofChar?_eq_none found, List.all_cons, List.all_nil, Bool.and_true]

/-- An entity is written in allowed characters, and so is the character it stands for. -/
theorem all_isChar_escapeChars (text : List Char) :
    (escapeChars text).all isChar = text.all isChar := by
  simp only [escapeChars_eq_flatMap, List.all_flatMap, all_isChar_charText]

@[simp] theorem lineFeeds_nil : lineFeeds [] = [] := rfl

theorem lineFeeds_cons {c : Char} (other : c ≠ '\r') (rest : List Char) :
    lineFeeds (c :: rest) = c :: lineFeeds rest := by
  rw [lineFeeds, if_neg other]

/-- A line end is cut in two only between a carriage return and a line feed. -/
theorem lineFeeds_append {front rest : List Char}
    (apart : '\r' ∉ front ∨ rest.head? ≠ some '\n') :
    lineFeeds (front ++ rest) = lineFeeds front ++ lineFeeds rest := by
  induction front with
  | nil => rfl
  | cons c front ih =>
      have later := ih (apart.imp_left fun absent inside => absent (List.mem_cons_of_mem _ inside))
      by_cases returned : c = '\r'
      · -- Whether a line feed comes next is seen in the front, or the front ends here.
        have next : (front ++ rest).head? = some '\n' ↔ front.head? = some '\n' := by
          cases front with
          | nil => simpa [returned] using apart
          | cons d front => rfl
        simp only [List.cons_append, lineFeeds, returned, if_true, next, later]
        split <;> rfl
      · rw [List.cons_append, lineFeeds_cons returned, lineFeeds_cons returned, later,
          List.cons_append]

theorem lineFeeds_eq_self {text : List Char} (absent : '\r' ∉ text) : lineFeeds text = text := by
  induction text with
  | nil => rfl
  | cons c rest ih =>
      rw [List.mem_cons, not_or] at absent
      obtain ⟨other, absent⟩ := absent
      rw [lineFeeds_cons (Ne.symm other), ih absent]

theorem lineFeeds_append_of_not_mem {front : List Char} (absent : '\r' ∉ front)
    (rest : List Char) : lineFeeds (front ++ rest) = front ++ lineFeeds rest := by
  rw [lineFeeds_append (.inl absent), lineFeeds_eq_self absent]

theorem not_mem_lineFeeds (text : List Char) : '\r' ∉ lineFeeds text := by
  induction text with
  | nil => simp
  | cons c rest ih =>
      unfold lineFeeds
      split
      · split
        · exact ih
        · simp [ih]
      · next other => simp [ih, Ne.symm other]

theorem lineFeeds_eq_self_iff {text : List Char} : lineFeeds text = text ↔ '\r' ∉ text :=
  ⟨fun kept => kept ▸ not_mem_lineFeeds text, lineFeeds_eq_self⟩

theorem not_mem_charText_return {c : Char} (other : c ≠ '\r') : '\r' ∉ charText c := by
  have foreign (entity : Entity) : '\r' ∉ entity.written := by cases entity <;> decide
  intro inside
  exact other (eq_of_mem_charText foreign inside).symm

/-- A line feed is not escaped, and no entity starts with one. -/
theorem head?_escapeChars_eq_feed (text : List Char) :
    (escapeChars text).head? = some '\n' ↔ text.head? = some '\n' := by
  cases text with
  | nil => rfl
  | cons c rest =>
      rw [escapeChars_cons]
      cases found : Entity.ofChar? c with
      | some entity =>
          obtain ⟨tail, shape⟩ := entity.written_eq_cons
          have other : entity.char ≠ '\n' := by cases entity <;> decide
          rw [← Entity.char_of_ofChar? found, charText_char, shape]
          simp [other]
      | none => simp [charText_of_ofChar?_eq_none found]

theorem lineFeeds_escapeChars (text : List Char) :
    lineFeeds (escapeChars text) = escapeChars (lineFeeds text) := by
  induction text with
  | nil => rfl
  | cons c rest ih =>
      by_cases returned : c = '\r'
      · subst returned
        rw [escapeChars_cons, charText_of_ofChar?_eq_none rfl, List.singleton_append]
        simp only [lineFeeds, if_true, head?_escapeChars_eq_feed, ih]
        split
        · rfl
        · rw [escapeChars_cons, charText_of_ofChar?_eq_none rfl, List.singleton_append]
      · have absent := not_mem_charText_return returned
        rw [lineFeeds_cons returned, escapeChars_cons, escapeChars_cons,
          lineFeeds_append_of_not_mem absent, ih]

theorem map_blank_charText (c : Char) : (charText c).map blank = charText (blank c) := by
  cases found : Entity.ofChar? c with
  | some entity =>
      rw [← Entity.char_of_ofChar? found, charText_char]
      cases entity <;> rfl
  | none =>
      rw [charText_of_ofChar?_eq_none found, List.map_singleton]
      unfold blank
      split
      · rfl
      · rw [charText_of_ofChar?_eq_none found]

theorem map_blank_escapeChars (text : List Char) :
    (escapeChars text).map blank = escapeChars (text.map blank) := by
  simp only [escapeChars_eq_flatMap, List.map_flatMap, List.flatMap_map, map_blank_charText]

theorem isBreak_blank (c : Char) : isBreak (blank c) = false := by
  unfold blank
  split
  · rfl
  · next kept => exact eq_false_of_ne_true kept

theorem blank_of_isBreak_eq_false {c : Char} (kept : isBreak c = false) : blank c = c := by
  rw [blank, kept, if_neg Bool.false_ne_true]

theorem readText_append {front : String} (absent : '\r' ∉ front.toList) (rest : String) :
    readText (front ++ rest) = front ++ readText rest := by
  apply String.toList_inj.1
  simp only [readText, String.toList_append, String.toList_ofList,
    lineFeeds_append_of_not_mem absent]

/-- Text keeps everything but its carriage returns. -/
theorem readText_eq_self_iff {text : String} : readText text = text ↔ '\r' ∉ text.toList := by
  rw [← lineFeeds_eq_self_iff, readText, ← String.toList_inj, String.toList_ofList]

/-- A value that is read without a change has no white space other than blanks. -/
theorem readValue_eq_self_iff {value : String} :
    readValue value = value ↔ ∀ c ∈ value.toList, isBreak c = false := by
  rw [readValue, blankText, readText, ← String.toList_inj]
  simp only [String.toList_ofList]
  constructor
  · intro kept c inside
    rw [← kept] at inside
    obtain ⟨source, -, rfl⟩ := List.mem_map.1 inside
    exact isBreak_blank source
  · intro plain
    have absent : '\r' ∉ value.toList := fun inside => by cases plain _ inside
    rw [lineFeeds_eq_self absent]
    exact (List.map_congr_left fun c inside => blank_of_isBreak_eq_false (plain c inside)).trans
      (List.map_id _)

end Xml

end QueryGroup.Markup
