import QueryGroup.Proofs.ReadBack
set_option autoImplicit false

namespace QueryGroup.Markup

open ReaderState

/-- Of the special characters only ampersands stand in the text, and each starts an entity. -/
structure Escaped (text : List Char) : Prop where
  hidden : ∀ special ∈ ['<', '>', '"', '\''], special ∉ text
  started : ∀ front rest, text = front ++ '&' :: rest →
    ∃ entity : Entity, entity.written <+: '&' :: rest

theorem eq_written_append_of_readEntity? {text rest : List Char} {entity : Entity}
    (read : readEntity? text = some (entity, rest)) : text = entity.written ++ rest := by
  obtain ⟨candidate, -, found⟩ := List.exists_of_findSome?_eq_some read
  obtain ⟨starts, same⟩ := Option.ite_none_right_eq_some.1 found
  cases same
  exact (List.prefix_iff_eq_append.1 (List.isPrefixOf_iff_prefix.1 starts)).symm

theorem exists_written_prefix_iff (text : List Char) :
    (∃ entity : Entity, entity.written <+: text) ↔ (readEntity? text).isSome = true := by
  constructor
  · rintro ⟨entity, rest, rfl⟩
    rw [readEntity?_written]
    rfl
  · intro read
    obtain ⟨⟨entity, rest⟩, read⟩ := Option.isSome_iff_exists.1 read
    exact ⟨entity, rest, (eq_written_append_of_readEntity? read).symm⟩

theorem ofChar?_eq_none_iff_hidden {c : Char} (other : c ≠ '&') :
    Entity.ofChar? c = none ↔ ∀ special ∈ ['<', '>', '"', '\''], special ≠ c := by
  rw [Entity.ofChar?_eq_none_iff]
  constructor
  · rintro ⟨-, quot, lt, gt, apos⟩
    simp only [List.forall_mem_cons]
    exact ⟨lt.symm, gt.symm, quot.symm, apos.symm, by simp⟩
  · intro hidden
    simp only [List.forall_mem_cons] at hidden
    obtain ⟨lt, gt, quot, apos, -⟩ := hidden
    exact ⟨other, quot.symm, lt.symm, gt.symm, apos.symm⟩

/-- The check of one character is what it adds to the condition on the whole text. -/
theorem escaped_cons_iff (c : Char) (rest : List Char) :
    Escaped (c :: rest) ↔
      (if c = '&' then (readEntity? (c :: rest)).isSome else (Entity.ofChar? c).isNone) = true ∧
        Escaped rest := by
  constructor
  · intro escaped
    refine ⟨?_, ?_, ?_⟩
    · split
      · next amp =>
        subst amp
        exact (exists_written_prefix_iff _).1 (escaped.started [] rest rfl)
      · next other =>
        rw [Option.isNone_iff_eq_none, ofChar?_eq_none_iff_hidden other]
        intro special listed
        exact (List.ne_and_not_mem_of_not_mem_cons (escaped.hidden special listed)).1
    · intro special listed
      exact (List.ne_and_not_mem_of_not_mem_cons (escaped.hidden special listed)).2
    · rintro front behind rfl
      exact escaped.started (c :: front) behind rfl
  · rintro ⟨first, escaped⟩
    refine ⟨?_, ?_⟩
    · intro special listed
      have differs : special ≠ c := by
        by_cases amp : c = '&'
        · rintro rfl
          subst amp
          simp at listed
        · rw [if_neg amp, Option.isNone_iff_eq_none, ofChar?_eq_none_iff_hidden amp] at first
          exact first special listed
      rw [List.mem_cons, not_or]
      exact ⟨differs, escaped.hidden special listed⟩
    · intro front behind split
      cases front with
      | nil =>
          obtain ⟨rfl, rfl⟩ := List.cons.inj split
          rw [if_pos rfl] at first
          exact (exists_written_prefix_iff _).2 first
      | cons d front => exact escaped.started front behind (List.cons.inj split).2

theorem isEscaped_iff (text : List Char) : isEscaped text = true ↔ Escaped text := by
  induction text with
  | nil => exact ⟨fun _ => ⟨by simp, by simp⟩, fun _ => rfl⟩
  | cons c rest ih => rw [isEscaped, Bool.and_eq_true, ih, escaped_cons_iff]

/-- Decoding accepts just the escaped texts. -/
theorem isSome_decode? (text : List Char) : (decode? text).isSome = isEscaped text := by
  fun_induction decode? text with
  | case1 => rfl
  | case2 c rest entity after read _ ih =>
      rw [Option.isSome_map, ih, eq_written_append_of_readEntity? read, ← charText_char,
        isEscaped_charText]
  | case3 c rest read special =>
      have bare : (Entity.ofChar? c).isNone = false := by simpa using special
      simp [isEscaped, read, bare]
  | case4 c rest read plain ih =>
      have kept : Entity.ofChar? c = none := by simpa using plain
      have same := isEscaped_charText c rest
      rw [charText_of_ofChar?_eq_none kept, List.singleton_append] at same
      rw [Option.isSome_map, ih, same]

/-- A text that was decoded is written again by escaping. -/
theorem escapeChars_of_decode? {text source : List Char} (decoded : decode? text = some source) :
    escapeChars source = text := by
  fun_induction decode? text generalizing source with
  | case1 =>
      cases decoded
      rfl
  | case2 c rest entity after read _ ih =>
      obtain ⟨later, decodedLater, rfl⟩ := Option.map_eq_some_iff.1 decoded
      rw [escapeChars_cons, charText_char, ih decodedLater, eq_written_append_of_readEntity? read]
  | case3 c rest read special => cases decoded
  | case4 c rest read plain ih =>
      obtain ⟨later, decodedLater, rfl⟩ := Option.map_eq_some_iff.1 decoded
      have kept : Entity.ofChar? c = none := by simpa using plain
      rw [escapeChars_cons, charText_of_ofChar?_eq_none kept, ih decodedLater,
        List.singleton_append]

theorem escaped_escape (source : String) : Escaped (escape source).toList := by
  rw [← isEscaped_iff, toList_escape, isEscaped_escapeChars]

theorem map_escape_decodeText? {text : String} (escaped : Escaped text.toList) :
    (decodeText? text.toList).map escape = some text := by
  rw [← isEscaped_iff, ← isSome_decode?] at escaped
  obtain ⟨source, decoded⟩ := Option.isSome_iff_exists.1 escaped
  rw [decodeText?, decoded, Option.map_some, Option.map_some, escape, String.toList_ofList,
    escapeChars_of_decode? decoded, String.ofList_toList]

/-- Escaping and decoding are inverse to one another, between all texts and those in which no
special character stands bare; and no others are given by escaping. -/
theorem escape_bijective (text : String) :
    decodeText? (escape text).toList = some text ∧
      ((∃ source, escape source = text) ↔ Escaped text.toList) ∧
      ((decodeText? text.toList).map escape = some text ↔ Escaped text.toList) := by
  have restored : decodeText? (escape text).toList = some text := by
    rw [toList_escape, decodeText?_escapeChars]
  have range {source : String} (written : escape source = text) : Escaped text.toList := by
    rw [← written]
    exact escaped_escape source
  refine ⟨restored, ⟨fun ⟨_, written⟩ => range written, ?_⟩, ?_, map_escape_decodeText?⟩
  · intro escaped
    obtain ⟨source, -, written⟩ := Option.map_eq_some_iff.1 (map_escape_decodeText? escaped)
    exact ⟨source, written⟩
  · intro again
    obtain ⟨source, -, written⟩ := Option.map_eq_some_iff.1 again
    exact range written

end QueryGroup.Markup
