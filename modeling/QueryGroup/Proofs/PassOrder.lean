import QueryGroup.Proofs.Canonical
import QueryGroup.Proofs.Escaping
set_option autoImplicit false

namespace QueryGroup.Text

variable {pattern replacement : List Char}

/-- Nothing is written but characters of the text and of the replacement. -/
theorem mem_substitute (nonempty : pattern ≠ []) {c : Char} {text : List Char}
    (member : c ∈ substitute pattern replacement text) : c ∈ text ∨ c ∈ replacement := by
  induction text using substitute_induct nonempty with
  | nil =>
      rw [substitute_nil] at member
      exact .inl member
  | replaced rest ih =>
      rw [substitute_append nonempty, List.mem_append] at member
      rcases member with written | later
      · exact .inr written
      · exact (ih later).imp_left (List.mem_append_right pattern)
  | kept d rest stays ih =>
      rw [substitute_cons nonempty stays, List.mem_cons] at member
      rcases member with here | later
      · exact .inl (here ▸ List.mem_cons_self)
      · exact (ih later).imp_left (List.mem_cons_of_mem d)

theorem substitute_ne_nil (nonempty : pattern ≠ []) (written : replacement ≠ []) {text : List Char}
    (present : text ≠ []) : substitute pattern replacement text ≠ [] := by
  induction text using substitute_induct nonempty with
  | nil => exact absurd rfl present
  | replaced rest _ =>
      rw [substitute_append nonempty]
      exact List.append_ne_nil_of_left_ne_nil written _
  | kept c rest stays _ =>
      rw [substitute_cons nonempty stays]
      exact List.cons_ne_nil _ _

/-- No occurrence reaches over a character that the pattern does not hold. -/
theorem prefix_of_prefix_append_cons {front back : List Char} {c : Char} (foreign : c ∉ pattern)
    (starts : pattern <+: front ++ c :: back) : pattern <+: front := by
  apply List.prefix_of_prefix_length_le starts (List.prefix_append front (c :: back))
  by_contra longer
  have within : front.length < pattern.length := by omega
  have reached : pattern[front.length] = c := by
    rw [starts.getElem within, List.getElem_append_right (Nat.le_refl _)]
    simp
  exact foreign (reached ▸ List.getElem_mem within)

/-- Such a character parts a text: what stands before it and what stands behind it are
substituted each on its own. -/
theorem substitute_append_cons (nonempty : pattern ≠ []) {c : Char} (foreign : c ∉ pattern)
    (front back : List Char) :
    substitute pattern replacement (front ++ c :: back) =
      substitute pattern replacement front ++ c :: substitute pattern replacement back := by
  induction front using substitute_induct nonempty with
  | nil =>
      have stays : ¬ pattern <+: c :: back := by
        intro starts
        have empty : pattern <+: [] := prefix_of_prefix_append_cons foreign starts
        exact nonempty (List.prefix_nil.1 empty)
      rw [List.nil_append, substitute_cons nonempty stays, substitute_nil, List.nil_append]
  | replaced rest ih =>
      rw [List.append_assoc, substitute_append nonempty, substitute_append nonempty, ih,
        List.append_assoc]
  | kept d rest stays ih =>
      have alone : ¬ pattern <+: d :: (rest ++ c :: back) := by
        intro starts
        have first : pattern <+: d :: rest := prefix_of_prefix_append_cons foreign starts
        exact stays first
      rw [List.cons_append, substitute_cons nonempty alone, substitute_cons nonempty stays, ih,
        List.cons_append]

/-- A stretch without the character that starts the pattern is passed over. -/
theorem substitute_append_of_not_mem {first : Char} {tail front : List Char}
    (absent : first ∉ front) (rest : List Char) :
    substitute (first :: tail) replacement (front ++ rest) =
      front ++ substitute (first :: tail) replacement rest := by
  induction front with
  | nil => rfl
  | cons c front ih =>
      rw [List.mem_cons, not_or] at absent
      have stays : ¬ first :: tail <+: c :: (front ++ rest) := by
        intro starts
        exact absent.1 (List.cons_prefix_cons.1 starts).1
      rw [List.cons_append, substitute_cons (List.cons_ne_nil first tail) stays, ih absent.2,
        List.cons_append]

/-- A way to write characters that a pattern can be looked for before or after: its characters
stay, and what is written for any other one starts with a mark that the pattern does not hold
and nowhere holds the character that starts the pattern. -/
structure Transparent (pattern : List Char) (write : Char → List Char) : Prop where
  kept : ∀ c ∈ pattern, write c = [c]
  marked : ∀ c, c ∉ pattern →
    ∃ mark tail, write c = mark :: tail ∧ mark ∉ pattern ∧ ∀ first ∈ pattern.head?, first ∉ tail

variable {write : Char → List Char}

/-- Of the characters of the pattern, the same ones start the text before and after. -/
theorem Transparent.prefix_flatMap_iff (transparent : Transparent pattern write)
    {front text : List Char} (within : ∀ c ∈ front, c ∈ pattern) :
    front <+: text.flatMap write ↔ front <+: text := by
  induction front generalizing text with
  | nil => simp
  | cons d front ih =>
      have inner : ∀ c ∈ front, c ∈ pattern := fun c member =>
        within c (List.mem_cons_of_mem d member)
      have own : d ∈ pattern := within d List.mem_cons_self
      cases text with
      | nil => rfl
      | cons c rest =>
          rw [List.flatMap_cons]
          by_cases shared : c ∈ pattern
          · rw [transparent.kept c shared, List.singleton_append, List.cons_prefix_cons,
              List.cons_prefix_cons, ih inner]
          · obtain ⟨mark, tail, written, foreign, -⟩ := transparent.marked c shared
            have before : d ≠ c := fun same => shared (same ▸ own)
            have after : d ≠ mark := fun same => foreign (same ▸ own)
            simp only [written, List.cons_append, List.cons_prefix_cons, before, after, false_and]

/-- What is kept character by character is kept as a whole. -/
theorem flatMap_eq_self {text : List Char} (kept : ∀ c ∈ text, write c = [c]) :
    text.flatMap write = text := by
  rw [List.flatMap_congr kept, List.flatMap_singleton']

/-- The substitution may be made before the writing or after it. -/
theorem Transparent.substitute_flatMap (transparent : Transparent pattern write)
    (nonempty : pattern ≠ []) (whole : replacement.flatMap write = replacement)
    (text : List Char) :
    substitute pattern replacement (text.flatMap write) =
      (substitute pattern replacement text).flatMap write := by
  induction text using substitute_induct nonempty with
  | nil => rw [substitute_nil, List.flatMap_nil, substitute_nil]
  | replaced rest ih =>
      have same : pattern.flatMap write = pattern := flatMap_eq_self transparent.kept
      rw [List.flatMap_append, same, substitute_append nonempty, ih, substitute_append nonempty,
        List.flatMap_append, whole]
  | kept c rest stays ih =>
      rw [substitute_cons nonempty stays, List.flatMap_cons, List.flatMap_cons, ← ih]
      by_cases shared : c ∈ pattern
      -- It stays, and behind it the writing has neither made nor broken an occurrence.
      · have alone : ¬ pattern <+: c :: rest.flatMap write := by
          have front : pattern <+: (c :: rest).flatMap write ↔ pattern <+: c :: rest :=
            transparent.prefix_flatMap_iff fun _ member => member
          rw [List.flatMap_cons, transparent.kept c shared, List.singleton_append] at front
          exact mt front.1 stays
        rw [transparent.kept c shared, List.singleton_append, substitute_cons nonempty alone,
          List.singleton_append]
      -- What is written for it is passed over, since no occurrence starts in it.
      · obtain ⟨mark, tail, written, foreign, apart⟩ := transparent.marked c shared
        obtain ⟨first, others, rfl⟩ := List.exists_cons_of_ne_nil nonempty
        have passed : first ∉ write c := by
          rw [written, List.mem_cons, not_or]
          constructor
          · rintro rfl
            exact foreign List.mem_cons_self
          · exact apart first rfl
        exact substitute_append_of_not_mem passed (rest.flatMap write)

end QueryGroup.Text

namespace QueryGroup.Tenor

open Markup Query Text

theorem toList_castReportDate (text : String) :
    (castReportDate text).toList = substitute bareCall castCall text.toList :=
  String.toList_ofList

theorem charText_of_mem_castCall {c : Char} (member : c ∈ castCall) : charText c = [c] := by
  have plain : castCall.all (fun c => charText c == [c]) = true := by decide +kernel
  exact eq_of_beq (List.all_eq_true.1 plain c member)

theorem mem_castCall_of_mem_bareCall {c : Char} (member : c ∈ bareCall) : c ∈ castCall := by
  have within : bareCall.all (fun c => castCall.contains c) = true := by decide +kernel
  exact List.contains_iff_mem.1 (List.all_eq_true.1 within c member)

theorem head?_bareCall : bareCall.head? = some 'D' := by decide

/-- Escaping shows every character of a call as it is, and each entity starts with an ampersand. -/
theorem transparent_charText : Transparent bareCall charText where
  kept := fun _ member => charText_of_mem_castCall (mem_castCall_of_mem_bareCall member)
  marked := by
    intro c absent
    rw [head?_bareCall]
    cases found : Entity.ofChar? c with
    | none => exact ⟨c, [], charText_of_ofChar?_eq_none found, absent, by simp⟩
    | some entity =>
        rw [← Entity.char_of_ofChar? found, charText_char]
        cases entity <;> exact ⟨'&', _, rfl, by decide, by rintro _ ⟨⟩; decide⟩

theorem escape_castReportDate (text : String) :
    escape (castReportDate text) = castReportDate (escape text) := by
  have whole : castCall.flatMap charText = castCall :=
    flatMap_eq_self fun _ member => charText_of_mem_castCall member
  have written := transparent_charText.substitute_flatMap apart_bareCall_castCall.nonempty whole
  rw [← String.toList_inj, toList_escape, toList_castReportDate, toList_castReportDate,
    toList_escape, escapeChars_eq_flatMap, escapeChars_eq_flatMap, written]

/-- The pair with the report date cast in both of its texts. -/
def castPair (pair : Aliased) : Aliased :=
  ⟨castReportDate pair.name, castReportDate pair.expression⟩

/-- The equals sign is no part of a bare call. -/
theorem castReportDate_text (pair : Aliased) : castReportDate pair.text = (castPair pair).text := by
  have foreign : '=' ∉ bareCall := by decide
  rw [← String.toList_inj, toList_castReportDate, Aliased.toList_text, Aliased.toList_text,
    substitute_append_cons apart_bareCall_castCall.nonempty foreign, castPair,
    toList_castReportDate, toList_castReportDate]

theorem equals_not_mem_castReportDate {text : String} (uncut : '=' ∉ text.toList) :
    '=' ∉ (castReportDate text).toList := by
  rw [toList_castReportDate]
  intro member
  rcases mem_substitute apart_bareCall_castCall.nonempty member with given | written
  · exact uncut given
  · exact absurd written (by decide)

theorem isKey_castPair {pair : Aliased} (key : pair.IsKey) : (castPair pair).IsKey where
  named := by
    have present : pair.name.toList ≠ [] := mt String.toList_eq_nil_iff.1 key.named
    have kept : (castReportDate pair.name).toList ≠ [] := by
      rw [toList_castReportDate]
      exact substitute_ne_nil apart_bareCall_castCall.nonempty (by decide) present
    exact mt String.toList_eq_nil_iff.2 kept
  uncut := equals_not_mem_castReportDate key.uncut

/-- A text that starts with the sign still does. -/
theorem head?_castReportDate {text : String} (starts : text.toList.head? = some '=') :
    (castReportDate text).toList.head? = some '=' := by
  have foreign : '=' ∉ bareCall := by decide
  obtain ⟨rest, shape⟩ := List.head?_eq_some_iff.1 starts
  rw [toList_castReportDate, shape, ← List.nil_append ('=' :: rest),
    substitute_append_cons apart_bareCall_castCall.nonempty foreign, substitute_nil,
    List.nil_append, List.head?_cons]

theorem parseKey?_castReportDate (text : String) :
    Aliased.parseKey? (castReportDate text) = (Aliased.parseKey? text).map castPair := by
  cases parsed : Aliased.parseKey? text with
  | none =>
      rw [Option.map_none, Aliased.parseKey?_eq_none_iff]
      rcases Aliased.parseKey?_eq_none_iff.1 parsed with uncut | starts
      · exact .inl (equals_not_mem_castReportDate uncut)
      · exact .inr (head?_castReportDate starts)
  | some pair =>
      obtain ⟨key, rfl⟩ := Aliased.parseKey?_eq_some_iff.1 parsed
      rw [Option.map_some, castReportDate_text, Aliased.parseKey?_text (isKey_castPair key)]

/-- It does not matter when the report date is cast. A text cast and then escaped is the text
escaped and then cast; a text that is cut comes to the same two texts if it is cast first as if
each of the two is cast, and a text that is not cut is not cut after the cast either. -/
theorem castReportDate_order_independent (text : String) :
    escape (castReportDate text) = castReportDate (escape text) ∧
      (Aliased.parseKey? (castReportDate text) = none ↔ Aliased.parseKey? text = none) ∧
      Aliased.parseKey? (castReportDate text) =
        (Aliased.parseKey? text).map fun pair =>
          ⟨castReportDate pair.name, castReportDate pair.expression⟩ := by
  have cut := parseKey?_castReportDate text
  have uncut : Aliased.parseKey? (castReportDate text) = none ↔ Aliased.parseKey? text = none := by
    rw [cut, Option.map_eq_none_iff]
  exact ⟨escape_castReportDate text, uncut, cut⟩

example : Aliased.parseKey? (castReportDate "DateToTenor(REPORT_DATE=DateToTenor(=REPORT_DATE") =
    some ⟨"DateToTenor(date(REPORT_DATE)", "DateToTenor(=REPORT_DATE"⟩ := by
  decide +kernel

end QueryGroup.Tenor
