import QueryGroup.Proofs.Substitution
set_option autoImplicit false

/- Substitution position by position. Occurrences of a pattern that cannot run into itself
never overlap, so all of them are replaced, each where it stands, and the text between them is
kept. The bare call of `DateToTenor` is such a pattern. -/
namespace QueryGroup.Text

variable {pattern replacement : List Char}

/-- The pattern stands in the text at the position. -/
def OccursAt (pattern text : List Char) (position : Nat) : Prop := pattern <+: text.drop position

/-- The position lies in an occurrence, behind its first character. -/
def InsideAt (pattern text : List Char) (position : Nat) : Prop :=
  ∃ start < position, position < start + pattern.length ∧ OccursAt pattern text start

instance (pattern text : List Char) (position : Nat) :
    Decidable (OccursAt pattern text position) :=
  inferInstanceAs (Decidable (pattern <+: text.drop position))

instance (pattern text : List Char) (position : Nat) :
    Decidable (InsideAt pattern text position) :=
  inferInstanceAs (Decidable (∃ start < position, _ ∧ _))

/-- What is written for the character at a position: the replacement where an occurrence
starts, nothing in the rest of it, and outside of all occurrences the character. -/
def replacedAt (pattern replacement text : List Char) (position : Nat) : List Char :=
  if OccursAt pattern text position then replacement
  else if InsideAt pattern text position then []
  else text[position]?.toList

/-- What is written for a text: what is written for each of its positions. -/
def replacedEach (pattern replacement text : List Char) : List Char :=
  (List.range text.length).flatMap (replacedAt pattern replacement text)

theorem occurs_iff_infix (pattern text : List Char) :
    occurs pattern text = true ↔ pattern <:+: text := by
  induction text with
  | nil => simp [occurs]
  | cons c rest ih =>
      rw [occurs, Bool.or_eq_true, List.isPrefixOf_iff_prefix, ih, List.infix_cons_iff]

theorem occurs_eq_false_iff (pattern text : List Char) :
    occurs pattern text = false ↔ ¬ pattern <:+: text := by
  rw [← occurs_iff_infix, Bool.not_eq_true]

theorem occursAt_zero (pattern rest : List Char) : OccursAt pattern (pattern ++ rest) 0 :=
  List.prefix_append pattern rest

theorem occursAt_append (front rest : List Char) (position : Nat) :
    OccursAt pattern (front ++ rest) (front.length + position) ↔
      OccursAt pattern rest position := by
  rw [OccursAt, OccursAt, List.drop_length_add_append]

/-- Nothing that starts in the front reaches behind it. -/
def EndsWithin (pattern front rest : List Char) : Prop :=
  ∀ start < front.length, OccursAt pattern (front ++ rest) start →
    start + pattern.length ≤ front.length

theorem insideAt_append {front rest : List Char} (within : EndsWithin pattern front rest)
    (position : Nat) :
    InsideAt pattern (front ++ rest) (front.length + position) ↔
      InsideAt pattern rest position := by
  constructor
  · rintro ⟨start, before, reaches, occurs⟩
    by_cases early : start < front.length
    · have ended := within start early occurs
      omega
    · obtain ⟨shifted, rfl⟩ := Nat.exists_eq_add_of_le (Nat.le_of_not_lt early)
      exact ⟨shifted, by omega, by omega, (occursAt_append front rest shifted).1 occurs⟩
  · rintro ⟨start, before, reaches, occurs⟩
    exact ⟨front.length + start, by omega, by omega, (occursAt_append front rest start).2 occurs⟩

theorem replacedAt_append {front rest : List Char} (within : EndsWithin pattern front rest)
    (position : Nat) :
    replacedAt pattern replacement (front ++ rest) (front.length + position) =
      replacedAt pattern replacement rest position := by
  have behind : (front ++ rest)[front.length + position]? = rest[position]? := by
    rw [List.getElem?_append_right (by omega), Nat.add_sub_cancel_left]
  simp only [replacedAt, occursAt_append, insideAt_append within, behind]

theorem replacedEach_append {front rest : List Char} (within : EndsWithin pattern front rest) :
    replacedEach pattern replacement (front ++ rest) =
      (List.range front.length).flatMap (replacedAt pattern replacement (front ++ rest)) ++
        replacedEach pattern replacement rest := by
  simp only [replacedEach, List.length_append, List.range_add, List.flatMap_append,
    List.flatMap_map, replacedAt_append within]

theorem not_insideAt_zero (text : List Char) : ¬ InsideAt pattern text 0 := by
  rintro ⟨start, before, -⟩
  omega

/-- A pattern no end of which starts the pattern again. -/
structure Unbordered (pattern : List Char) : Prop where
  nonempty : pattern ≠ []
  ends : EndsApart pattern pattern

/-- Where one occurrence starts, the one before has ended. -/
theorem Unbordered.le_of_occursAt (whole : Unbordered pattern) {text : List Char}
    {start next : Nat} (first : OccursAt pattern text start) (second : OccursAt pattern text next)
    (later : start < next) : start + pattern.length ≤ next := by
  apply Nat.le_of_not_lt
  intro overlap
  obtain ⟨k, rfl⟩ := Nat.exists_eq_add_of_le (Nat.le_of_lt later)
  obtain ⟨behind, split⟩ := first
  -- What is left of the first occurrence where the second starts.
  have rest : pattern.drop k <+: text.drop (start + k) := by
    refine ⟨behind, ?_⟩
    rw [← List.drop_drop, ← split, List.drop_append_of_le_length (by omega)]
  exact whole.ends k (by omega) (by omega) (List.prefix_or_prefix_of_prefix rest second)

theorem Unbordered.endsWithin (whole : Unbordered pattern) (rest : List Char) :
    EndsWithin pattern pattern rest := by
  intro start short occurs
  by_cases first : start = 0
  · omega
  · have ended := whole.le_of_occursAt (occursAt_zero pattern rest) occurs (by omega)
    omega

/-- Inside of an occurrence nothing is written. -/
theorem Unbordered.replacedAt_succ (whole : Unbordered pattern) {rest : List Char} {k : Nat}
    (short : k + 1 < pattern.length) :
    replacedAt pattern replacement (pattern ++ rest) (k + 1) = [] := by
  have front := occursAt_zero pattern rest
  have elsewhere : ¬ OccursAt pattern (pattern ++ rest) (k + 1) := by
    intro occurs
    have ended := whole.endsWithin rest (k + 1) short occurs
    omega
  have inside : InsideAt pattern (pattern ++ rest) (k + 1) := ⟨0, by omega, by omega, front⟩
  rw [replacedAt, if_neg elsewhere, if_pos inside]

theorem Unbordered.replacedEach_append (whole : Unbordered pattern) (rest : List Char) :
    replacedEach pattern replacement (pattern ++ rest) =
      replacement ++ replacedEach pattern replacement rest := by
  obtain ⟨size, length⟩ := Nat.exists_eq_succ_of_ne_zero
    (Nat.ne_of_gt (List.length_pos_iff.2 whole.nonempty))
  have silent : (List.range size).flatMap
      (fun k => replacedAt pattern replacement (pattern ++ rest) k.succ) = [] := by
    rw [List.flatMap_eq_nil_iff]
    intro k inside
    have short := List.mem_range.1 inside
    exact whole.replacedAt_succ (by omega)
  rw [Text.replacedEach_append (whole.endsWithin rest), length, List.range_succ_eq_map,
    List.flatMap_cons, List.flatMap_map, silent, List.append_nil, replacedAt,
    if_pos (occursAt_zero pattern rest)]

theorem replacedEach_cons {c : Char} {rest : List Char}
    (kept : ¬ pattern <+: c :: rest) :
    replacedEach pattern replacement (c :: rest) =
      c :: replacedEach pattern replacement rest := by
  have within : EndsWithin pattern [c] rest := by
    intro start short occurs
    obtain rfl : start = 0 := by simpa using short
    exact absurd occurs kept
  have elsewhere : ¬ OccursAt pattern (c :: rest) 0 := kept
  have written : replacedAt pattern replacement (c :: rest) 0 = [c] := by
    rw [replacedAt, if_neg elsewhere, if_neg (not_insideAt_zero _)]
    rfl
  have split : replacedEach pattern replacement ([c] ++ rest) = _ := replacedEach_append within
  simpa [written] using split

/-- Reading from the left finds every occurrence there is. -/
theorem Unbordered.substitute_eq (whole : Unbordered pattern) (text : List Char) :
    substitute pattern replacement text = replacedEach pattern replacement text := by
  induction text using substitute_induct whole.nonempty with
  | nil => rw [substitute_nil]; rfl
  | replaced rest ih =>
      rw [substitute_append whole.nonempty, whole.replacedEach_append, ih]
  | kept c rest stays ih =>
      rw [substitute_cons whole.nonempty stays, replacedEach_cons stays, ih]

end QueryGroup.Text

namespace QueryGroup.Tenor

open Text

theorem unbordered_bareCall : Unbordered bareCall where
  nonempty := by decide
  ends := by decide +kernel

theorem isSettled_iff (expression : String) :
    isSettled expression = true ↔ ¬ bareCall <:+: expression.toList := by
  rw [isSettled, Bool.not_eq_eq_eq_not, Bool.not_true, occurs_eq_false_iff]

theorem castReportDate_eq_self_iff (expression : String) :
    castReportDate expression = expression ↔ ¬ bareCall <:+: expression.toList := by
  rw [← isSettled_iff]
  constructor
  · intro same
    rw [← same]
    exact isSettled_castReportDate expression
  · exact castReportDate_of_isSettled

/-- Every bare call is cast, wherever it stands, and nothing else is changed. No two of them
overlap, none is left or made, and an expression without any is kept as it is. -/
theorem castReportDate_replaces_each (expression : String) :
    (∀ {start next : Nat}, OccursAt bareCall expression.toList start →
        OccursAt bareCall expression.toList next → start < next →
        start + bareCall.length ≤ next) ∧
      (castReportDate expression).toList = replacedEach bareCall castCall expression.toList ∧
      ¬ bareCall <:+: (castReportDate expression).toList ∧
      castReportDate (castReportDate expression) = castReportDate expression ∧
      (castReportDate expression = expression ↔ ¬ bareCall <:+: expression.toList) ∧
      (isSettled expression = true ↔ ¬ bareCall <:+: expression.toList) := by
  have parted : (castReportDate expression).toList =
      replacedEach bareCall castCall expression.toList := by
    rw [castReportDate, String.toList_ofList, unbordered_bareCall.substitute_eq]
  have settled := (isSettled_iff _).1 (isSettled_castReportDate expression)
  exact ⟨unbordered_bareCall.le_of_occursAt, parted, settled,
    castReportDate_castReportDate expression, castReportDate_eq_self_iff expression,
    isSettled_iff expression⟩

/-- A call that breaks off, and two with nothing in front of them or between them. -/
def abuttingCalls : String := "DateToTenor(DateToTenor(REPORT_DATEDateToTenor(REPORT_DATE"

theorem castReportDate_replaces_each_abuttingCalls :
    OccursAt bareCall abuttingCalls.toList 12 ∧ OccursAt bareCall abuttingCalls.toList 35 ∧
      12 + bareCall.length ≤ 35 ∧
      castReportDate abuttingCalls =
        "DateToTenor(DateToTenor(date(REPORT_DATE)DateToTenor(date(REPORT_DATE)" ∧
      (castReportDate abuttingCalls).toList =
        replacedEach bareCall castCall abuttingCalls.toList ∧
      ¬ bareCall <:+: (castReportDate abuttingCalls).toList ∧
      castReportDate (castReportDate abuttingCalls) = castReportDate abuttingCalls ∧
      castReportDate abuttingCalls ≠ abuttingCalls := by
  have first : OccursAt bareCall abuttingCalls.toList 12 := by decide +kernel
  have second : OccursAt bareCall abuttingCalls.toList 35 := by decide +kernel
  have present : bareCall <:+: abuttingCalls.toList :=
    first.isInfix.trans (List.drop_suffix _ _).isInfix
  obtain ⟨disjoint, written, absent, again, kept, -⟩ := castReportDate_replaces_each abuttingCalls
  exact ⟨first, second, disjoint first second (by decide), by decide +kernel, written, absent,
    again, fun same => kept.1 same present⟩

end QueryGroup.Tenor
