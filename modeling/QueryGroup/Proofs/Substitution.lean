import QueryGroup.Tenor
set_option autoImplicit false

/- Literal substitution, by what stands at the front of the text: an occurrence, or a
character that starts none. Where the pattern can meet neither itself nor the replacement
halfway, substitution leaves no occurrence behind, not even across a seam. -/
namespace QueryGroup.Text

variable {pattern replacement : List Char}

theorem substituteFrom_length_append (front rest : List Char) :
    substituteFrom pattern replacement front.length (front ++ rest) =
      substituteFrom pattern replacement 0 rest := by
  induction front with
  | nil => rfl
  | cons c front ih => exact ih

@[simp] theorem substitute_nil : substitute pattern replacement [] = [] := by
  unfold substitute
  split <;> rfl

theorem substitute_append (nonempty : pattern ≠ []) (rest : List Char) :
    substitute pattern replacement (pattern ++ rest) =
      replacement ++ substitute pattern replacement rest := by
  obtain ⟨first, tail, rfl⟩ := List.exists_cons_of_ne_nil nonempty
  have starts : (first :: tail).isPrefixOf (first :: (tail ++ rest)) = true :=
    List.isPrefixOf_iff_prefix.2 (List.prefix_append (first :: tail) rest)
  simp only [substitute, List.isEmpty_cons, Bool.false_eq_true, if_false, List.cons_append,
    substituteFrom, starts, if_true, List.length_cons, Nat.add_sub_cancel,
    substituteFrom_length_append]

theorem substitute_cons (nonempty : pattern ≠ []) {c : Char} {rest : List Char}
    (kept : ¬ pattern <+: c :: rest) :
    substitute pattern replacement (c :: rest) = c :: substitute pattern replacement rest := by
  have stays : pattern.isPrefixOf (c :: rest) = false := by
    rw [← Bool.not_eq_true, List.isPrefixOf_iff_prefix]
    exact kept
  have present : pattern.isEmpty = false := by simpa using nonempty
  simp only [substitute, present, Bool.false_eq_true, if_false, substituteFrom, stays]

/-- A text is empty, or starts with an occurrence, or with a character that starts none. -/
@[elab_as_elim]
theorem substitute_induct {motive : List Char → Prop} (nonempty : pattern ≠ [])
    (nil : motive [])
    (replaced : ∀ rest, motive rest → motive (pattern ++ rest))
    (kept : ∀ c rest, ¬ pattern <+: c :: rest → motive rest → motive (c :: rest))
    (text : List Char) : motive text := by
  induction size : text.length using Nat.strongRecOn generalizing text with
  | ind n ih =>
    cases text with
    | nil => exact nil
    | cons c rest =>
      by_cases starts : pattern <+: c :: rest
      · obtain ⟨behind, shape⟩ := starts
        have positive := List.length_pos_iff.2 nonempty
        have lengths := congrArg List.length shape
        rw [List.length_append] at lengths
        rw [← shape]
        exact replaced behind (ih behind.length (by omega) behind rfl)
      · rw [List.length_cons] at size
        exact kept c rest starts (ih rest.length (by omega) rest rfl)

/-- One of the texts starts with the other. -/
def Meets (a b : List Char) : Prop := a <+: b ∨ b <+: a

instance (a b : List Char) : Decidable (Meets a b) := inferInstanceAs (Decidable (_ ∨ _))

theorem meets_of_prefix_append {a b rest : List Char} (starts : a <+: b ++ rest) : Meets a b :=
  List.prefix_or_prefix_of_prefix starts (List.prefix_append b rest)

/-- No end of the first text, short of the whole of it, can run into the second. -/
def EndsApart (front back : List Char) : Prop :=
  ∀ k < front.length, k ≠ 0 → ¬ Meets (front.drop k) back

instance (front back : List Char) : Decidable (EndsApart front back) :=
  inferInstanceAs (Decidable (∀ k < front.length, k ≠ 0 → ¬ Meets (front.drop k) back))

/-- No end of the pattern can run into the replacement, and no end of the replacement into
the pattern. -/
structure Apart (pattern replacement : List Char) : Prop where
  nonempty : pattern ≠ []
  ends : EndsApart pattern replacement
  inside : ∀ k < replacement.length, ¬ Meets pattern (replacement.drop k)

variable {target : List Char}

/-- An end of such a text that stands at the front after substitution stood there before. -/
theorem prefix_of_prefix_substitute (nonempty : pattern ≠ []) (apart : EndsApart target replacement)
    (text : List Char) :
    ∀ k, k ≠ 0 → target.drop k <+: substitute pattern replacement text → target.drop k <+: text := by
  induction text using substitute_induct nonempty with
  | nil =>
      intro k _ starts
      rw [substitute_nil] at starts
      exact starts
  | replaced rest ih =>
      intro k positive starts
      rw [substitute_append nonempty] at starts
      by_cases short : k < target.length
      · exact absurd (meets_of_prefix_append starts) (apart k short positive)
      · rw [List.drop_eq_nil_of_le (by omega)]
        exact List.nil_prefix
  | kept c rest stays ih =>
      intro k positive starts
      rw [substitute_cons nonempty stays] at starts
      by_cases short : k < target.length
      · rw [List.drop_eq_getElem_cons short, List.cons_prefix_cons] at starts ⊢
        exact ⟨starts.1, ih (k + 1) (by omega) starts.2⟩
      · rw [List.drop_eq_nil_of_le (by omega)]
        exact List.nil_prefix

theorem not_prefix_substitute (nonempty : pattern ≠ []) (apart : EndsApart target replacement)
    (present : target ≠ []) {c : Char} {rest : List Char} (stays : ¬ target <+: c :: rest) :
    ¬ target <+: c :: substitute pattern replacement rest := by
  intro starts
  have behind := prefix_of_prefix_substitute nonempty apart rest 1 (by decide)
  obtain ⟨first, tail, rfl⟩ := List.exists_cons_of_ne_nil present
  rw [List.cons_prefix_cons] at starts stays
  exact stays ⟨starts.1, behind starts.2⟩

theorem occurs_append_eq_false {front rest : List Char}
    (inside : ∀ k < front.length, ¬ Meets pattern (front.drop k))
    (absent : occurs pattern rest = false) : occurs pattern (front ++ rest) = false := by
  induction front with
  | nil => exact absent
  | cons c front ih =>
      have here : pattern.isPrefixOf (c :: (front ++ rest)) = false := by
        rw [← Bool.not_eq_true, List.isPrefixOf_iff_prefix]
        intro starts
        exact inside 0 (by simp) (meets_of_prefix_append starts)
      have later := ih fun k short => inside (k + 1) (by simpa using short)
      simp only [List.cons_append, occurs, here, later, Bool.or_self]

/-- Substitution leaves no occurrence. -/
theorem occurs_substitute (apart : Apart pattern replacement) (text : List Char) :
    occurs pattern (substitute pattern replacement text) = false := by
  induction text using substitute_induct apart.nonempty with
  | nil =>
      rw [substitute_nil]
      simpa [occurs] using apart.nonempty
  | replaced rest ih =>
      rw [substitute_append apart.nonempty]
      exact occurs_append_eq_false apart.inside ih
  | kept c rest stays ih =>
      have here : pattern.isPrefixOf (c :: substitute pattern replacement rest) = false := by
        rw [← Bool.not_eq_true, List.isPrefixOf_iff_prefix]
        exact not_prefix_substitute apart.nonempty apart.ends apart.nonempty stays
      rw [substitute_cons apart.nonempty stays]
      simp only [occurs, here, ih, Bool.or_self]

/-- Occurrences of one character cannot overlap, so each is replaced where it stands. -/
theorem substitute_single (c : Char) (replacement text : List Char) :
    substitute [c] replacement text =
      text.flatMap fun d => if d = c then replacement else [d] := by
  have nonempty : [c] ≠ [] := by simp
  induction text with
  | nil => rw [substitute_nil, List.flatMap_nil]
  | cons d rest ih =>
      by_cases same : d = c
      · subst same
        have replaced : substitute [d] replacement ([d] ++ rest) = _ :=
          substitute_append nonempty rest
        rw [List.singleton_append] at replaced
        rw [replaced, ih, List.flatMap_cons, if_pos rfl]
      · have stays : ¬ [c] <+: d :: rest := by
          rw [List.cons_prefix_cons]
          exact fun starts => same starts.1.symm
        rw [substitute_cons nonempty stays, ih, List.flatMap_cons, if_neg same,
          List.singleton_append]

theorem substitute_single_of_not_mem {c : Char} {text : List Char} (absent : c ∉ text)
    (replacement : List Char) : substitute [c] replacement text = text := by
  rw [substitute_single]
  induction text with
  | nil => rfl
  | cons d rest ih =>
      rw [List.mem_cons, not_or] at absent
      rw [List.flatMap_cons, if_neg (Ne.symm absent.1), ih absent.2, List.singleton_append]

end QueryGroup.Text

namespace QueryGroup.Tenor

open Text

theorem apart_bareCall_castCall : Apart bareCall castCall where
  nonempty := by decide
  ends := by decide +kernel
  inside := by decide +kernel

theorem isSettled_castReportDate (expression : String) :
    isSettled (castReportDate expression) = true := by
  simp only [isSettled, castReportDate, String.toList_ofList,
    occurs_substitute apart_bareCall_castCall, Bool.not_false]

/-- A date that is cast once is not cast again. -/
theorem castReportDate_castReportDate (expression : String) :
    castReportDate (castReportDate expression) = castReportDate expression :=
  castReportDate_of_isSettled (isSettled_castReportDate expression)

end QueryGroup.Tenor
