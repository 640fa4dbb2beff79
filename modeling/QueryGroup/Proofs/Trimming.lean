import Mathlib.Data.List.DropRight
import QueryGroup.Json.Value
import QueryGroup.Text.Blank
set_option autoImplicit false

namespace QueryGroup

namespace Text

theorem trimStart_eq_of_starts {front text : List Char} (starts : front <+: text)
    (trimmed : trimStart text = text) : trimStart front = front := by
  obtain ⟨back, rfl⟩ := starts
  cases front with
  | nil => rfl
  | cons c rest =>
      have first := List.dropWhile_eq_self_iff.1 trimmed (Nat.succ_pos _)
      exact List.dropWhile_eq_self_iff.2 fun _ => first

/-- The second trimming finds no blank at the front, since its text starts where that of the
first one does. -/
theorem trimChars_trimChars (text : List Char) :
    trimChars (trimChars text) = trimChars text := by
  have once : trimStart (trimStart text) = trimStart text := List.dropWhile_idempotent isBlank text
  have starts : trimEnd (trimStart text) <+: trimStart text :=
    List.rdropWhile_prefix isBlank _
  calc
    trimChars (trimChars text) = trimEnd (trimStart (trimEnd (trimStart text))) := rfl
    _ = trimEnd (trimEnd (trimStart text)) := by rw [trimStart_eq_of_starts starts once]
    _ = trimChars text := List.rdropWhile_idempotent isBlank (trimStart text)

theorem trim_trim (text : String) : trim (trim text) = trim text := by
  simp only [trim, String.toList_ofList, trimChars_trimChars]

/-- No blank stands at either end of the text. -/
structure Unpadded (text : List Char) : Prop where
  start : ∀ c, text.head? = some c → isBlank c = false
  stop : ∀ c, text.getLast? = some c → isBlank c = false

theorem trimStart_eq_self_iff {text : List Char} :
    trimStart text = text ↔ ∀ c, text.head? = some c → isBlank c = false := by
  rw [trimStart, List.dropWhile_eq_self_iff]
  cases text with
  | nil => simp
  | cons c rest => simp

theorem trimEnd_eq_self_iff {text : List Char} :
    trimEnd text = text ↔ ∀ c, text.getLast? = some c → isBlank c = false := by
  rw [← List.head?_reverse, ← trimStart_eq_self_iff]
  exact List.reverse_eq_iff

/-- Trimming leaves those texts as they are that have nothing to trim. -/
theorem trimChars_eq_self_iff {text : List Char} : trimChars text = text ↔ Unpadded text := by
  constructor
  · intro trimmed
    have stops : trimEnd (trimStart text) <+: trimStart text := List.rdropWhile_prefix isBlank _
    have starts : trimStart text <:+ text := List.dropWhile_suffix isBlank
    have long : text.length ≤ (trimStart text).length := by
      have shorter := stops.length_le
      rwa [show trimEnd (trimStart text) = text from trimmed] at shorter
    have start : trimStart text = text := starts.eq_of_length_le long
    rw [trimChars, start] at trimmed
    exact ⟨trimStart_eq_self_iff.1 start, trimEnd_eq_self_iff.1 trimmed⟩
  · rintro ⟨start, stop⟩
    rw [trimChars, trimStart_eq_self_iff.2 start, trimEnd_eq_self_iff.2 stop]

theorem trim_eq_self_iff {text : String} : trim text = text ↔ Unpadded text.toList := by
  rw [← trimChars_eq_self_iff, ← String.toList_inj, trim, String.toList_ofList]

/-- The text has no blanks. -/
def Solid (text : List Char) : Prop := ∀ c ∈ text, isBlank c = false

@[simp] theorem solid_nil : Solid [] := by simp [Solid]

@[simp] theorem solid_cons (c : Char) (text : List Char) :
    Solid (c :: text) ↔ isBlank c = false ∧ Solid text := by
  simp [Solid]

@[simp] theorem solid_append (front back : List Char) :
    Solid (front ++ back) ↔ Solid front ∧ Solid back := by
  simp [Solid, or_imp, forall_and]

theorem trimChars_of_solid {text : List Char} (solid : Solid text) : trimChars text = text := by
  have start : trimStart text = text := by
    apply List.dropWhile_eq_self_iff.2
    intro positive
    rw [solid _ (List.getElem_mem positive)]
    exact Bool.false_ne_true
  have stop : trimEnd text = text := by
    apply List.rdropWhile_eq_self_iff.2
    intro nonempty
    rw [solid _ (List.getLast_mem nonempty)]
    exact Bool.false_ne_true
  rw [trimChars, start, stop]

theorem isBlank_of_isDigit {c : Char} (digit : c.isDigit = true) : isBlank c = false := by
  simp only [Char.isDigit, ge_iff_le, Bool.and_eq_true, decide_eq_true_eq,
    UInt32.le_iff_toNat_le] at digit
  change 48 ≤ c.toNat ∧ c.toNat ≤ 57 at digit
  unfold isBlank
  generalize c.toNat = n at digit
  simp only [Bool.or_eq_false_iff, Bool.and_eq_false_iff, decide_eq_false_iff_not,
    beq_eq_false_iff_ne]
  omega

theorem solid_toDigits (n : Nat) : Solid (Nat.toDigits 10 n) :=
  fun _ member => isBlank_of_isDigit (Nat.isDigit_of_mem_toDigits (by decide) (by decide) member)

end Text

namespace Decimal

open Text

theorem solid_zeros (n : Nat) : Solid (zeros n) := by
  intro c member
  rw [List.eq_of_mem_replicate member]
  rfl

theorem solid_positional {digits : List Char} (solid : Solid digits) (exponent : Int) :
    Solid (positional digits exponent) := by
  have front (n : Nat) : Solid (digits.take n) := fun c member =>
    solid c (List.mem_of_mem_take member)
  have back (n : Nat) : Solid (digits.drop n) := fun c member =>
    solid c (List.mem_of_mem_drop member)
  simp only [positional]
  split
  · simp [solid, solid_zeros, isBlank]
  · split
    · simp [front, back, isBlank]
    · simp [solid, solid_zeros, isBlank]

theorem solid_scientific {digits : List Char} (solid : Solid digits) (exponent : Int) :
    Solid (scientific digits exponent) := by
  have sign (negative : Prop) [Decidable negative] :
      isBlank (if negative then '-' else '+') = false := by
    split <;> rfl
  have letter : isBlank 'e' = false := rfl
  have point : isBlank '.' = false := rfl
  rcases digits with _ | ⟨d, _ | ⟨e, rest⟩⟩
  · simp [scientific, letter, sign, solid_toDigits]
  · rw [solid_cons] at solid
    simp [scientific, letter, sign, solid, solid_toDigits]
  · simp only [solid_cons] at solid
    simp [scientific, letter, point, sign, solid, solid_toDigits]

theorem solid_binary64 (x : Binary64) : Solid x.chars := by
  have digits := solid_toDigits x.shortest.digits
  have sign : Solid (if x.negative then ['-'] else []) := by
    split <;> simp [isBlank]
  rw [Binary64.chars, solid_append, Scientific.chars]
  refine ⟨sign, ?_⟩
  split
  · exact solid_positional digits _
  · exact solid_scientific digits _

end Decimal

namespace Json

open Text

theorem solid_number (n : Number) : Solid n.chars := by
  cases n with
  | integer value =>
      have sign : Solid (if value < 0 then ['-'] else []) := by
        split <;> simp [isBlank]
      rw [Number.chars, solid_append]
      exact ⟨sign, solid_toDigits value.natAbs⟩
  | double value => exact Decimal.solid_binary64 value

theorem trim_number (n : Number) : trim (Value.number n).text = (Value.number n).text := by
  simp only [trim, Value.text, Value.chars, String.toList_ofList,
    trimChars_of_solid (solid_number n)]

theorem trim_bool (value : Bool) : trim (Value.bool value).text = (Value.bool value).text := by
  cases value <;> rfl

end Json

end QueryGroup
