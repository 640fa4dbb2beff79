import QueryGroup.Decimal.Notation
set_option autoImplicit false

/- JSON numbers. A numeral without fraction and exponent that fits 64 bits is an integer;
every other numeral is a double, and minus zero is one of them. The significand of a
double takes digits as long as it fits 64 bits, then it is scaled by a power of ten, and
each of these steps rounds on its own. -/
namespace QueryGroup.Json

open QueryGroup.Decimal

inductive Number where
  | integer (value : Int)
  | double (value : Binary64)
deriving DecidableEq, Repr

def Number.chars : Number → List Char
  | .integer value => (if value < 0 then ['-'] else []) ++ Nat.toDigits 10 value.natAbs
  | .double value => value.chars

def Number.text (n : Number) : String := .ofList n.chars

/-- A number as it is spelt: digits of the whole part, of the fraction and of the exponent,
the latter with whether it is negative. -/
structure Numeral where
  negative : Bool
  whole : List Nat
  fraction : Option (List Nat)
  exponent : Option (Bool × List Nat)
deriving DecidableEq, Repr

def digits (text : List Char) : List Nat :=
  (text.takeWhile Char.isDigit).map fun c => c.toNat - '0'.toNat

def afterDigits (text : List Char) : List Char := text.dropWhile Char.isDigit

namespace Numeral

def scanFraction? : List Char → Option (Option (List Nat) × List Char)
  | '.' :: rest => if digits rest = [] then none else some (some (digits rest), afterDigits rest)
  | text => some (none, text)

def scanPower? (negative : Bool) (text : List Char) :
    Option (Option (Bool × List Nat) × List Char) :=
  if digits text = [] then none else some (some (negative, digits text), afterDigits text)

def scanExponent? : List Char → Option (Option (Bool × List Nat) × List Char)
  | [] => some (none, [])
  | e :: rest =>
      if e = 'e' ∨ e = 'E' then
        match rest with
        | '-' :: power => scanPower? true power
        | '+' :: power => scanPower? false power
        | power => scanPower? false power
      else some (none, e :: rest)

/-- Reads the digits of a number after its sign. A leading zero stands alone. -/
def scanUnsigned? (negative : Bool) (text : List Char) : Option (Numeral × List Char) :=
  if digits text = [] ∨ ((digits text).head? = some 0 ∧ (digits text).length ≠ 1) then none
  else do
    let (fraction, rest) ← scanFraction? (afterDigits text)
    let (exponent, rest) ← scanExponent? rest
    return (⟨negative, digits text, fraction, exponent⟩, rest)

def scan? : List Char → Option (Numeral × List Char)
  | '-' :: rest => scanUnsigned? true rest
  | text => scanUnsigned? false text

def significandLimit : Nat := twoTo 64 - 1

/-- Takes digits into the significand while it stays within its limit. The digits that
find no place are left over. -/
def absorb : Nat → List Nat → Nat × List Nat
  | significand, [] => (significand, [])
  | significand, digit :: rest =>
      if significand * 10 + digit ≤ significandLimit then absorb (significand * 10 + digit) rest
      else (significand, digit :: rest)

/-- The value of an exponent's digits, unless it exceeds 31 bits on the way. -/
def power? (digits : List Nat) : Option Nat :=
  digits.foldlM (fun power digit =>
    if power * 10 + digit < twoTo 31 then some (power * 10 + digit) else none) 0

/-- The greatest power of ten used as a factor. -/
def greatestPower : Nat := 308

def powerOfTen? (power : Nat) : Option Binary64 := Binary64.round? (tenTo power) 1

/-- The double times a power of ten, or nothing beyond the finite doubles. An exponent too
small for one division is met by dividing again until the double is zero. -/
def scaled? (x : Binary64) (exponent : Int) : Option Binary64 :=
  if exponent.natAbs ≤ greatestPower then do
    let factor ← powerOfTen? exponent.natAbs
    if 0 ≤ exponent then x.mul? factor else x.div? factor
  else if x.isZero then some x
  else if 0 ≤ exponent then none
  else do
    let factor ← powerOfTen? greatestPower
    let quotient ← x.div? factor
    scaled? quotient (exponent + greatestPower)
termination_by exponent.natAbs
decreasing_by
  have positive : 0 < greatestPower := by decide
  omega

def double? (significand : Nat) (exponent : Int) (power : Option (Bool × List Nat)) :
    Option Binary64 := do
  let x ← Binary64.round? significand 1
  match power with
  | none => scaled? x exponent
  | some (negative, digits) =>
      match power? digits with
      | some power => scaled? x (if negative then exponent - power else exponent + power)
      | none => if significand = 0 ∨ negative then some (Binary64.zero false) else none

/-- An integer numeral's value, where a 64-bit integer has it. -/
def integer? (numeral : Numeral) : Option Int :=
  let (significand, surplus) := absorb 0 numeral.whole
  if numeral.fraction.isSome ∨ numeral.exponent.isSome ∨ surplus ≠ [] then none
  else if numeral.negative then
    if significand = 0 ∨ twoTo 63 < significand then none else some (-significand)
  else some significand

/-- The number that a numeral denotes, or nothing beyond the finite doubles. -/
def number? (numeral : Numeral) : Option Number :=
  match numeral.integer? with
  | some value => some (.integer value)
  | none =>
      let (significand, surplus) := absorb 0 numeral.whole
      let fraction := numeral.fraction.getD []
      let (significand, ignored) := absorb significand fraction
      let exponent : Int := surplus.length - (fraction.length - ignored.length : Nat)
      (double? significand exponent numeral.exponent).map fun x =>
        .double (x.withSign numeral.negative)

theorem length_afterDigits_le (text : List Char) :
    (afterDigits text).length ≤ text.length :=
  (List.dropWhile_suffix Char.isDigit).length_le

theorem length_afterDigits_lt {text : List Char} (some_digit : digits text ≠ []) :
    (afterDigits text).length < text.length := by
  cases text with
  | nil => simp [digits] at some_digit
  | cons c rest =>
    by_cases digit : c.isDigit = true
    · simp only [afterDigits, List.dropWhile_cons, digit, if_true, List.length_cons]
      exact Nat.lt_succ_of_le (length_afterDigits_le rest)
    · simp [digits, digit] at some_digit

theorem scanFraction?_length {text rest : List Char} {fraction : Option (List Nat)}
    (scanned : scanFraction? text = some (fraction, rest)) : rest.length ≤ text.length := by
  unfold scanFraction? at scanned
  split at scanned
  · split at scanned
    · contradiction
    · cases scanned
      exact Nat.le_succ_of_le (length_afterDigits_le _)
  · cases scanned
    exact Nat.le_refl _

theorem scanPower?_length {negative : Bool} {text rest : List Char}
    {power : Option (Bool × List Nat)}
    (scanned : scanPower? negative text = some (power, rest)) : rest.length ≤ text.length := by
  unfold scanPower? at scanned
  split at scanned
  · contradiction
  · cases scanned
    exact length_afterDigits_le _

theorem scanExponent?_length {text rest : List Char} {power : Option (Bool × List Nat)}
    (scanned : scanExponent? text = some (power, rest)) : rest.length ≤ text.length := by
  unfold scanExponent? at scanned
  split at scanned
  · cases scanned
    exact Nat.le_refl _
  · split at scanned
    · split at scanned <;> have shorter := scanPower?_length scanned <;>
        simp only [List.length_cons] at * <;> omega
    · cases scanned
      exact Nat.le_refl _

theorem scanUnsigned?_length {negative : Bool} {text rest : List Char} {numeral : Numeral}
    (scanned : scanUnsigned? negative text = some (numeral, rest)) :
    rest.length < text.length := by
  unfold scanUnsigned? at scanned
  split at scanned
  · contradiction
  · next usable =>
    cases fractionRead : scanFraction? (afterDigits text) with
    | none => simp [fractionRead] at scanned
    | some fraction =>
      cases exponentRead : scanExponent? fraction.2 with
      | none => simp [fractionRead, exponentRead] at scanned
      | some exponent =>
        simp [fractionRead, exponentRead] at scanned
        have first := length_afterDigits_lt fun h => usable (Or.inl h)
        have second := scanFraction?_length fractionRead
        have third := scanExponent?_length exponentRead
        rw [← scanned.2]
        omega

theorem scan?_length {text rest : List Char} {numeral : Numeral}
    (scanned : scan? text = some (numeral, rest)) : rest.length < text.length := by
  unfold scan? at scanned
  split at scanned
  · exact Nat.lt_succ_of_lt (scanUnsigned?_length scanned)
  · exact scanUnsigned?_length scanned

end Numeral

end QueryGroup.Json
