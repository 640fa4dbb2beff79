import QueryGroup.Document.Tree
import QueryGroup.Text.Parts
import QueryGroup.Toml.Moment
import QueryGroup.Toml.Text
set_option autoImplicit false

/- Booleans and numbers in TOML. Underscores may group digits. An integer has a value if 64
bits hold it, with or without a sign, and may be passed over if 128 bits do; a float is the
nearest double. What is spelt like a number and is none is only refused where it is
looked at. -/
namespace QueryGroup.Toml

open Document Decimal Json Text

def ungroup? : List Char → Option (List Char)
  | [] => none
  | [c] => if c = '_' then none else some [c]
  | c :: '_' :: rest => if c = '_' then none else (ungroup? rest).map (c :: ·)
  | c :: rest => if c = '_' then none else (ungroup? rest).map (c :: ·)

def numberIn? (base : Nat) (text : List Char) : Option Nat := do
  let digits ← ungroup? text
  digits.foldlM (fun number c =>
    match hexDigit? c with
    | some digit => if digit < base then some (number * base + digit) else none
    | none => none) 0

/-- A decimal number has no zero in front of other digits. -/
def whole? (text : List Char) : Option Nat :=
  if text.head? = some '0' ∧ text.length ≠ 1 then none else numberIn? 10 text

def integerTree (value : Int) : Tree :=
  if -twoTo 63 ≤ value ∧ value < twoTo 64 then .number (some (.integer value))
  else if -twoTo 127 ≤ value ∧ value < twoTo 128 then .number none
  else .broken

/-- An integer whose groups of digits may be anything inside. Each starts and ends with a
hexadecimal digit, except that the end of the last one is not looked at. -/
def looksGrouped (text : List Char) : Bool :=
  let startsWell (group : List Char) : Bool := (group.head?.bind hexDigit?).isSome
  let endsWell (group : List Char) : Bool := (group.getLast?.bind hexDigit?).isSome
  let pointed (c : Char) : Bool := c == '.' || c == 'e' || c == 'E'
  match partsAt '_' text with
  | first :: later =>
      !later.isEmpty && !text.any pointed && first.all Char.isDigit && first.head? != some '0' &&
        (first :: later).all startsWell && (first :: later).dropLast.all endsWell
  | [] => false

def remotePower : Int := 400

/-- The double nearest to `significand * 10 ^ exponent`, if that is finite. -/
def nearest? (significand : Nat) (exponent : Int) : Option Binary64 :=
  let top := digitCount significand + exponent
  if significand = 0 ∨ top < -remotePower then some (.zero false)
  else if remotePower < top then none
  else Binary64.round? (significand * tenTo exponent.toNat) (tenTo (-exponent).toNat)

def cutAt (stop : Char → Bool) (text : List Char) : List Char × Option (List Char) :=
  let front := text.takeWhile fun c => !stop c
  match text.dropWhile fun c => !stop c with
  | [] => (front, none)
  | _ :: rest => (front, some rest)

def signed (text : List Char) : Bool × List Char :=
  match text with
  | '-' :: rest => (true, rest)
  | '+' :: rest => (false, rest)
  | rest => (false, rest)

/-- The exponent of a float, where it has one. -/
def power? : Option (List Char) → Option Int
  | none => some 0
  | some text =>
      let (negative, digits) := signed text
      (numberIn? 10 digits).map fun n => if negative then -n else n

/-- The digits behind the point, as a number and their count. -/
def fraction? : Option (List Char) → Option (Nat × Nat)
  | none => some (0, 0)
  | some text => do
      let digits ← ungroup? text
      return (← numberIn? 10 text, digits.length)

def float? (negative : Bool) (text : List Char) : Option Tree := do
  let (mantissa, power) := cutAt (fun c => c == 'e' || c == 'E') text
  let (front, behind) := cutAt (· == '.') mantissa
  if power.isNone && behind.isNone then none
  let whole ← whole? front
  let (fraction, places) ← fraction? behind
  let power ← power? power
  return match nearest? (whole * tenTo places + fraction) (power - places) with
    | some double => .number (some (.double (double.withSign negative)))
    | none => .broken

def baseOf? : List Char → Option Nat
  | ['0', 'x'] => some 16
  | ['0', 'o'] => some 8
  | ['0', 'b'] => some 2
  | _ => none

/-- A number in base sixteen, eight or two, which takes no sign. Without digits it is
spelt like one and has no value. -/
def based? (text : List Char) : Option Tree := do
  let base ← baseOf? (text.take 2)
  let digits := text.drop 2
  if digits.isEmpty then return .broken
  return integerTree (← numberIn? base digits)

def unsigned? (negative : Bool) (text : List Char) : Option Tree :=
  if text = ['i', 'n', 'f'] ∨ text = ['n', 'a', 'n'] then some .nonfinite
  else
    match whole? text with
    | some n => some (integerTree (if negative then -n else n))
    | none => if looksGrouped text then some .broken else float? negative text

def scalar? (text : List Char) : Option Tree :=
  if text = boolWord true then some (.bool true)
  else if text = boolWord false then some (.bool false)
  else if startsMoment text then (moment? text).map Moment.tree
  else
    match based? text with
    | some tree => some tree
    | none => unsigned? (signed text).1 (signed text).2

end QueryGroup.Toml
