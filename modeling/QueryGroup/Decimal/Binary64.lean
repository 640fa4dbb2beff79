import QueryGroup.Decimal.Power
set_option autoImplicit false

/- Finite doubles and their rounding. A double is held by what it means, a sign, a
mantissa below `2 ^ 53` and an exponent from -1074 to 971, and every operation is done
exactly on fractions of naturals and then rounded to the nearest double, a tie going to
the even mantissa. -/
namespace QueryGroup.Decimal

/-- Plus or minus `mantissa * 2 ^ exponent`. The mantissa is at least `2 ^ 52` unless the
exponent is the least one. -/
structure Binary64 where
  negative : Bool
  mantissa : Nat
  exponent : Int
deriving DecidableEq, Repr

/-- The quotient rounded to the nearest natural, a tie to the even one. -/
def roundDiv (num den : Nat) : Nat :=
  let quotient := num / den
  let rest := num % den
  if 2 * rest < den then quotient
  else if 2 * rest > den then quotient + 1
  else if quotient % 2 = 0 then quotient else quotient + 1

namespace Binary64

def leastExponent : Int := -1074

def greatestExponent : Int := 971

def zero (negative : Bool) : Binary64 := ⟨negative, 0, leastExponent⟩

def isZero (x : Binary64) : Bool := x.mantissa == 0

/-- The fraction `num / den` in units of `2 ^ exponent`. -/
def inUnits (num den : Nat) (exponent : Int) : Nat × Nat :=
  if 0 ≤ exponent then (num, den * twoTo exponent.toNat)
  else (num * twoTo (-exponent).toNat, den)

/-- The exponent at which a positive fraction has a mantissa of 53 bits, or the least
one if it is too small for that. -/
def exponentOf (num den : Nat) : Int :=
  let guess : Int := (num.log2 : Int) - (den.log2 : Int)
  let (scaledNum, scaledDen) := inUnits num den guess
  let bits : Int := if scaledDen ≤ scaledNum then guess else guess - 1
  max (bits - 52) leastExponent

/-- The double nearest to `num / den`, or nothing if that is beyond the finite ones. -/
def round? (num den : Nat) : Option Binary64 :=
  if num = 0 then some (zero false)
  else
    let exponent := exponentOf num den
    let (scaledNum, scaledDen) := inUnits num den exponent
    let mantissa := roundDiv scaledNum scaledDen
    let (mantissa, exponent) :=
      if mantissa = twoTo 53 then (twoTo 52, exponent + 1) else (mantissa, exponent)
    if greatestExponent < exponent then none else some ⟨false, mantissa, exponent⟩

def fraction (x : Binary64) : Nat × Nat :=
  if 0 ≤ x.exponent then (x.mantissa * twoTo x.exponent.toNat, 1)
  else (x.mantissa, twoTo (-x.exponent).toNat)

def mul? (x y : Binary64) : Option Binary64 :=
  let (num, den) := x.fraction
  let (num', den') := y.fraction
  round? (num * num') (den * den')

/-- The rounded quotient of two magnitudes; the divisor is not zero. -/
def div? (x y : Binary64) : Option Binary64 :=
  let (num, den) := x.fraction
  let (num', den') := y.fraction
  round? (num * den') (den * num')

def withSign (x : Binary64) (negative : Bool) : Binary64 := { x with negative := negative }

example : round? 1 10 = some ⟨false, 7205759403792794, -56⟩ := by decide

example : round? (twoTo 53 + 1) 1 = some ⟨false, twoTo 52, 1⟩ := by decide

end Binary64

end QueryGroup.Decimal
